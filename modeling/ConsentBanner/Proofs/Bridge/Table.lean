import ConsentBanner.Flow.Bridge
import ConsentBanner.Flow.Primitive
import ConsentBanner.Flow.Run

/-!
# The table of open requests

What opening, answering and forgetting requests for page script do to the table, and that no two
requests have the same number.

A request for page script that is under way waits for its answer and sleeps until its deadline.  Whenever
it is run it takes an answer that is there, or gives up at the deadline, or goes on waiting.
-/

set_option autoImplicit false

namespace ConsentBanner

namespace Keyed

variable {κ ν : Type} [DecidableEq κ]

theorem get?_filter (keeps : κ → Bool) (key : κ) : ∀ table : Keyed κ ν,
    get? (table.filter fun entry => keeps entry.1) key = if keeps key then get? table key else none := by
  intro table
  induction table with
  | nil => simp [get?]
  | cons entry rest ih =>
      obtain ⟨first, value⟩ := entry
      by_cases same : first = key
      · subst same
        cases kept : keeps first with
        | true => simp [kept, get?]
        | false =>
            rw [kept] at ih
            simp [kept, ih]
      · by_cases kept : keeps first = true
        · simp [kept, get?, same, ih]
        · simp [kept, get?, same, ih]

end Keyed

namespace Bridge

/-- The request with a number. -/
def idOf (number : Nat) : String := "e" ++ toString number

theorem idOf_injective {number other : Nat} (same : idOf number = idOf other) : number = other := by
  have digits : Nat.toDigits 10 number = Nat.toDigits 10 other := by
    have texts := congrArg String.toList same
    simp only [idOf, String.toList_append, Nat.toString_eq_repr, Nat.toList_repr] at texts
    exact List.append_cancel_left texts
  have read := congrArg (fun chars => Nat.ofDigitChars 10 chars 0) digits
  simpa [Nat.ofDigitChars_toDigits] using read

theorem nextId_eq (bridge : Bridge) : bridge.nextId = idOf (bridge.opened + 1) := rfl

theorem resolve_of_mem {bridge : Bridge} {id : String} (pending : id ∈ bridge.pending) (value : Json)
    (order : Nat) : bridge.resolve id value order =
      (true, { bridge with
        pending := bridge.pending.filter fun other => other ≠ id
        answers := bridge.answers.put id (value, order) }) := by
  rw [resolve, if_pos (List.contains_iff_mem.mpr pending)]

/-- An answer that nobody waits for changes nothing. -/
theorem resolve_of_not_mem {bridge : Bridge} {id : String} (unknown : id ∉ bridge.pending) (value : Json)
    (order : Nat) : bridge.resolve id value order = (false, bridge) := by
  rw [resolve, if_neg (mt List.contains_iff_mem.mp unknown)]

/-- An answer concerns the request that it is for, if that is open, and no other. -/
structure Concerns (before : Bridge) (id : String) (accepted : Bool) (after : Bridge) : Prop where
  wanted : accepted = true ↔ id ∈ before.pending
  refused : accepted = false → after = before
  closed : id ∉ after.pending
  others : ∀ other, other ≠ id → after.answer? other = before.answer? other ∧
    (other ∈ after.pending ↔ other ∈ before.pending)

theorem resolve_concerns (bridge : Bridge) (id : String) (value : Json) (order : Nat) :
    bridge.Concerns id (bridge.resolve id value order).1 (bridge.resolve id value order).2 := by
  by_cases pending : id ∈ bridge.pending
  · rw [resolve_of_mem pending]
    refine ⟨iff_of_true rfl pending, nofun, by simp, fun other apart => ⟨?_, by simp [apart]⟩⟩
    exact Keyed.get?_put_of_ne _ _ (Ne.symm apart)
  · rw [resolve_of_not_mem pending]
    exact ⟨iff_of_false Bool.false_ne_true pending, fun _ => rfl, pending, fun _ _ => ⟨rfl, Iff.rfl⟩⟩

theorem answer?_forget (bridge : Bridge) (ids : List String) (id : String) :
    (bridge.forget ids).answer? id = if ids.contains id then none else bridge.answer? id := by
  have found := Keyed.get?_filter (fun key => !ids.contains key) id bridge.answers
  rw [answer?, forget, found]
  cases ids.contains id <;> rfl

theorem pending_forget (bridge : Bridge) (id : String) :
    (bridge.forget [id]).pending = bridge.pending.filter fun other => other ≠ id := by
  simp [forget]

theorem forget_nil (bridge : Bridge) : bridge.forget [] = bridge := by
  have kept : ∀ {α : Type} (list : List α), list.filter (fun _ => true) = list :=
    fun list => List.filter_eq_self.mpr fun _ _ => rfl
  simp [forget, kept]

end Bridge

/-! ## Requests under way -/

/-- What a request comes to, by what it waited for. -/
def inquiryResult (id : String) : Option (Option Json) → Except ConsentError Json
  | some (some value) => .ok value
  | some none => .error (.plain .channel ("eval #" ++ id ++ " abandoned by responder"))
  | none => .error (.evalTimeout id)

/-- A request that waits for its answer until a point in time. -/
def inquiring (id : String) (due order : Nat) : Flow (Except ConsentError Json) :=
  .first (.await id fun reply => .done (some reply)) (.asleep due order (.done none)) fun outcome =>
    .done (inquiryResult id outcome)

/-- A request says what it wants to know and waits, if it has any time. -/
theorem request_eq (timings : Timings) (code : String) : Primitive.request timings code =
    .ask (.openEval code) fun id =>
      .first (.await id fun reply => .done (some reply)) (.sleep timings.eval (.done none)) fun outcome =>
        .done (inquiryResult id outcome) := by
  have result : ∀ id, (fun outcome : Option (Option Json) =>
      (Flow.done (inquiryResult id outcome) : Flow (Except ConsentError Json))) =
        fun outcome => .done (match outcome with
          | some (some value) => .ok value
          | some none => .error (.plain .channel ("eval #" ++ id ++ " abandoned by responder"))
          | none => .error (.evalTimeout id)) := by
    intro id
    funext outcome
    rcases outcome with _ | _ | value <;> rfl
  simp only [result]
  rfl

section Run

variable {world : World} {id : String} {due order : Nat}

theorem request_run {timings : Timings} {code : String} (fresh : world.bridge.answer? world.bridge.nextId = none) :
    (Primitive.request timings code).run world =
      if timings.eval = 0 then
        (.done (.error (.evalTimeout world.bridge.nextId)), (world.openEval code).forget [world.bridge.nextId])
      else
        (inquiring world.bridge.nextId (world.clock + timings.eval) world.order,
          { world.openEval code with order := world.order + 1 }) := by
  have unanswered : (world.openEval code).bridge.answer? world.bridge.nextId = none := fresh
  have pending : (world.openEval code).bridge.pending.contains world.bridge.nextId = true := by
    simp [World.openEval, World.send, Bridge.openNext]
  by_cases zero : timings.eval = 0
  · simp only [request_eq, Flow.run, World.answer, unanswered, pending, Flow.value?, Flow.awaited, zero, if_true,
      inquiryResult]
  · simp only [request_eq, Flow.run, World.answer, unanswered, pending, Flow.value?, zero, if_true, if_false]
    rfl

theorem World.forget_nil (world : World) : world.forget [] = world := by
  rw [World.forget, Bridge.forget_nil]

theorem inquiring_run_answered {value : Json} {place : Nat}
    (answered : world.bridge.answer? id = some (value, place)) :
    (inquiring id due order).run world = (.done (.ok value), world.forget [id]) := by
  simp only [inquiring, Flow.run, answered, Flow.value?, Flow.awaited, World.forget_nil, inquiryResult]

/-- At the deadline a request without an answer gives up. -/
theorem inquiring_run_due (unanswered : world.bridge.answer? id = none) (pending : id ∈ world.bridge.pending)
    (late : due ≤ world.clock) :
    (inquiring id due order).run world = (.done (.error (.evalTimeout id)), world.forget [id]) := by
  simp only [inquiring, Flow.run, unanswered, List.contains_iff_mem.mpr pending, Flow.value?, Flow.awaited,
    if_true, if_pos late, inquiryResult]

theorem inquiring_run_early (unanswered : world.bridge.answer? id = none) (pending : id ∈ world.bridge.pending)
    (early : world.clock < due) :
    (inquiring id due order).run world = (inquiring id due order, world) := by
  simp only [inquiring, Flow.run, unanswered, List.contains_iff_mem.mpr pending, Flow.value?, if_true,
    if_neg (Nat.not_le_of_gt early)]

/-- A request that rests has no answer yet, and there is time left. -/
theorem inquiring_readyAt (rests : (inquiring id due order).readyAt world = none) :
    world.bridge.answer? id = none ∧ world.clock < due := by
  simp only [inquiring, Flow.readyAt] at rests
  cases answered : world.bridge.answer? id with
  | some answer =>
      obtain ⟨value, place⟩ := answer
      rw [answered] at rests
      by_cases late : due ≤ world.clock <;> simp [late, Flow.earlier] at rests
  | none =>
      refine ⟨rfl, Nat.lt_of_not_le fun late => ?_⟩
      rw [answered, if_pos late] at rests
      by_cases pending : id ∈ world.bridge.pending <;> simp [pending, Flow.earlier] at rests

theorem inquiring_rests (unanswered : world.bridge.answer? id = none) (pending : id ∈ world.bridge.pending)
    (early : world.clock < due) : (inquiring id due order).readyAt world = none := by
  simp only [inquiring, Flow.readyAt, unanswered, List.contains_iff_mem.mpr pending, if_true,
    if_neg (Nat.not_le_of_gt early), Flow.earlier]

theorem inquiring_nextDue : (inquiring id due order).nextDue = some due := rfl

theorem inquiring_awaited : (inquiring id due order).awaited = [id] := rfl

end Run

end ConsentBanner
