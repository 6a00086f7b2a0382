import ConsentBanner.Proofs.Bridge.Table
import ConsentBanner.Proofs.Flow.Alone
import ConsentBanner.Proofs.Flow.Running
import ConsentBanner.Proofs.Lists

/-!
# Requests that somebody awaits

A flow awaits the requests that it opens, and forgets those that it awaits no more.  So every open request
is awaited by somebody: `run_covers` says that a run leaves no other ones behind.
-/

set_option autoImplicit false

namespace ConsentBanner

/-- Every open request is free, or it is awaited. -/
def Bridge.Covered (bridge : Bridge) (free : String → Prop) (awaited : List String) : Prop :=
  ∀ id ∈ bridge.pending, free id ∨ id ∈ awaited

namespace Bridge.Covered

variable {bridge : Bridge} {free : String → Prop} {awaited ids : List String}

theorem ofAppend {others : List String} (covered : bridge.Covered free (others ++ awaited)) :
    bridge.Covered (fun id => free id ∨ id ∈ others) awaited := by
  intro id pending
  have known := covered id pending
  rw [List.mem_append] at known
  exact or_assoc.mpr known

theorem append {others : List String} (covered : bridge.Covered (fun id => free id ∨ id ∈ others) awaited) :
    bridge.Covered free (others ++ awaited) := by
  intro id pending
  rw [List.mem_append]
  exact or_assoc.mp (covered id pending)

theorem subset {more : List String} (covered : bridge.Covered free awaited) (within : awaited ⊆ more) :
    bridge.Covered free more :=
  fun id pending => (covered id pending).imp_right (within ·)

theorem swap {others : List String} (covered : bridge.Covered free (others ++ awaited)) :
    bridge.Covered free (awaited ++ others) :=
  covered.subset fun _ member => List.mem_append.mpr (List.mem_append.mp member).symm

/-- Where nobody awaits anything, nothing is missing. -/
theorem nothing (covered : bridge.Covered free []) : bridge.Covered free awaited :=
  covered.subset (List.nil_subset _)

theorem forget (covered : bridge.Covered free (ids ++ awaited)) : (bridge.forget ids).Covered free awaited := by
  intro id pending
  simp only [Bridge.forget, List.mem_filter, Bool.not_eq_true', List.contains_eq_mem, decide_eq_false_iff_not]
    at pending
  have known := covered id pending.1
  rw [List.mem_append] at known
  exact known.imp_right fun awaits => awaits.resolve_left pending.2

end Bridge.Covered

/-- A reply opens no request but the one that it is for. -/
theorem World.answer_covers {α β : Type} {free : String → Prop} {world : World} {request : Request β}
    {next : β → Flow α} (heeded : request.HeededBy next) (covered : world.bridge.Covered free []) :
    (world.answer request).2.bridge.Covered free (next (world.answer request).1).awaited := by
  cases request with
  | openEval code =>
      intro id pending
      simp only [World.answer, World.openEval, World.send, Bridge.openNext, List.mem_append,
        List.mem_singleton] at pending
      rcases pending with old | rfl
      · exact covered.nothing id old
      · exact .inr (heeded _)
  | resolve id value =>
      have concerns := world.bridge.resolve_concerns id value world.order
      refine Bridge.Covered.nothing fun other pending => covered other ?_
      have apart : other ≠ id := fun same => concerns.closed (same ▸ pending)
      exact (concerns.others other apart).2.mp pending
  | _ => exact covered.nothing

namespace Flow

variable {α : Type}

theorem mem_lanesAwaited {lanes : List (Flow Bool)} {id : String} :
    id ∈ lanesAwaited lanes ↔ ∃ lane ∈ lanes, id ∈ lane.awaited := by
  induction lanes with
  | nil => simp [lanesAwaited]
  | cons lane rest ih => simp [lanesAwaited, ih]

def raceAwaited (lanes : List (Flow Bool)) (started : Bool) (winner : Flow Bool) : List String :=
  if started then winner.awaited ++ lanesAwaited lanes else lanesAwaited lanes

theorem mem_raceAwaited {lanes : List (Flow Bool)} {started : Bool} {winner : Flow Bool} {id : String} :
    id ∈ raceAwaited lanes started winner ↔
      (started = true ∧ id ∈ winner.awaited) ∨ ∃ lane ∈ lanes, id ∈ lane.awaited := by
  cases started <;> simp [raceAwaited, mem_lanesAwaited]

theorem raceAwaited_filter (lanes : List (Flow Bool)) (started : Bool) (winner : Flow Bool) :
    raceAwaited lanes started winner ⊆
      raceAwaited (lanes.filter fun flow => flow.value?.isNone) started winner := by
  intro id awaits
  rw [mem_raceAwaited] at awaits ⊢
  refine awaits.imp_right fun ⟨lane, member, inside⟩ => ⟨lane, ?_, inside⟩
  refine List.mem_filter.mpr ⟨member, ?_⟩
  cases lane with
  | done value => cases inside
  | _ => rfl

def LeavesCovered (flow : Flow α) : Prop :=
  ∀ (free : String → Prop) (world : World), world.bridge.Covered free flow.awaited →
    (run flow world).2.bridge.Covered free (run flow world).1.awaited

theorem race_covers (free : String → Prop) : RaceKeeps LeavesCovered fun world lanes started winner =>
    world.bridge.Covered free (raceAwaited lanes started winner) where
  lane {world ahead lane behind started winner} leaves covered := by
    let others : String → Prop := fun id => free id ∨ id ∈ raceAwaited (ahead ++ behind) started winner
    have before : world.bridge.Covered others lane.awaited := by
      intro id pending
      rcases covered id pending with known | awaits
      · exact .inl (.inl known)
      · rw [mem_raceAwaited] at awaits
        rcases awaits with leads | ⟨other, member, inside⟩
        · exact .inl (.inr (mem_raceAwaited.mpr (.inl leads)))
        · rcases mem_insert member with rfl | member
          · exact .inr inside
          · exact .inl (.inr (mem_raceAwaited.mpr (.inr ⟨other, member, inside⟩)))
    intro id pending
    rw [mem_raceAwaited]
    rcases leaves others world before id pending with (known | awaits) | inside
    · exact .inl known
    · rcases mem_raceAwaited.mp awaits with leads | ⟨other, member, inside⟩
      · exact .inr (.inl leads)
      · exact .inr (.inr ⟨other, subset_insert _ ahead behind member, inside⟩)
    · exact .inr (.inr ⟨_, by simp, inside⟩)
  winner {world lanes started winner} leaves covered := by
    let others : String → Prop := fun id => free id ∨ id ∈ lanesAwaited lanes
    have before : world.bridge.Covered others winner.awaited := by
      intro id pending
      rcases covered id pending with known | awaits
      · exact .inl (.inl known)
      · rcases mem_raceAwaited.mp awaits with leads | inside
        · exact .inr leads.2
        · exact .inl (.inr (mem_lanesAwaited.mpr inside))
    intro id pending
    rw [mem_raceAwaited]
    rcases leaves others world before id pending with (known | awaits) | inside
    · exact .inl known
    · exact .inr (.inr (mem_lanesAwaited.mp awaits))
    · exact .inr (.inl ⟨rfl, inside⟩)

theorem race_leaves {lanes : List (Flow Bool)} {started : Bool} {winner : Flow Bool}
    {next : Option Bool → Flow α} (each : ∀ lane ∈ lanes, LeavesCovered lane) (lead : LeavesCovered winner)
    (onward : ∀ value, LeavesCovered (next value)) : LeavesCovered (.race lanes started winner next) := by
  intro free world covered
  obtain ⟨after, all, begun, leader, knows, runs⟩ := (race_covers free).run next each lead covered
  have left := knows.subset (raceAwaited_filter all begun leader)
  rw [runs]
  generalize all.filter (fun flow => flow.value?.isNone) = remain at left
  unfold conclude
  split
  next => exact onward none free after (left.subset (List.nil_subset _))
  next value decided =>
    obtain rfl := value?_eq_some.mp decided
    exact onward (some value) free after (left.subset (List.nil_subset _))
  next => exact left

theorem both_leaves {β γ : Type} {left : Flow β} {right : Flow γ} {next : β → γ → Flow α}
    (one : LeavesCovered left) (two : LeavesCovered right) (onward : ∀ a b, LeavesCovered (next a b)) :
    LeavesCovered (.both left right next) := by
  intro free world covered
  have first := (one _ world (Bridge.Covered.swap covered).ofAppend).append
  rw [run]
  generalize run left world = result at first ⊢
  obtain ⟨left, between⟩ := result
  have second := (two _ between first.swap.ofAppend).append
  simp only
  generalize run right between = result at second ⊢
  obtain ⟨right, after⟩ := result
  simp only at second ⊢
  split
  next a b isA isB =>
    obtain rfl := value?_eq_some.mp isA
    obtain rfl := value?_eq_some.mp isB
    exact onward a b free after second.nothing
  next => exact second

theorem first_leaves {β : Type} {left right : Flow β} {next : β → Flow α} (one : LeavesCovered left)
    (two : LeavesCovered right) (onward : ∀ a, LeavesCovered (next a)) :
    LeavesCovered (.first left right next) := by
  intro free world covered
  have first := (one _ world (Bridge.Covered.swap covered).ofAppend).append
  rw [run]
  generalize run left world = result at first ⊢
  obtain ⟨left, between⟩ := result
  simp only at first ⊢
  split
  next a isA =>
    obtain rfl := value?_eq_some.mp isA
    exact onward a free _ first.forget.nothing
  next =>
    have second := (two _ between first.swap.ofAppend).append
    generalize run right between = result at second ⊢
    obtain ⟨right, after⟩ := result
    simp only at second ⊢
    split
    next b isB =>
      obtain rfl := value?_eq_some.mp isB
      exact onward b free _ second.forget.nothing
    next => exact second

mutual

/-- Every flow that awaits what it opens leaves no other requests open. -/
theorem Confined.leaves {may : Allowance} : ∀ {α : Type} {alone : Bool} {flow : Flow α},
    flow.Confined may alone → LeavesCovered flow
  | _, _, .done _, _ => fun _ _ covered => covered
  | _, _, .ask request next, confined => fun free world covered =>
      Confined.leaves (confined.2 _) free _ (World.answer_covers confined.1.2 covered)
  | _, _, .sleep time next, confined => by
      have onward := Confined.leaves (show next.Confined may _ from confined)
      intro free world covered
      rw [run]
      split
      · exact onward free world covered.nothing
      · exact covered
  | _, _, .asleep due order next, confined => by
      have onward := Confined.leaves (show next.Confined may _ from confined)
      intro free world covered
      rw [run]
      split
      · exact onward free world covered.nothing
      · exact covered
  | _, _, .await id next, confined => by
      have onward := fun reply => Confined.leaves (confined.2 reply)
      intro free world covered
      rw [run]
      split
      · refine onward _ free _ (Bridge.Covered.nothing (Bridge.Covered.forget ?_))
        exact covered
      · split
        · exact covered
        next missing =>
          refine onward none free world (Bridge.Covered.nothing fun other pending => ?_)
          refine (covered other pending).imp_right fun same => absurd pending ?_
          obtain rfl := List.mem_singleton.mp same
          simpa using missing
  | _, _, .both left right next, confined => by
      have one := Confined.leaves confined.1
      have two := Confined.leaves confined.2.1
      have onward := fun a b => Confined.leaves (confined.2.2 a b)
      exact both_leaves one two onward
  | _, _, .first left right next, confined => by
      have onward := fun a => Confined.leaves (confined.2 a)
      rcases confined.1 with ⟨one, two⟩ | ⟨one, two⟩
      · have first := Confined.leaves one
        have second := Confined.leaves two
        exact first_leaves first second onward
      · have first := Confined.leaves one
        have second := Confined.leaves two
        exact first_leaves first second onward
  | _, _, .race lanes started winner next, confined => by
      have lead := Confined.leaves confined.2.1
      have onward := fun a => Confined.leaves (confined.2.2 a)
      exact race_leaves (LanesConfined.leaves confined.1) lead onward

theorem LanesConfined.leaves {may : Allowance} {alone : Bool} : ∀ {lanes : List (Flow Bool)},
    LanesConfined may alone lanes → ∀ lane ∈ lanes, LeavesCovered lane
  | [], _ => nofun
  | _ :: _, confined => by
      have first := Confined.leaves confined.1
      have others := LanesConfined.leaves confined.2
      exact List.forall_mem_cons.mpr ⟨first, others⟩

end

end Flow

end ConsentBanner
