import ConsentBanner.Error
import ConsentBanner.Proofs.Bridge.Table
import ConsentBanner.Proofs.Lists
import ConsentBanner.Timing
import Mathlib.Data.List.Induction

/-!
# What became of requests

A history tells when requests for page script were made, answered, given up and dropped, and when they
came to a result.  What became of a request follows from the entries about it alone: `standing`.
`Bridge.Tells` says that the table of open requests is what the history makes it.
-/

set_option autoImplicit false

namespace ConsentBanner

/-- What happens to a request. -/
inductive Event where
  | asked (code : String) (due : Nat)
  /-- An answer was handed in, and accepted or not. -/
  | resolved (value : Json) (accepted : Bool)
  | returned (result : Except ConsentError Json)
  | dropped

namespace Event

/-- A request is made. -/
def asks : Event → Bool
  | .asked _ _ => true
  | _ => false

/-- An answer is accepted. -/
def accepts : Event → Bool
  | .resolved _ accepted => accepted
  | _ => false

/-- A request comes to a result. -/
def returns : Event → Bool
  | .returned _ => true
  | _ => false

end Event

/-- What happened to a request, and when. -/
structure Entry where
  time : Nat
  id : String
  event : Event

/-- What became of a request: it waits for an answer until its deadline, or has one, or came to a
result, or was dropped. -/
inductive Standing where
  | unknown
  | waiting (due : Nat)
  | answered (due : Nat) (value : Json) (time : Nat)
  | returned (result : Except ConsentError Json)
  | dropped

namespace Standing

/-- What becomes of a request when something happens to it.  Only the first answer counts, and only if
the request waits for it. -/
def after : Standing → Entry → Standing
  | .unknown, ⟨_, _, .asked _ due⟩ => .waiting due
  | .waiting due, ⟨time, _, .resolved value _⟩ => .answered due value time
  | .waiting _, ⟨_, _, .returned result⟩ => .returned result
  | .answered _ _ _, ⟨_, _, .returned result⟩ => .returned result
  | .waiting _, ⟨_, _, .dropped⟩ => .dropped
  | .answered _ _ _, ⟨_, _, .dropped⟩ => .dropped
  | standing, _ => standing

/-- A request waits for an answer. -/
def isWaiting : Standing → Bool
  | .waiting _ => true
  | _ => false

/-- A request is in progress. -/
def isOpen : Standing → Bool
  | .waiting _ => true
  | .answered _ _ _ => true
  | _ => false

/-- The answer that a request has not taken yet. -/
def answer? : Standing → Option Json
  | .answered _ value _ => some value
  | _ => none

/-- A request came to a result. -/
def isReturned : Standing → Bool
  | .returned _ => true
  | _ => false

end Standing

/-- What became of a request, by its history. -/
def standing (log : List Entry) (id : String) : Standing :=
  (log.filter fun entry => entry.id = id).foldl Standing.after .unknown

theorem standing_snoc (log : List Entry) (entry : Entry) (id : String) : standing (log ++ [entry]) id =
    if entry.id = id then (standing log id).after entry else standing log id := by
  by_cases about : entry.id = id
  · simp [standing, about]
  · simp [standing, about]

/-- The requests that were made, in order. -/
def asked (log : List Entry) : List String :=
  (log.filter fun entry => entry.event.asks).map Entry.id

/-- The requests that wait for an answer, in order. -/
def waitingOnes (log : List Entry) : List String :=
  (asked log).filter fun id => (standing log id).isWaiting

theorem asked_snoc (log : List Entry) (entry : Entry) : asked (log ++ [entry]) =
    asked log ++ asked [entry] := by
  simp [asked]

theorem Standing.after_known {before : Standing} (known : before ≠ .unknown) (entry : Entry) :
    before.after entry ≠ .unknown := by
  obtain ⟨time, id, event⟩ := entry
  cases before with
  | unknown => exact absurd rfl known
  | _ => cases event <;> simp [after]

theorem Standing.after_returned {before : Standing} (isOpen : before.isOpen = true) (time : Nat) (id : String)
    (result : Except ConsentError Json) : before.after ⟨time, id, .returned result⟩ = .returned result := by
  cases before <;> first | rfl | cases isOpen

theorem Standing.after_dropped {before : Standing} (isOpen : before.isOpen = true) (time : Nat) (id : String) :
    before.after ⟨time, id, .dropped⟩ = .dropped := by
  cases before <;> first | rfl | cases isOpen

/-- The requests that something is known of are those that were made. -/
theorem mem_asked {log : List Entry} {id : String} : id ∈ asked log ↔ standing log id ≠ .unknown := by
  induction log using List.reverseRecOn with
  | nil => simp [asked, standing]
  | append_singleton log entry ih =>
      rw [asked_snoc, List.mem_append, standing_snoc, ih]
      obtain ⟨time, about, event⟩ := entry
      by_cases same : about = id
      · subst same
        cases known : standing log about with
        | unknown => cases event <;> simp [asked, Event.asks, Standing.after]
        | _ =>
            have after := @Standing.after_known (standing log about) (by simp [known]) ⟨time, about, event⟩
            rw [known] at after
            simp [after]
      · have other : id ∉ asked [⟨time, about, event⟩] := by
          cases event <;> simp [asked, Event.asks, Ne.symm same]
        simp [same, other]

theorem mem_waitingOnes {log : List Entry} {id : String} :
    id ∈ waitingOnes log ↔ (standing log id).isWaiting = true := by
  rw [waitingOnes, List.mem_filter, mem_asked]
  refine ⟨And.right, fun waits => ⟨fun unknown => ?_, waits⟩⟩
  rw [unknown] at waits
  cases waits

/-- Whoever asks for the first time waits. -/
theorem waitingOnes_asked {log : List Entry} {id : String} (unknown : standing log id = .unknown) (code : String)
    (due time : Nat) :
    waitingOnes (log ++ [⟨time, id, .asked code due⟩]) = waitingOnes log ++ [id] := by
  have others : ∀ other ∈ asked log, standing (log ++ [⟨time, id, .asked code due⟩]) other = standing log other := by
    intro other member
    rw [standing_snoc, if_neg]
    rintro rfl
    exact mem_asked.mp member unknown
  have self : (standing (log ++ [⟨time, id, .asked code due⟩]) id).isWaiting = true := by
    rw [standing_snoc, if_pos rfl, unknown]
    rfl
  rw [waitingOnes, asked_snoc, List.filter_append, waitingOnes]
  congr 1
  · exact List.filter_congr fun other member => congrArg Standing.isWaiting (others other member)
  · simp [asked, Event.asks, self]

/-- Whom something happens to that ends the wait waits no more. -/
theorem waitingOnes_ended {log : List Entry} {entry : Entry} (asks : entry.event.asks = false)
    (ended : ((standing log entry.id).after entry).isWaiting = false) :
    waitingOnes (log ++ [entry]) = (waitingOnes log).filter fun other => other ≠ entry.id := by
  have nobody : asked [entry] = [] := by simp [asked, asks]
  rw [waitingOnes, asked_snoc, nobody, List.append_nil, waitingOnes, List.filter_filter]
  refine List.filter_congr fun other _ => ?_
  rw [standing_snoc]
  by_cases same : entry.id = other
  · subst same
    simp [ended]
  · simp [same, Ne.symm same]

/-- An entry is as it must be, given those before it. -/
def Rightly (timings : Timings) (before : List Entry) (entry : Entry) : Prop :=
  match entry.event with
  | .asked _ due => standing before entry.id = .unknown ∧ due = entry.time + timings.eval
  | .resolved _ accepted => accepted = (standing before entry.id).isWaiting
  | .returned result =>
    (∃ due value, standing before entry.id = .answered due value entry.time ∧ entry.time ≤ due ∧
      result = .ok value) ∨
    standing before entry.id = .waiting entry.time ∧ result = .error (.evalTimeout entry.id)
  | .dropped => (standing before entry.id).isOpen = true

/-- Entries of a kind about a request. -/
def entriesOf (kind : Event → Bool) (log : List Entry) (id : String) : List Entry :=
  log.filter fun entry => entry.id = id && kind entry.event

theorem ite_le_one (condition : Prop) [Decidable condition] : (if condition then 1 else 0) ≤ 1 := by
  split <;> simp

/-- What uses something up for good happens once at most. -/
theorem entriesOf_length {timings : Timings} {kind : Event → Bool} (spent : Standing → Bool)
    (stays : ∀ before entry, spent before = true → spent (before.after entry) = true)
    (spends : ∀ before entry, Rightly timings before entry → kind entry.event = true →
      spent (standing before entry.id) = false ∧ spent ((standing before entry.id).after entry) = true)
    {log : List Entry} (rightly : Throughout (Rightly timings) log) (id : String) :
    (entriesOf kind log id).length ≤ if spent (standing log id) then 1 else 0 := by
  induction log using List.reverseRecOn with
  | nil => simp [entriesOf]
  | append_singleton log entry ih =>
      obtain ⟨before, right⟩ := rightly.of_snoc
      have earlier := ih before
      rw [entriesOf, List.filter_append, List.length_append, standing_snoc]
      rw [entriesOf] at earlier
      by_cases about : entry.id = id
      · subst about
        by_cases counts : kind entry.event = true
        · obtain ⟨unspent, after⟩ := spends log entry right counts
          rw [if_neg (by simp [unspent])] at earlier
          simpa [counts, after] using earlier
        · by_cases gone : spent (standing log entry.id) = true
          · have after := stays _ entry gone
            simpa [counts, after, gone] using earlier
          · rw [if_neg gone] at earlier
            simp [counts, Nat.le_zero.mp earlier]
      · simpa [about] using earlier

variable {timings : Timings} {log : List Entry}

/-- A request is made once. -/
theorem asked_once (rightly : Throughout (Rightly timings) log) (id : String) :
    (entriesOf Event.asks log id).length ≤ 1 := by
  refine Nat.le_trans (entriesOf_length (fun | .unknown => false | _ => true) ?_ ?_ rightly id) (ite_le_one _)
  · rintro before ⟨time, about, event⟩ known
    cases before <;> cases event <;> first | rfl | cases known
  · rintro before ⟨time, about, event⟩ right counts
    cases event with
    | asked code due =>
        obtain ⟨unknown, -⟩ := right
        simp only [unknown, Standing.after, and_self]
    | _ => cases counts

/-- One answer to a request is accepted at most. -/
theorem accepted_once (rightly : Throughout (Rightly timings) log) (id : String) :
    (entriesOf Event.accepts log id).length ≤ 1 := by
  refine Nat.le_trans (entriesOf_length (fun | .unknown | .waiting _ => false | _ => true) ?_ ?_ rightly id) (ite_le_one _)
  · rintro before ⟨time, about, event⟩ known
    cases before <;> cases event <;> first | rfl | cases known
  · rintro before ⟨time, about, event⟩ right counts
    cases event with
    | resolved value accepted =>
        obtain rfl : accepted = true := counts
        have waits : true = (standing before about).isWaiting := right
        cases held : standing before about with
        | waiting due => simp only [Standing.after, and_self]
        | _ => rw [held] at waits; cases waits
    | _ => cases counts

/-- A request comes to one result at most. -/
theorem returned_once (rightly : Throughout (Rightly timings) log) (id : String) :
    (entriesOf Event.returns log id).length ≤ 1 := by
  refine Nat.le_trans (entriesOf_length Standing.isReturned ?_ ?_ rightly id) (ite_le_one _)
  · rintro before ⟨time, about, event⟩ known
    cases before <;> cases event <;> first | rfl | cases known
  · rintro before ⟨time, about, event⟩ right counts
    cases event with
    | returned result =>
        rcases right with ⟨due, value, held, -⟩ | ⟨held, -⟩
        · simp only [held, Standing.after, Standing.isReturned, and_self]
        · simp only [held, Standing.after, Standing.isReturned, and_self]
    | _ => cases counts

/-- The table of open requests is as the history makes it. -/
structure Bridge.Tells (bridge : Bridge) (log : List Entry) : Prop where
  pending : bridge.pending = waitingOnes log
  answers : ∀ id, (bridge.answer? id).map Prod.fst = (standing log id).answer?
  unknown : ∀ number, bridge.opened < number → standing log (Bridge.idOf number) = .unknown

namespace Bridge.Tells

variable {bridge : Bridge} {log : List Entry} {id : String}

theorem empty : Bridge.empty.Tells [] := ⟨rfl, fun _ => rfl, fun _ _ => rfl⟩

theorem mem_pending (tells : bridge.Tells log) : id ∈ bridge.pending ↔ (standing log id).isWaiting = true := by
  rw [tells.pending, mem_waitingOnes]

theorem next (tells : bridge.Tells log) : standing log bridge.nextId = .unknown :=
  tells.unknown _ (Nat.lt_succ_self _)

/-- What happens to a request that was made leaves the numbers that were not used yet. -/
theorem stillUnknown (tells : bridge.Tells log) {entry : Entry} (known : standing log entry.id ≠ .unknown) :
    ∀ number, bridge.opened < number → standing (log ++ [entry]) (Bridge.idOf number) = .unknown := by
  intro number later
  rw [standing_snoc, if_neg, tells.unknown number later]
  intro same
  exact known (same ▸ tells.unknown number later)

theorem openNext (tells : bridge.Tells log) (code : String) (due time : Nat) :
    bridge.openNext.Tells (log ++ [⟨time, bridge.nextId, .asked code due⟩]) := by
  refine ⟨?_, fun id => ?_, fun number later => ?_⟩
  · rw [waitingOnes_asked tells.next, ← tells.pending]
    rfl
  · have same := tells.answers id
    rw [standing_snoc]
    split
    next about =>
      subst about
      rw [tells.next] at same ⊢
      exact same
    next => exact same
  · have later : bridge.opened + 1 < number := later
    rw [standing_snoc, if_neg, tells.unknown number (by omega)]
    intro same
    exact absurd (Bridge.idOf_injective same) (by omega)

/-- An answer is accepted only if somebody waits for it. -/
theorem resolve (tells : bridge.Tells log) (id : String) (value : Json) (order time : Nat) :
    (bridge.resolve id value order).1 = (standing log id).isWaiting ∧
      (bridge.resolve id value order).2.Tells
        (log ++ [⟨time, id, .resolved value (bridge.resolve id value order).1⟩]) := by
  by_cases waits : id ∈ bridge.pending
  · rw [Bridge.resolve_of_mem waits]
    have isWaiting := tells.mem_pending.mp waits
    obtain ⟨due, known⟩ : ∃ due, standing log id = .waiting due := by
      cases known : standing log id with
      | waiting due => exact ⟨due, rfl⟩
      | _ => simp [known, Standing.isWaiting] at isWaiting
    refine ⟨isWaiting.symm, ?_, fun other => ?_, tells.stillUnknown (by simp [known])⟩
    · rw [waitingOnes_ended rfl (by simp [known, Standing.after, Standing.isWaiting]), ← tells.pending]
    · rw [standing_snoc]
      by_cases same : id = other
      · subst same
        rw [if_pos rfl, known, Bridge.answer?, Keyed.get?_put_self]
        rfl
      · rw [if_neg same, Bridge.answer?, Keyed.get?_put_of_ne _ _ same]
        exact tells.answers other
  · rw [Bridge.resolve_of_not_mem waits]
    have idle : (standing log id).isWaiting = false := by simpa [tells.mem_pending] using waits
    have same : ∀ other, standing (log ++ [⟨time, id, .resolved value false⟩]) other = standing log other := by
      intro other
      rw [standing_snoc]
      split
      next about =>
        subst about
        cases known : standing log id with
        | waiting due => simp [known, Standing.isWaiting] at idle
        | _ => rfl
      next => rfl
    refine ⟨idle.symm, ?_, fun other => ?_, fun number later => ?_⟩
    · rw [tells.pending, waitingOnes, waitingOnes, asked_snoc]
      simp [asked, Event.asks, same]
    · rw [same]
      exact tells.answers other
    · rw [same]
      exact tells.unknown number later

/-- A request that comes to an end leaves the table. -/
theorem forget (tells : bridge.Tells log) {entry : Entry} (isOpen : (standing log entry.id).isOpen = true)
    (asks : entry.event.asks = false) (closed : ((standing log entry.id).after entry).isOpen = false) :
    (bridge.forget [entry.id]).Tells (log ++ [entry]) := by
  have known : standing log entry.id ≠ .unknown := by
    intro unknown
    rw [unknown] at isOpen
    cases isOpen
  have ended : ((standing log entry.id).after entry).isWaiting = false ∧
      ((standing log entry.id).after entry).answer? = none := by
    cases after : (standing log entry.id).after entry with
    | waiting due => simp [after, Standing.isOpen] at closed
    | answered due value time => simp [after, Standing.isOpen] at closed
    | _ => exact ⟨rfl, rfl⟩
  refine ⟨?_, fun id => ?_, tells.stillUnknown known⟩
  · rw [Bridge.pending_forget, waitingOnes_ended asks ended.1, ← tells.pending]
  · rw [Bridge.answer?_forget, standing_snoc]
    by_cases same : entry.id = id
    · subst same
      simp [ended.2]
    · simp [same, Ne.symm same, tells.answers id]

end Bridge.Tells

end ConsentBanner
