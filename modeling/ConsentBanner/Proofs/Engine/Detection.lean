import ConsentBanner.Proofs.Engine.Trace

/-!
# What detection does

The engine hides, shows and looks up things without a trace in its own ledger.  A detection pass leaves
notes of the handlers that it asked, and picks its candidates from those that take part.
-/

set_option autoImplicit false

namespace ConsentBanner

open Ledger (Quiet)
open Part (Keeps)

namespace Engine

open Flow (Confined Modest)

theorem waitUntilReady_modest (timings : Timings) : (waitUntilReady timings).Modest := by
  have ready : isReady.Modest := .andThen (Modest.page _ trivial) fun _ => .pure _
  exact .andThen (.poll _ ready _) fun _ => .pure _

theorem chosen_sublist (answers : List Bool) : ∀ handlers, (chosen handlers answers).Sublist handlers := by
  intro handlers
  induction handlers generalizing answers with
  | nil => simp [chosen]
  | cons handler rest ih =>
      cases answers with
      | nil => simp [chosen]
      | cons answer answers =>
          cases answer with
          | true => exact (ih answers).cons_cons handler
          | false => exact (ih answers).cons handler

end Engine

namespace Terms

open Engine
open Flow (Modest)

variable {terms inner : Terms} {known : Ledger → Prop}

/-- What is hidden for the time being leaves no trace. -/
theorem does_prehide (stable : Keeps terms.rely known) : terms.Does known prehide fun _ => known :=
  (does_state.imp fun _ _ knows => knows.2).andThen fun _ => does_addRule stable

theorem does_undoPrehide (stable : Keeps terms.rely known) : terms.Does known undoPrehide fun _ => known := by
  refine (does_state.imp fun _ _ knows => knows.2).andThen fun state => ?_
  have shows : terms.Does known Primitive.undoPrehide fun _ => known := does_ask stable
  exact does_ite (fun _ => shows.andThen fun _ => does_pure fun _ => id) fun _ => does_pure fun _ => id

variable (picks : List Handler → Prop)

theorem does_eligible (stable : Keeps terms.rely known)
    (offers : ∀ now, known now → picks now.engine.handlers) :
    terms.Does known eligible fun handlers now =>
      known now ∧ ∃ all, picks all ∧ handlers.Sublist all := by
  refine (does_ask stable).andThen fun isTop => (does_ask stable).andThen fun url => ?_
  refine does_state.andThen fun state => does_pure ?_
  rintro now ⟨rfl, knows⟩
  exact ⟨knows, _, offers now knows, List.filter_sublist⟩

/-- What lets a detection pass keep something known: on inner terms its handlers are asked side by
side, as far as they may be asked. -/
structure Detects (terms inner : Terms) (known : Ledger → Prop) (asks : Handler → Prop) : Prop where
  relies : ∀ {a b}, terms.rely a b → inner.rely a b
  allows : ∀ {a b}, inner.guar a b → terms.guar a b
  social : ∀ {a b}, inner.guar a b → inner.rely a b
  stable : Keeps inner.rely known
  quietly : Keeps Quiet known
  roster : ∀ now, known now → ∀ handler ∈ now.engine.handlers, asks handler
  notes : ∀ now handler progress, asks handler → known now →
    inner.guar now (now.record ⟨Handler.call handler .detect, progress⟩) ∧
      known (now.record ⟨Handler.call handler .detect, progress⟩)
  reports : ∀ now names, known now →
    terms.guar now (now.send (.detectionConflict names)) ∧ known (now.send (.detectionConflict names))

variable {asks : Handler → Prop}

theorem Detects.does_pass (detects : Detects terms inner known asks) (timings : Timings)
    (offers : ∀ now, known now → picks now.engine.handlers) :
    terms.Does known (detectionPass timings) fun found now =>
      known now ∧ ∃ all, picks all ∧ found.Sublist all := by
  have stable : Keeps terms.rely known := fun knows relied =>
    detects.stable knows (detects.relies relied)
  refine (does_eligible (fun all => picks all ∧ ∀ handler ∈ all, asks handler) stable fun now knows =>
    ⟨offers now knows, detects.roster now knows⟩).andThen fun handlers => ?_
  refine Does.fact fun ⟨all, ⟨pick, asked⟩, part⟩ => ?_
  refine Does.via (fun _ => known)
    (does_all detects.relies detects.allows detects.social detects.stable ?_) fun answers => ?_
  · intro flow member
    obtain ⟨handler, within, rfl⟩ := List.mem_map.mp member
    have may : asks handler := asked handler (part.subset within)
    exact does_attempt _ detects.stable detects.quietly (fun now => detects.notes now handler .begun may)
      fun value now => detects.notes now handler (.came value) may
  · exact does_pure fun now knows => ⟨knows, all, pick, (chosen_sublist answers handlers).trans part⟩

theorem Detects.does_report (detects : Detects terms inner known asks) (found : List Handler) :
    terms.Does known (reportConflict found) fun _ => known := by
  match found with
  | [] | [_] => exact does_pure fun _ knows => knows
  | one :: two :: rest => exact does_send fun now => detects.reports now _

theorem Detects.does_findCandidates (detects : Detects terms inner known asks) (timings : Timings)
    (offers : ∀ now, known now → picks now.engine.handlers) (retries : Nat) :
    terms.Does known (findCandidates timings retries) fun candidates now =>
      known now ∧ ∃ all, picks all ∧ candidates.Sublist all := by
  have stable : Keeps terms.rely known := fun knows relied =>
    detects.stable knows (detects.relies relied)
  induction retries with
  | zero =>
      refine (detects.does_pass picks timings offers).andThen fun found => Does.fact fun part => ?_
      exact (detects.does_report found).andThen fun _ => does_pure fun _ knows => ⟨knows, part⟩
  | succ retries ih =>
      refine (detects.does_pass picks timings offers).andThen fun found => Does.fact fun part => ?_
      refine (detects.does_report found).andThen fun _ => does_ite (fun _ => ?_) fun _ => ?_
      · exact (does_pause stable).andThen fun _ => ih
      · exact does_pure fun _ knows => ⟨knows, part⟩

/-- A handler, if there is one, has a property, as far as can be told without leaving the ledger. -/
theorem does_holds {found : Option Handler} {property : Handler → Flow Bool}
    (answers : Handler → Bool → Prop)
    (does : ∀ handler, terms.Does known (property handler) fun answer now => known now ∧ answers handler answer) :
    terms.Does known (holds found property) fun answer now =>
      known now ∧ (found = none → answer = false) ∧ ∀ handler ∈ found, answers handler answer := by
  cases found with
  | none => exact does_pure fun _ knows => ⟨knows, fun _ => rfl, by simp⟩
  | some handler =>
      refine (does handler).imp fun answer now ended => ⟨ended.1, by simp, ?_⟩
      simpa using ended.2

theorem does_hasSelfTest (handler : Handler) :
    terms.Does known handler.hasSelfTest fun answer now =>
      known now ∧ ∃ memory, answer = handler.traits.hasSelfTest memory :=
  does_memory.andThen fun memory => does_pure fun _ knows => ⟨knows.2, memory, rfl⟩

theorem does_isIntermediate (handler : Handler) :
    terms.Does known handler.isIntermediate fun answer now =>
      known now ∧ ∃ memory, answer = handler.traits.isIntermediate memory :=
  does_memory.andThen fun memory => does_pure fun _ knows => ⟨knows.2, memory, rfl⟩

/-- What lets a candidate be waited for: what is known between two attempts, during an attempt and in
the end, by the number of attempts that were in vain. -/
structure Awaits (terms : Terms) (handler : Handler) (url : String)
    (waits asks confirmed : Nat → Ledger → Prop) : Prop where
  waitsStable : ∀ vain, Keeps terms.rely (waits vain)
  asksStable : ∀ vain, Keeps terms.rely (asks vain)
  asksQuietly : ∀ vain, Keeps Quiet (asks vain)
  begun : ∀ vain now, waits vain now →
    terms.guar now (now.record ⟨handler.call .popup, .begun⟩) ∧
      asks vain (now.record ⟨handler.call .popup, .begun⟩)
  came : ∀ vain now, asks vain now →
    terms.guar now (now.record ⟨handler.call .popup, .came false⟩) ∧
      waits (vain + 1) (now.record ⟨handler.call .popup, .came false⟩)
  confirms : ∀ vain now, asks vain now →
    terms.guar now (now.confirm handler url) ∧ confirmed vain (now.confirm handler url)

theorem Awaits.does_lane {handler : Handler} {url : String} {waits asks confirmed : Nat → Ledger → Prop}
    (awaits : Awaits terms handler url waits asks confirmed) (timings : Timings) :
    terms.Does (waits 0) (candidateLane timings url handler) fun yes now =>
      match yes with
      | true => ∃ vain ≤ timings.popupRetries, confirmed vain now
      | false => waits (timings.popupRetries + 1) now := by
  intro since now kept known
  have tolerant : Flow.Tolerant terms.rely terms.guar :=
    ⟨terms.rely_refl, terms.guar_refl, fun did quiet => terms.guar_trans did (terms.quiet quiet)⟩
  let found : Nat → Law := fun left since now =>
    terms.guar since now ∧ ∃ vain, vain + left = timings.popupRetries ∧ waits vain now
  refine Flow.Obeys.andThen (Flow.obeys_poll found ?_ _ ⟨kept, 0, Nat.zero_add _, known⟩)
  intro left since now ⟨kept, vain, count, waiting⟩
  have ⟨begins, asking⟩ := awaits.begun vain now waiting
  refine Flow.obeys_attempt
    (tolerant.calm (awaits.asksQuietly vain) (awaits.asksStable vain))
    ⟨terms.guar_trans kept begins, asking⟩ ?_
  intro value since now ⟨kept, asking⟩
  cases value with
  | true =>
      have ⟨confirms, ends⟩ := awaits.confirms vain now asking
      have within : vain ≤ timings.popupRetries := by omega
      rw [Flow.attemptEnds_true]
      refine Flow.Obeys.andThen (Flow.Obeys.andThen ?_)
      refine Flow.obeys_request rfl fun _ _ replied => replied ▸ Flow.obeys_send ?_
      exact ⟨terms.guar_trans kept confirms, vain, within, ends⟩
  | false =>
      have ⟨came, waiting⟩ := awaits.came vain now asking
      have kept := terms.guar_trans kept came
      cases left with
      | zero => exact ⟨kept, count ▸ waiting⟩
      | succ left =>
          refine ⟨kept, fun later relied => ⟨terms.guar_refl later, vain + 1, by omega, ?_⟩⟩
          exact awaits.waitsStable _ waiting relied

end Terms

end ConsentBanner
