import ConsentBanner.Engine.Run
import ConsentBanner.Proofs.Handler.Quiet

/-!
# Working on terms

The terms of a flow say what it relies on and what it guarantees.  `Terms.Does` is a triple: a flow that
starts where one thing is known keeps to its terms and ends where another thing is known.  There is one
rule for each thing that the engine does.
-/

set_option autoImplicit false

namespace ConsentBanner

open Ledger (Quiet)
open Part (Keeps)

/-- What a flow relies on and what it guarantees, where quiet changes are always allowed. -/
structure Terms where
  rely : Law
  guar : Law
  rely_refl : ∀ ledger, rely ledger ledger
  rely_trans : ∀ {a b c}, rely a b → rely b c → rely a c
  guar_refl : ∀ ledger, guar ledger ledger
  guar_trans : ∀ {a b c}, guar a b → guar b c → guar a c
  quiet : ∀ {a b}, Quiet a b → guar a b

namespace Terms

theorem keeping_trans (known : Ledger → Prop) {a b c : Ledger} (first : known a → known b)
    (second : known b → known c) : known a → known c := second ∘ first

/-- The terms on which flows keep something true. -/
def keeping (known : Ledger → Prop) (quietly : Keeps Quiet known) : Terms where
  rely before after := known before → known after
  guar before after := known before → known after
  rely_refl _ := id
  rely_trans := @keeping_trans known
  guar_refl _ := id
  guar_trans := @keeping_trans known
  quiet did knows := quietly knows did

variable {α β : Type}

/-- The part of a flow that ends with something that stays known. -/
def part (terms : Terms) (goal : α → Ledger → Prop) (keeps : ∀ value, Keeps terms.rely (goal value)) :
    Part α where
  rely := terms.rely
  guar := terms.guar
  goal := goal
  rely_refl := terms.rely_refl
  rely_trans := terms.rely_trans
  guar_refl := terms.guar_refl
  goal_keeps := keeps _

/-- Where the first thing is known, a flow keeps to its terms and ends where the second is known. -/
def Does (terms : Terms) (before : Ledger → Prop) (flow : Flow α) (after : α → Ledger → Prop) : Prop :=
  ∀ since now, terms.guar since now → before now →
    flow.Obeys terms.rely terms.guar (fun value since now => terms.guar since now ∧ after value now)
      since now

variable {terms : Terms} {before : Ledger → Prop}

theorem Does.holds {flow : Flow α} {goal : α → Ledger → Prop}
    {keeps : ∀ value, Keeps terms.rely (goal value)} (does : terms.Does before flow goal)
    (stable : Keeps terms.rely before) {now : Ledger} (known : before now) :
    (terms.part goal keeps).Holds flow now :=
  fun later relied => does later later (terms.guar_refl later) (stable known relied)

theorem turns_keep {goal : α → Ledger → Prop} {keeps : ∀ value, Keeps terms.rely (goal value)}
    {flow after : Flow α} {first last : Ledger} (turns : flow.Turns first after last)
    (holds : (terms.part goal keeps).Holds flow first) :
    terms.guar first last ∧ (terms.part goal keeps).Holds after last := by
  induction turns with
  | refl => exact ⟨terms.guar_refl _, holds⟩
  | head turn _ ih =>
      have ⟨did, holds⟩ := turn.keeps holds
      have ⟨does, ends⟩ := ih holds
      exact ⟨terms.guar_trans did does, ends⟩

theorem Does.imp {flow : Flow α} {after weaker : α → Ledger → Prop}
    (does : terms.Does before flow after) (imp : ∀ value now, after value now → weaker value now) :
    terms.Does before flow weaker := by
  intro since now kept known
  refine (does since now kept known).weaken id id ?_
  exact fun value _ now ended => ⟨ended.1, imp value now ended.2⟩

theorem Does.given {flow : Flow α} {after : α → Ledger → Prop} {stronger : Ledger → Prop}
    (does : terms.Does before flow after) (imp : ∀ now, stronger now → before now) :
    terms.Does stronger flow after :=
  fun since now kept known => does since now kept (imp now known)

/-- What does not hang on the ledger may be assumed. -/
theorem Does.fact {flow : Flow α} {after : α → Ledger → Prop} {fact : Prop}
    (does : fact → terms.Does before flow after) :
    terms.Does (fun now => before now ∧ fact) flow after :=
  fun since now kept known => does known.2 since now kept known.1

theorem does_pure {value : α} {after : α → Ledger → Prop}
    (ends : ∀ now, before now → after value now) : terms.Does before (pure value) after :=
  fun _ now kept known => ⟨kept, ends now known⟩

theorem Does.andThen {flow : Flow α} {f : α → Flow β} {between : α → Ledger → Prop}
    {after : β → Ledger → Prop} (does : terms.Does before flow between)
    (onward : ∀ value, terms.Does (between value) (f value) after) :
    terms.Does before (flow >>= f) after := by
  intro since now kept known
  refine Flow.Obeys.andThen ((does since now kept known).weaken id id ?_)
  exact fun value since now ended => onward value since now ended.1 ended.2

/-- The same, with what is known in between given first. -/
theorem Does.via {flow : Flow α} {f : α → Flow β} {after : β → Ledger → Prop}
    (between : α → Ledger → Prop) (does : terms.Does before flow between)
    (onward : ∀ value, terms.Does (between value) (f value) after) :
    terms.Does before (flow >>= f) after :=
  does.andThen onward

theorem does_ite {condition : Prop} [Decidable condition] {flow other : Flow α}
    {after : α → Ledger → Prop} (yes : condition → terms.Does before flow after)
    (no : ¬condition → terms.Does before other after) :
    terms.Does before (if condition then flow else other) after := by
  split
  case isTrue holds => exact yes holds
  case isFalse fails => exact no fails

theorem does_ask {call : PageCall α} {otherwise : α} (stable : Keeps terms.rely before) :
    terms.Does before (Primitive.ask call otherwise) (fun _ => before) := by
  intro since now kept known
  exact Flow.obeys_ask kept fun later _ relied => ⟨terms.guar_refl later, stable known relied⟩

theorem does_addRule {style : String} {selectors : List String} {method : HideMethod}
    (stable : Keeps terms.rely before) :
    terms.Does before (Primitive.addRule style selectors method) (fun _ => before) := by
  refine fun since now kept known => ⟨kept, fun later reply relied => ?_⟩
  cases reply <;> exact ⟨terms.guar_refl later, stable known relied⟩

theorem does_pause {time : Nat} (stable : Keeps terms.rely before) :
    terms.Does before (Flow.pause time) (fun _ => before) := by
  intro since now kept known
  exact Flow.obeys_pause kept fun later relied => ⟨terms.guar_refl later, stable known relied⟩

/-- A modest flow leaves everything that quiet changes leave. -/
theorem does_modest {flow : Flow α} (modest : flow.Modest)
    (stable : Keeps terms.rely before) (quietly : Keeps Quiet before) :
    terms.Does before flow (fun _ => before) := by
  have tolerant : Flow.Tolerant terms.rely terms.guar :=
    ⟨terms.rely_refl, terms.guar_refl, fun did quiet => terms.guar_trans did (terms.quiet quiet)⟩
  intro since now kept known
  exact (modest.fits .detect).obeys (tolerant.calm quietly stable) (fun _ => id) ⟨kept, known⟩

theorem does_send {message : Outbound} {after : Unit → Ledger → Prop}
    (step : ∀ now, before now → terms.guar now (now.send message) ∧ after () (now.send message)) :
    terms.Does before (Flow.send message) after := by
  intro since now kept known
  have ⟨did, ends⟩ := step now known
  exact Flow.obeys_send ⟨terms.guar_trans kept did, ends⟩

theorem does_update {change : EngineState → EngineState} {after : Unit → Ledger → Prop}
    (step : ∀ now, before now → terms.guar now (now.update change) ∧ after () (now.update change)) :
    terms.Does before (Engine.update change) after := by
  intro since now kept known
  have ⟨did, ends⟩ := step now known
  exact Flow.obeys_request rfl fun _ _ replied => replied ▸ ⟨terms.guar_trans kept did, ends⟩

theorem does_state :
    terms.Does before Engine.state (fun state now => state = now.engine ∧ before now) := by
  intro since now kept known
  refine Flow.obeys_request rfl fun _ _ replied => ?_
  obtain ⟨rfl, rfl⟩ := replied
  exact ⟨kept, rfl, known⟩

theorem does_memory {slot : Nat} :
    terms.Does before (memoryOf slot) (fun memory now => memory = now.memory slot ∧ before now) := by
  intro since now kept known
  refine Flow.obeys_request rfl fun _ _ replied => ?_
  obtain ⟨rfl, rfl⟩ := replied
  exact ⟨kept, rfl, known⟩

/-- What the engine has a handler do shows in the journal. -/
theorem does_attempt {timings : Timings} {handler : Handler} {routine : Routine}
    {after : Bool → Ledger → Prop} (between : Ledger → Prop) (stable : Keeps terms.rely between)
    (quietly : Keeps Quiet between)
    (begun : ∀ now, before now →
      terms.guar now (now.record ⟨handler.call routine, .begun⟩) ∧
        between (now.record ⟨handler.call routine, .begun⟩))
    (came : ∀ value now, between now →
      terms.guar now (now.record ⟨handler.call routine, .came value⟩) ∧
        after value (now.record ⟨handler.call routine, .came value⟩)) :
    terms.Does before (handler.attempt timings routine) after := by
  have tolerant : Flow.Tolerant terms.rely terms.guar :=
    ⟨terms.rely_refl, terms.guar_refl, fun did quiet => terms.guar_trans did (terms.quiet quiet)⟩
  intro since now kept known
  have ⟨did, starts⟩ := begun now known
  refine Flow.obeys_attempt (tolerant.calm quietly stable) ⟨terms.guar_trans kept did, starts⟩ ?_
  intro value since now ⟨kept, known⟩
  have ⟨did, ends⟩ := came value now known
  exact ⟨terms.guar_trans kept did, ends⟩

theorem does_each {run : α → Flow Unit} (known : List α → Ledger → Prop)
    (once : ∀ a rest, terms.Does (known (a :: rest)) (run a) (fun _ => known rest)) :
    ∀ members, terms.Does (known members) (Flow.each run members) (fun _ => known []) := by
  intro members
  induction members with
  | nil => exact fun _ _ kept knows => ⟨kept, knows⟩
  | cons a rest ih => exact (once a rest).andThen fun _ => ih

/-- Flows side by side, on terms of their own, that all keep the same thing true. -/
theorem does_all {inner : Terms} {flows : List (Flow α)}
    (relies : ∀ {a b}, terms.rely a b → inner.rely a b)
    (allows : ∀ {a b}, inner.guar a b → terms.guar a b)
    (social : ∀ {a b}, inner.guar a b → inner.rely a b) (stable : Keeps inner.rely before)
    (each : ∀ flow ∈ flows, inner.Does before flow (fun _ => before)) :
    terms.Does before (Flow.all flows) (fun _ => before) := by
  let conduct : Conduct := ⟨inner.rely, inner.guar, before, inner.rely_refl, inner.rely_trans,
    inner.guar_refl, stable⟩
  have together : conduct.Social := ⟨social⟩
  intro since now kept known
  have holds : ∀ flow ∈ flows, (conduct.part α).Holds flow now := fun flow member =>
    fun later relied => each flow member later later (inner.guar_refl later) (stable known relied)
  cases flows with
  | nil => exact ⟨kept, known⟩
  | cons flow rest =>
      have others := together.all (fun other member => holds other (List.mem_cons_of_mem _ member)) known
      exact ⟨kept, conduct.part α, conduct.part (List α), together.pair ⟨relies, allows⟩,
        holds flow List.mem_cons_self, others,
        fun _ _ later _ known => ⟨terms.guar_refl later, known⟩⟩

/-- A race on common terms, where the winner makes use of what a lane has come to. -/
theorem does_race {lanes : List (Flow Bool)} {winner : Flow Bool} {next : Option Bool → Flow α}
    {after : α → Ledger → Prop} (won : Ledger → Prop)
    (social : ∀ {a b}, terms.guar a b → terms.rely a b) (stable : Keeps terms.rely before)
    (wonStable : Keeps terms.rely won)
    (each : ∀ lane ∈ lanes, terms.Does before lane fun yes now => yes = true → won now)
    (lead : terms.Does won winner fun _ _ => True)
    (onward : ∀ result, terms.Does (fun _ => True) (next result) after) :
    terms.Does before (.race lanes false winner next) after := by
  intro since now kept known
  let lane : Part Bool := terms.part (fun yes now => yes = true → won now)
    fun _ _ _ knows relied yes => wonStable (knows yes) relied
  let first : Part Bool := terms.part (fun _ _ => True) fun _ _ _ _ _ => trivial
  have within : ∀ part ∈ first :: lanes.map fun _ => lane,
      part.rely = terms.rely ∧ part.guar = terms.guar := by
    intro part member
    rcases List.mem_cons.mp member with rfl | member
    · exact ⟨rfl, rfl⟩
    · obtain ⟨_, _, rfl⟩ := List.mem_map.mp member
      exact ⟨rfl, rfl⟩
  have race : Part.Race terms.rely terms.guar (fun _ => True) first (lanes.map fun _ => lane) := by
    refine ⟨fun part member => ⟨fun relied => ?_, fun did => ?_⟩, ?_, fun _ _ => trivial,
      fun _ _ _ _ _ _ => trivial⟩
    · rw [(within part member).1]
      exact relied
    · rw [← (within part member).2]
      exact did
    · refine List.pairwise_of_forall_mem_list fun part member other memberOther => ⟨?_, ?_⟩
      · rw [(within part member).2, (within other memberOther).1]
        exact social
      · rw [(within part member).1, (within other memberOther).2]
        exact social
  have obey : Flow.LanesObey (lanes.map id) (lanes.map fun _ => lane) now :=
    Flow.lanesObey_map fun flow member => (each flow member).holds stable known
  rw [List.map_id] at obey
  refine ⟨kept, fun _ => True, first, lanes.map fun _ => lane, trivial, race, obey, nofun, ?_, ?_⟩
  · refine fun _ => ⟨fun _ => True, trivial, ⟨fun _ _ => trivial, fun _ _ _ _ _ _ => trivial⟩,
      fun part member hasWon later _ goal relied => ?_, fun later _ _ => ?_⟩
    · obtain ⟨_, _, rfl⟩ := List.mem_map.mp member
      exact lead later later (terms.guar_refl later) (wonStable (goal rfl) relied)
    · exact onward none later later (terms.guar_refl later) trivial
  · exact fun value later _ _ _ => onward (some value) later later (terms.guar_refl later) trivial

end Terms

end ConsentBanner
