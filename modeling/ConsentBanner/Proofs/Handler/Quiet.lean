import ConsentBanner.Proofs.Flow.Rules
import ConsentBanner.Proofs.Handler.Routines

/-!
# Quiet flows

A modest flow changes a ledger only quietly: it asks for page script and remembers things.  So it plays
every part that allows that (`Confined.obeys`), and what the engine has handlers do shows in the journal
alone (`obeys_attempt`).
-/

set_option autoImplicit false

namespace ConsentBanner

open Part (Keeps)

def Handler.call (handler : Handler) (routine : Routine) : HandlerCall :=
  ⟨handler.slot, handler.name, routine⟩

/-- A change that neither engine nor journal notices: requests for page script and what handlers
remember. -/
structure Ledger.Quiet (before after : Ledger) : Prop where
  engine : after.engine = before.engine
  journal : after.journal = before.journal
  sent : ∃ asked : List (String × String),
    after.sent = before.sent ++ asked.map fun request => .evalRequest request.1 request.2

namespace Ledger.Quiet

theorem refl (ledger : Ledger) : Quiet ledger ledger := ⟨rfl, rfl, [], by simp⟩

theorem trans {a b c : Ledger} (first : Quiet a b) (second : Quiet b c) : Quiet a c := by
  obtain ⟨asked, sent⟩ := first.sent
  obtain ⟨more, sentMore⟩ := second.sent
  exact ⟨second.engine.trans first.engine, second.journal.trans first.journal, asked ++ more, by
    rw [sentMore, sent, List.append_assoc, List.map_append]⟩

theorem of_reply {β : Type} {request : Request β} {reply : β} {before after : Ledger}
    {routine : Routine} (modest : request.Fits routine) (replied : before.MayReply request reply after) :
    Quiet before after := by
  rw [replied.eq_upon]
  cases request with
  | send _ | update _ | record _ | state | resolve _ _ => cases modest
  | openEval code => exact ⟨rfl, rfl, [(reply, code)], rfl⟩
  | remember slot change => exact ⟨rfl, rfl, [], by simp [upon, remember]⟩
  | note call => exact ⟨rfl, rfl, [], by simp [upon, note]⟩
  | _ => exact refl before

end Ledger.Quiet

namespace Flow

open Ledger (Quiet)

variable {α β : Type} {rely guar : Law}

/-- How modest flows go together: each is quiet, and something stays known. -/
def hush (known : Ledger → Prop) : Conduct where
  rely a b := known a → known b
  guar := Quiet
  known := known
  rely_refl _ knows := knows
  rely_trans first second knows := second (first knows)
  guar_refl := Quiet.refl
  keeps knows relied := relied knows

/-- What a modest flow finds true between two places where it gives way: it survives quiet changes, is
enough for what is to be guaranteed and begins anew when the others have had their turns. -/
structure Calm (rely guar between : Law) : Prop where
  refl : ∀ ledger, rely ledger ledger
  allows : ∀ {a b}, Quiet a b → guar a b
  quiet : ∀ {since now later}, between since now → Quiet now later → between since later
  keeps : ∀ {since now}, between since now → guar since now
  anew : ∀ {since now later}, between since now → rely now later → between later later

namespace Calm

variable {between : Law}

/-- What holds whenever a flow begins anew. -/
abbrev still (between : Law) (ledger : Ledger) : Prop := between ledger ledger

theorem quietly (calm : Calm rely guar between) : Keeps Quiet (still between) :=
  fun found quiet => calm.anew (calm.quiet found quiet) (calm.refl _)

theorem social (calm : Calm rely guar between) : (hush (still between)).Social :=
  ⟨fun quiet found => calm.quietly found quiet⟩

theorem within (calm : Calm rely guar between) :
    ((hush (still between)).part Unit).Within rely guar :=
  ⟨fun relied found => calm.anew found relied, calm.allows⟩

/-- What a flow beside others finds true in its turn. -/
theorem beside (calm : Calm rely guar between) :
    Calm (hush (still between)).rely Quiet (fun since now => still between since ∧ Quiet since now)
    where
  refl := (hush (still between)).rely_refl
  allows := id
  quiet found quiet := ⟨found.1, found.2.trans quiet⟩
  keeps found := found.2
  anew found relied := ⟨relied (calm.quietly found.1 found.2), Quiet.refl _⟩

theorem ends (calm : Calm rely guar between) (value : α) {since now : Ledger}
    (found : still between since ∧ Quiet since now) :
    ((hush (still between)).part α).Ends value since now :=
  ⟨found.2, calm.quietly found.1 found.2⟩

end Calm

mutual

/-- A modest flow plays every part in which it can stay calm. -/
theorem Confined.obeys {routine : Routine} {alone : Bool} : ∀ {α : Type} {rely guar between : Law}
    {ends : α → Law} {flow : Flow α} {since now : Ledger},
    flow.Confined (Request.Fits routine) alone → Calm rely guar between →
    (∀ value {since now}, between since now → ends value since now) → between since now →
    flow.Obeys rely guar ends since now
  | _, _, _, _, _, .done value, _, _, _, _, finish, found => finish value found
  | _, _, _, _, _, .ask request next, _, _, confined, calm, finish, found => by
      unfold Obeys
      split
      next =>
        exact ⟨calm.keeps found, fun later reply relied =>
          Confined.obeys (confined.2 reply) calm finish (calm.anew found relied)⟩
      next =>
        intro reply after replied
        exact Confined.obeys (confined.2 reply) calm finish
          (calm.quiet found (Quiet.of_reply confined.1.1 replied))
  | _, _, _, _, _, .sleep _ next, _, _, confined, calm, finish, found =>
      ⟨calm.keeps found, fun _ relied =>
        have onward := Confined.obeys (show next.Confined (Request.Fits routine) alone from confined) calm
          finish (calm.anew found relied)
        onward⟩
  | _, _, _, _, _, .asleep _ _ next, _, _, confined, calm, finish, found =>
      ⟨calm.keeps found, fun _ relied =>
        have onward := Confined.obeys (show next.Confined (Request.Fits routine) alone from confined) calm
          finish (calm.anew found relied)
        onward⟩
  | _, _, _, _, _, .await _ next, _, _, confined, calm, finish, found =>
      ⟨calm.keeps found, fun _ reply relied =>
        Confined.obeys (confined.2 reply) calm finish (calm.anew found relied)⟩
  | _, _, _, _, _, .both left right next, _, now, confined, calm, finish, found => by
      have anew := calm.anew found (calm.refl now)
      refine ⟨calm.keeps found, _, _, calm.social.pair calm.within, ?_, ?_, ?_⟩
      · exact fun later relied =>
          Confined.obeys confined.1 calm.beside calm.ends ⟨relied anew, Quiet.refl later⟩
      · exact fun later relied =>
          Confined.obeys confined.2.1 calm.beside calm.ends ⟨relied anew, Quiet.refl later⟩
      · intro a b later known _
        exact Confined.obeys (confined.2.2 a b) calm finish known
  | _, _, _, _, _, .first left right next, _, now, confined, calm, finish, found => by
      have anew := calm.anew found (calm.refl now)
      obtain ⟨⟨_, one⟩, ⟨_, two⟩⟩ : (∃ alone, left.Confined (Request.Fits routine) alone) ∧
          ∃ alone, right.Confined (Request.Fits routine) alone := by
        rcases confined.1 with ⟨one, two⟩ | ⟨one, two⟩ <;> exact ⟨⟨_, one⟩, ⟨_, two⟩⟩
      refine ⟨calm.keeps found, _, _, calm.social.pair calm.within, ?_, ?_, ?_⟩
      · exact fun later relied =>
          Confined.obeys one calm.beside calm.ends ⟨relied anew, Quiet.refl later⟩
      · exact fun later relied =>
          Confined.obeys two calm.beside calm.ends ⟨relied anew, Quiet.refl later⟩
      · intro a later known
        exact Confined.obeys (confined.2 a) calm finish (known.elim id id)
  | _, _, _, between, _, .race lanes _ winner next, _, now, confined, calm, finish, found => by
      have anew := calm.anew found (calm.refl now)
      have lead : ∀ later, Calm.still between later →
          ((hush (Calm.still between)).part Bool).Holds winner later := fun _ known later relied =>
        Confined.obeys confined.2.1 calm.beside calm.ends ⟨relied known, Quiet.refl later⟩
      refine ⟨calm.keeps found, Calm.still between, _, _, anew,
        calm.social.race calm.within lanes.length, LanesConfined.obey confined.1 calm anew,
        fun _ => lead now anew, ?_, ?_⟩
      · have race := calm.social.race calm.within lanes.length
        refine fun _ => ⟨Calm.still between, anew, ⟨race.knownRely,
          fun part member => race.knownGuar part (List.mem_cons_of_mem _ member)⟩, ?_, ?_⟩
        · exact fun part member won later known _ => lead won known later
        · exact fun later known _ => Confined.obeys (confined.2.2 none) calm finish known
      · intro value later known _ _
        exact Confined.obeys (confined.2.2 (some value)) calm finish known

theorem LanesConfined.obey {routine : Routine} {alone : Bool} {rely guar between : Law} :
    ∀ {lanes : List (Flow Bool)} {now : Ledger}, LanesConfined (Request.Fits routine) alone lanes →
      Calm rely guar between → Calm.still between now →
      LanesObey lanes
        (List.replicate lanes.length ((hush (Calm.still between)).part Bool)) now
  | [], _, _, _, _ => trivial
  | _ :: _, _, confined, calm, known =>
      ⟨fun later relied =>
        Confined.obeys confined.1 calm.beside calm.ends ⟨relied known, Quiet.refl later⟩,
        LanesConfined.obey confined.2 calm known⟩

end

structure Tolerant (rely guar : Law) : Prop where
  refl : ∀ ledger, rely ledger ledger
  idle : ∀ ledger, guar ledger ledger
  quiet : ∀ {a b c}, guar a b → Quiet b c → guar a c

/-- What stays known under a tolerant law, together with the law. -/
theorem Tolerant.calm (tolerant : Tolerant rely guar) {known : Ledger → Prop}
    (quietly : Keeps Quiet known) (relied : Keeps rely known) :
    Calm rely guar (fun since now => guar since now ∧ known now) where
  refl := tolerant.refl
  allows quiet := tolerant.quiet (tolerant.idle _) quiet
  quiet found quiet := ⟨tolerant.quiet found.1 quiet, quietly found.2 quiet⟩
  keeps found := found.1
  anew found others := ⟨tolerant.idle _, relied found.2 others⟩

/-- What the engine has a handler do shows in the journal. -/
theorem obeys_attempt {timings : Timings} {handler : Handler} {routine : Routine} {ends : Bool → Law}
    {since now : Ledger} {between : Law} (calm : Calm rely guar between)
    (begun : between since (now.record ⟨handler.call routine, .begun⟩))
    (came : ∀ value {since now}, between since now →
      ends value since (now.record ⟨handler.call routine, .came value⟩)) :
    (handler.attempt timings routine).Obeys rely guar ends since now := by
  refine Obeys.andThen (obeys_request rfl fun _ _ replied => replied ▸ ?_)
  refine Obeys.andThen (Confined.obeys (handler.run_fits timings routine) calm ?_ begun)
  intro result since now found
  exact Obeys.andThen (obeys_request rfl fun _ _ replied => replied ▸ came _ found)

end Flow

end ConsentBanner
