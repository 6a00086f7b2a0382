import ConsentBanner.Proofs.Engine.Trace
import ConsentBanner.Proofs.Engine.Gating
import ConsentBanner.Proofs.Flow.Recital

/-!
# Outlines of stories

What of a story matters to the outcome of a decision: what handlers did about dialogs and what the engine then
said of it, which are the marks, and what was known of the handler that was found.  A ledger that follows the
story bears it out: marks show in the journal and among the messages, nobody else is found any more, and what
was recalled last is still so if nobody learned anything since.
-/

set_option autoImplicit false

namespace ConsentBanner

open Flow (Allowed)

/-- A message tells how far the engine has come. -/
def Outbound.isMilestone : Outbound → Bool
  | .init _ => true
  | message => message.isVerdict

/-- What is done about a dialog, or said of how far the engine has come. -/
inductive Mark where
  | did (entry : JournalEntry)
  | said (message : Outbound)

namespace Mark

def entry? : Mark → Option JournalEntry
  | did entry => some entry
  | said _ => none

def message? : Mark → Option Outbound
  | did _ => none
  | said message => some message

def isTest : Mark → Bool
  | did entry => entry.call.routine = .selfTest
  | said (.selfTestResult _ _ _) => true
  | said _ => false

theorem mem_entries {entry : JournalEntry} {list : List Mark} : entry ∈ list.filterMap entry? ↔ did entry ∈ list := by
  refine List.mem_filterMap.trans ⟨fun ⟨mark, within, is⟩ => ?_, fun within => ⟨_, within, rfl⟩⟩
  cases mark with
  | said message => cases is
  | did other =>
      obtain rfl := Option.some.inj is
      exact within

theorem mem_messages {message : Outbound} {list : List Mark} :
    message ∈ list.filterMap message? ↔ said message ∈ list := by
  refine List.mem_filterMap.trans ⟨fun ⟨mark, within, is⟩ => ?_, fun within => ⟨_, within, rfl⟩⟩
  cases mark with
  | did entry => cases is
  | said other =>
      obtain rfl := Option.some.inj is
      exact within

end Mark

/-- What of a story matters to the outcome of a decision. -/
inductive Cue where
  | mark (mark : Mark)
  /-- The engine looks up who was found. -/
  | chose (found : Option Handler)
  | recalled (slot : Nat) (memory : Memory)
  | learned

def Exchange.cue? : Exchange → Option Cue
  | ⟨.state, known⟩ => some (.chose known.found)
  | ⟨.memory slot, memory⟩ => some (.recalled slot memory)
  | ⟨.remember _ _, _⟩ => some .learned
  | ⟨.record entry, _⟩ => if entry.call.routine.acts then some (.mark (.did entry)) else none
  | ⟨.send message, _⟩ => if message.isMilestone then some (.mark (.said message)) else none
  | _ => none

namespace Cue

def mark? : Cue → Option Mark
  | .mark one => some one
  | _ => none

def IsAside (cue : Cue) : Prop := cue.mark? = none

/-- No mark is left and no handler learns anything. -/
def IsCalm (cue : Cue) : Prop := cue.mark? = none ∧ cue ≠ learned

end Cue

abbrev outline (story : List Exchange) : List Cue := cues Exchange.cue? story

/-- The marks among cues. -/
def marks (whole : List Cue) : List Mark := whole.filterMap Cue.mark?

@[simp] theorem marks_nil : marks [] = [] := rfl

@[simp] theorem marks_append (one two : List Cue) : marks (one ++ two) = marks one ++ marks two :=
  List.filterMap_append

@[simp] theorem marks_mark (mark : Mark) (rest : List Cue) : marks (.mark mark :: rest) = mark :: marks rest := rfl

@[simp] theorem marks_chose (found : Option Handler) (rest : List Cue) : marks (.chose found :: rest) = marks rest :=
  rfl

@[simp] theorem marks_recalled (slot : Nat) (memory : Memory) (rest : List Cue) :
    marks (.recalled slot memory :: rest) = marks rest := rfl

theorem marks_part {part whole : List Cue} (begun : part <+: whole) : marks part <+: marks whole :=
  begun.filterMap _

theorem marks_aside {whole : List Cue} (aside : ∀ cue ∈ whole, cue.IsAside) : marks whole = [] :=
  List.filterMap_eq_nil_iff.mpr aside

theorem marks_calm {whole : List Cue} (calm : ∀ cue ∈ whole, cue.IsCalm) : marks whole = [] :=
  marks_aside fun cue member => (calm cue member).1

theorem unlearned_calm {whole : List Cue} (calm : ∀ cue ∈ whole, cue.IsCalm) : .learned ∉ whole :=
  fun learned => (calm _ learned).2 rfl

theorem marks_swells {lead whole : List Cue} (swells : Swells Cue.IsCalm lead whole) : marks whole = marks lead :=
  swells.filterMap_eq fun _ calm => calm.1

/-! ## What is known by the end -/

/-- The memory of a handler was read, and nothing was learned since. -/
def Recalls (slot : Nat) (memory : Memory) (whole : List Cue) : Prop :=
  ∃ before after, whole = before ++ .recalled slot memory :: after ∧ .learned ∉ after

namespace Recalls

variable {slot : Nat} {memory : Memory} {whole : List Cue}

theorem after (front : List Cue) (recalls : Recalls slot memory whole) : Recalls slot memory (front ++ whole) := by
  obtain ⟨before, after, rfl, unlearned⟩ := recalls
  exact ⟨front ++ before, after, (List.append_assoc _ _ _).symm, unlearned⟩

theorem append {more : List Cue} (recalls : Recalls slot memory whole) (unlearned : .learned ∉ more) :
    Recalls slot memory (whole ++ more) := by
  obtain ⟨before, after, rfl, still⟩ := recalls
  refine ⟨before, after ++ more, by simp, ?_⟩
  simp [still, unlearned]

theorem swells {grown : List Cue} (recalls : Recalls slot memory whole) (swells : Swells Cue.IsCalm whole grown) :
    Recalls slot memory grown := by
  obtain ⟨before, after, rfl, unlearned⟩ := recalls
  obtain ⟨ahead, behind, rfl, -, grows⟩ := swells.split
  refine ⟨ahead, behind, rfl, fun member => ?_⟩
  rcases grows.mem member with old | calm
  · exact unlearned old
  · exact calm.2 rfl

end Recalls

theorem Recalls.ofSnoc {slot : Nat} {memory : Memory} {whole : List Cue} {last : Cue}
    (recalls : Recalls slot memory (whole ++ [last])) :
    last = .recalled slot memory ∨ last ≠ .learned ∧ Recalls slot memory whole := by
  obtain ⟨before, after, split, unlearned⟩ := recalls
  rcases List.eq_nil_or_concat after with rfl | ⟨rest, cue, rfl⟩
  · obtain ⟨-, same⟩ := List.append_inj' split rfl
    exact .inl (List.cons.inj same).1
  · rw [List.concat_eq_append] at split unlearned
    rw [← List.cons_append, ← List.append_assoc] at split
    obtain ⟨rfl, same⟩ := List.append_inj' split rfl
    obtain ⟨rfl, -⟩ := List.cons.inj same
    refine .inr ⟨fun learned => unlearned (by simp [learned]), before, rest, rfl, fun member => unlearned ?_⟩
    exact List.mem_append_left _ member

@[simp] theorem outline_nil : outline [] = [] := rfl

theorem outline_append (one two : List Exchange) : outline (one ++ two) = outline one ++ outline two :=
  Flow.cues_append one two

theorem outline_cons (exchange : Exchange) (rest : List Exchange) :
    outline (exchange :: rest) = exchange.cue?.toList ++ outline rest := by
  change List.filterMap _ _ = _
  rw [List.filterMap_cons]
  cases exchange.cue? <;> rfl

/-! ## Ledgers that follow -/

theorem noted_acts (story : List Exchange) :
    (noted story).filter (fun entry => entry.call.routine.acts) = (marks (outline story)).filterMap Mark.entry? := by
  induction story with
  | nil => rfl
  | cons exchange rest ih =>
      obtain ⟨request, reply⟩ := exchange
      rw [outline_cons, marks_append, List.filterMap_append, ← ih]
      cases request with
      | record entry =>
          change List.filter _ (entry :: noted rest) = _
          by_cases acts : entry.call.routine.acts = true <;> simp [Exchange.cue?, acts, marks, Cue.mark?, Mark.entry?]
      | send message =>
          change List.filter _ (noted rest) = _
          by_cases milestone : message.isMilestone = true <;>
            simp [Exchange.cue?, milestone, marks, Cue.mark?, Mark.entry?]
      | _ => rfl

def Request.KeepsFound : {β : Type} → Request β → Prop
  | _, .update change => ∀ (state : EngineState) (handler : Handler),
      state.found = some handler → (change state).found = some handler
  | _, _ => True

namespace Ledger

variable {story : List Exchange} {after : Ledger}

theorem MayReply.milestones {before : Ledger} {exchange : Exchange}
    (replied : before.MayReply exchange.request exchange.reply after) :
    after.sent.filter Outbound.isMilestone = before.sent.filter Outbound.isMilestone ++
      (marks exchange.cue?.toList).filterMap Mark.message? := by
  obtain ⟨request, reply⟩ := exchange
  rw [replied.eq_upon]
  cases request with
  | send message =>
      by_cases milestone : message.isMilestone = true <;>
        simp [upon, Ledger.send, Exchange.cue?, milestone, marks, Cue.mark?, Mark.message?]
  | openEval code => simp [upon, Ledger.send, Exchange.cue?, Outbound.isMilestone, Outbound.isVerdict]
  | record entry =>
      by_cases acts : entry.call.routine.acts = true <;>
        simp [upon, Ledger.record, Exchange.cue?, acts, marks, Cue.mark?, Mark.message?]
  | _ => exact (List.append_nil _).symm

theorem Follows.milestones : ∀ {before : Ledger}, before.Follows story after →
    after.sent.filter Outbound.isMilestone = before.sent.filter Outbound.isMilestone ++
      (marks (outline story)).filterMap Mark.message? := by
  induction story with
  | nil =>
      rintro before rfl
      exact (List.append_nil _).symm
  | cons exchange rest ih =>
      rintro before ⟨between, replied, follows⟩
      rw [ih follows, replied.milestones, outline_cons, marks_append, List.filterMap_append, List.append_assoc]

theorem MayReply.found {before : Ledger} {exchange : Exchange} {handler : Handler}
    (replied : before.MayReply exchange.request exchange.reply after) (keeps : exchange.request.KeepsFound)
    (held : before.engine.found = some handler) : after.engine.found = some handler := by
  obtain ⟨request, reply⟩ := exchange
  rw [replied.eq_upon]
  cases request with
  | update change => exact keeps _ handler held
  | _ => exact held

theorem MayReply.chose {before : Ledger} {exchange : Exchange} {found : Option Handler}
    (replied : before.MayReply exchange.request exchange.reply after) (told : exchange.cue? = some (.chose found)) :
    before.engine.found = found := by
  obtain ⟨request, reply⟩ := exchange
  cases request with
  | state =>
      obtain ⟨rfl, -⟩ := replied
      exact Cue.chose.inj (Option.some.inj told)
  | send _ | record _ | memory _ | remember _ _ => simp [Exchange.cue?] at told
  | _ => cases told

theorem MayReply.recalled {before : Ledger} {exchange : Exchange} {slot : Nat} {memory : Memory}
    (replied : before.MayReply exchange.request exchange.reply after)
    (told : exchange.cue? = some (.recalled slot memory)) : before.memory slot = memory := by
  obtain ⟨request, reply⟩ := exchange
  cases request with
  | memory _ =>
      obtain ⟨rfl, -⟩ := replied
      obtain ⟨rfl, is⟩ := Cue.recalled.inj (Option.some.inj told)
      exact is
  | send _ | record _ | state | remember _ _ => simp [Exchange.cue?] at told
  | _ => cases told

theorem MayReply.memories {before : Ledger} {exchange : Exchange}
    (replied : before.MayReply exchange.request exchange.reply after) (unlearned : exchange.cue? ≠ some .learned) :
    after.memories = before.memories := by
  obtain ⟨request, reply⟩ := exchange
  rw [replied.eq_upon]
  cases request with
  | remember _ _ => exact absurd rfl unlearned
  | _ => rfl

/-- What is known by the end of an outline is so. -/
structure Bears (ledger : Ledger) (whole : List Cue) : Prop where
  found : ∀ handler, .chose (some handler) ∈ whole → ledger.engine.found = some handler
  memory : ∀ slot memory, Recalls slot memory whole → ledger.memory slot = memory

theorem Bears.reply {before : Ledger} {exchange : Exchange} {whole : List Cue} (bears : before.Bears whole)
    (keeps : exchange.request.KeepsFound) (replied : before.MayReply exchange.request exchange.reply after) :
    after.Bears (whole ++ exchange.cue?.toList) := by
  have still : ∀ {slot memory}, exchange.cue? ≠ some .learned → before.memory slot = memory →
      after.memory slot = memory := by
    intro slot memory unlearned is
    rwa [Ledger.memory, replied.memories unlearned]
  refine ⟨fun handler member => replied.found keeps ?_, fun slot memory recalls => ?_⟩
  · rcases List.mem_append.mp member with old | new
    · exact bears.found handler old
    · exact replied.chose (Option.mem_toList.mp new)
  · cases told : exchange.cue? with
    | none =>
        rw [told, Option.toList_none, List.append_nil] at recalls
        exact still (by simp [told]) (bears.memory slot memory recalls)
    | some cue =>
        rw [told] at recalls
        rcases recalls.ofSnoc with rfl | ⟨unlearned, old⟩
        · exact still (by simp [told]) (replied.recalled told)
        · exact still (by simp [told, unlearned]) (bears.memory slot memory old)

theorem Bears.goOn {whole : List Cue} (keeps : Allowed Request.KeepsFound story) : ∀ {before : Ledger},
    before.Bears whole → before.Follows story after → after.Bears (whole ++ outline story) := by
  induction story generalizing whole with
  | nil =>
      rintro before bears rfl
      exact (List.append_nil whole).symm ▸ bears
  | cons exchange rest ih =>
      rintro before bears ⟨between, replied, follows⟩
      obtain ⟨first, others⟩ := List.forall_mem_cons.mp keeps
      rw [outline_cons, ← List.append_assoc]
      exact ih others (bears.reply first replied) follows

/-- What others do who learn nothing changes nothing. -/
theorem Bears.aside {whole : List Cue} {before : Ledger} (bears : before.Bears whole)
    (keeps : Allowed Request.KeepsFound story) (unlearned : .learned ∉ outline story)
    (follows : before.Follows story after) : after.Bears whole := by
  have grown := bears.goOn keeps follows
  exact ⟨fun handler member => grown.found handler (List.mem_append_left _ member),
    fun slot memory recalls => grown.memory slot memory (recalls.append unlearned)⟩

theorem Follows.found {handler : Handler} (keeps : Allowed Request.KeepsFound story) :
    ∀ {before : Ledger}, before.engine.found = some handler → before.Follows story after →
      after.engine.found = some handler := by
  induction story with
  | nil =>
      rintro before held rfl
      exact held
  | cons exchange rest ih =>
      rintro before held ⟨between, replied, follows⟩
      obtain ⟨first, others⟩ := List.forall_mem_cons.mp keeps
      exact ih others (replied.found first held) follows

/-- Where somebody was found, nobody else is found any more. -/
theorem Follows.chose {handler : Handler} {found : Option Handler} (keeps : Allowed Request.KeepsFound story) :
    ∀ {before : Ledger}, before.engine.found = some handler → before.Follows story after →
      .chose found ∈ outline story → found = some handler := by
  induction story with
  | nil => exact fun _ _ => nofun
  | cons exchange rest ih =>
      rintro before held ⟨between, replied, follows⟩ member
      obtain ⟨first, others⟩ := List.forall_mem_cons.mp keeps
      rw [outline_cons] at member
      rcases List.mem_append.mp member with here | later
      · exact (replied.chose (Option.mem_toList.mp here)).symm.trans held
      · exact ih others (replied.found first held) follows later

end Ledger

end ConsentBanner
