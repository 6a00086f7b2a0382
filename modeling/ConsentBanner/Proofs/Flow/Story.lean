import ConsentBanner.Proofs.Flow.Alone
import ConsentBanner.Proofs.Lists
import Mathlib.Data.List.Perm.Basic

/-!
# What a flow tells

A flow takes steps, each of which tells at most one exchange: a request with the reply that it got.  Here
replies come from nowhere, so that the story of a flow is its own, whatever others do meanwhile.  To take
turns is to take steps whose story a ledger follows (`Turns.tells`), and the story of flows in sequence or
side by side is made of theirs.
-/

set_option autoImplicit false

namespace ConsentBanner

structure Exchange : Type 1 where
  {kind : Type}
  request : Request kind
  reply : kind

def Ledger.Follows (before : Ledger) : List Exchange → Ledger → Prop
  | [], after => after = before
  | exchange :: rest, after =>
    ∃ between : Ledger, before.MayReply exchange.request exchange.reply between ∧ between.Follows rest after

theorem Ledger.Follows.append {first second : List Exchange} {after : Ledger} : ∀ {before between : Ledger},
    before.Follows first between → between.Follows second after → before.Follows (first ++ second) after := by
  induction first with
  | nil =>
      rintro before between rfl follows
      exact follows
  | cons exchange rest ih =>
      rintro before between ⟨middle, replied, follows⟩ later
      exact ⟨middle, replied, ih follows later⟩

theorem Ledger.MayReply.sent {β : Type} {request : Request β} {reply : β} {before after : Ledger}
    (replied : before.MayReply request reply after) : before.sent <+: after.sent := by
  rw [replied.eq_upon]
  cases request with
  | send _ | openEval _ => exact List.prefix_append _ _
  | _ => exact List.prefix_rfl

theorem Ledger.Follows.sent {story : List Exchange} {after : Ledger} : ∀ {before : Ledger},
    before.Follows story after → before.sent <+: after.sent := by
  induction story with
  | nil =>
      rintro before rfl
      exact List.prefix_rfl
  | cons exchange rest ih =>
      rintro before ⟨between, replied, follows⟩
      exact replied.sent.trans (ih follows)

namespace Flow

inductive Step : {α : Type} → Flow α → List Exchange → Flow α → Prop where
  | ask {α β : Type} (request : Request β) (next : β → Flow α) (reply : β) :
      Step (.ask request next) [⟨request, reply⟩] (next reply)
  | lieDown {α : Type} (time due order : Nat) (next : Flow α) :
      Step (.sleep time next) [] (.asleep due order next)
  | skip {α : Type} (time : Nat) (next : Flow α) : Step (.sleep time next) [] next
  | wake {α : Type} (due order : Nat) (next : Flow α) : Step (.asleep due order next) [] next
  | answered {α : Type} (id : String) (next : Option Json → Flow α) (reply : Option Json) :
      Step (.await id next) [] (next reply)
  | left {α β γ : Type} {left moved : Flow β} {right : Flow γ} {next : β → γ → Flow α}
      {told : List Exchange} (step : Step left told moved) :
      Step (.both left right next) told (.both moved right next)
  | right {α β γ : Type} {left : Flow β} {right moved : Flow γ} {next : β → γ → Flow α}
      {told : List Exchange} (step : Step right told moved) :
      Step (.both left right next) told (.both left moved next)
  | join {α β γ : Type} (a : β) (b : γ) (next : β → γ → Flow α) :
      Step (.both (.done a) (.done b) next) [] (next a b)
  | either {α β : Type} {left right moved : Flow β} {next : β → Flow α} {told : List Exchange}
      (step : Step left told moved) : Step (.first left right next) told (.first moved right next)
  | other {α β : Type} {left right moved : Flow β} {next : β → Flow α} {told : List Exchange}
      (step : Step right told moved) : Step (.first left right next) told (.first left moved next)
  | leftFirst {α β : Type} (a : β) (right : Flow β) (next : β → Flow α) :
      Step (.first (.done a) right next) [] (next a)
  | rightFirst {α β : Type} (left : Flow β) (b : β) (next : β → Flow α) :
      Step (.first left (.done b) next) [] (next b)
  | lane {α : Type} {ahead behind : List (Flow Bool)} {lane moved : Flow Bool} {started : Bool}
      {winner : Flow Bool} {next : Option Bool → Flow α} {told : List Exchange}
      (step : Step lane told moved) :
      Step (.race (ahead ++ lane :: behind) started winner next) told
        (.race (ahead ++ moved :: behind) started winner next)
  | win {α : Type} {lanes : List (Flow Bool)} {winner : Flow Bool} {next : Option Bool → Flow α}
      (won : .done true ∈ lanes) : Step (.race lanes false winner next) [] (.race lanes true winner next)
  | leave {α : Type} {ahead behind : List (Flow Bool)} {value started : Bool} {winner : Flow Bool}
      {next : Option Bool → Flow α} (noticed : value = true → started = true) :
      Step (.race (ahead ++ .done value :: behind) started winner next) []
        (.race (ahead ++ behind) started winner next)
  | winner {α : Type} {lanes : List (Flow Bool)} {winner moved : Flow Bool}
      {next : Option Bool → Flow α} {told : List Exchange} (step : Step winner told moved) :
      Step (.race lanes true winner next) told (.race lanes true moved next)
  | lost {α : Type} (winner : Flow Bool) (next : Option Bool → Flow α) :
      Step (.race [] false winner next) [] (next none)
  | decided {α : Type} (value : Bool) (next : Option Bool → Flow α) :
      Step (.race [] true (.done value) next) [] (next (some value))

/-- A flow takes any number of steps. -/
inductive Steps {α : Type} : Flow α → List Exchange → Flow α → Prop where
  | refl (flow : Flow α) : Steps flow [] flow
  | head {flow between after : Flow α} {told story : List Exchange} (step : Step flow told between)
      (rest : Steps between story after) : Steps flow (told ++ story) after

variable {α β γ : Type}

theorem Steps.trans {flow between after : Flow α} {first second : List Exchange}
    (before : Steps flow first between) (later : Steps between second after) :
    Steps flow (first ++ second) after := by
  induction before with
  | refl => exact later
  | head step _ ih =>
      rw [List.append_assoc]
      exact .head step (ih later)

theorem Steps.lift {frame : Flow α → Flow β}
    (frames : ∀ {flow after : Flow α} {told : List Exchange}, Step flow told after →
      Step (frame flow) told (frame after))
    {flow after : Flow α} {story : List Exchange} (steps : Steps flow story after) :
    Steps (frame flow) story (frame after) := by
  induction steps with
  | refl => exact .refl _
  | head step _ ih => exact .head (frames step) ih

/-! ## Turns tell stories -/

/-- A flow takes steps whose story a ledger follows. -/
def Tells (flow : Flow α) (before : Ledger) (after : Flow α) (later : Ledger) : Prop :=
  ∃ story, Steps flow story after ∧ before.Follows story later

theorem Tells.refl (flow : Flow α) (ledger : Ledger) : Tells flow ledger flow ledger := ⟨[], .refl flow, rfl⟩

theorem Tells.lift {frame : Flow α → Flow β}
    (frames : ∀ {flow after : Flow α} {told : List Exchange}, Step flow told after →
      Step (frame flow) told (frame after))
    {flow after : Flow α} {before later : Ledger} (tells : Tells flow before after later) :
    Tells (frame flow) before (frame after) later := by
  obtain ⟨story, steps, follows⟩ := tells
  exact ⟨story, steps.lift frames, follows⟩

/-- A step that tells nothing comes first. -/
theorem Tells.after {flow between after : Flow α} {before later : Ledger} (step : Step flow [] between)
    (tells : Tells between before after later) : Tells flow before after later := by
  obtain ⟨story, steps, follows⟩ := tells
  exact ⟨story, .head step steps, follows⟩

theorem Tells.afterReply {request : Request β} {next : β → Flow α} {reply : β} {after : Flow α}
    {before between later : Ledger} (replied : before.MayReply request reply between)
    (tells : Tells (next reply) between after later) : Tells (.ask request next) before after later := by
  obtain ⟨story, steps, follows⟩ := tells
  exact ⟨_, .head (.ask request next reply) steps, between, replied, follows⟩

theorem Burst.tells {flow after : Flow α} {before later : Ledger} (burst : Burst flow before after later) :
    Tells flow before after later := by
  induction burst with
  | rest ledger _ => exact .refl _ ledger
  | ask _ replied _ ih => exact .afterReply replied ih

theorem Turn.tells {flow after : Flow α} {before later : Ledger} (turn : Turn flow before after later) :
    Tells flow before after later := by
  induction turn with
  | start _ burst => exact burst.tells
  | page reply burst => exact .afterReply rfl burst.tells
  | lieDown ledger time due order => exact .after (.lieDown time due order _) (.refl _ ledger)
  | skip time burst => exact .after (.skip time _) burst.tells
  | wake due order burst => exact .after (.wake due order _) burst.tells
  | answered reply burst => exact .after (.answered _ _ reply) burst.tells
  | left _ ih => exact ih.lift .left
  | right _ ih => exact ih.lift .right
  | join burst => exact .after (.join _ _ _) burst.tells
  | either _ ih => exact ih.lift .either
  | other _ ih => exact ih.lift .other
  | leftFirst burst => exact .after (.leftFirst _ _ _) burst.tells
  | rightFirst burst => exact .after (.rightFirst _ _ _) burst.tells
  | lane _ ih => exact ih.lift .lane
  | win ledger won => exact .after (.win won) (.refl _ ledger)
  | leave ledger noticed => exact .after (.leave noticed) (.refl _ ledger)
  | winner _ ih => exact ih.lift .winner
  | lost burst => exact .after (.lost _ _) burst.tells
  | decided burst => exact .after (.decided _ _) burst.tells

/-- Turns are steps whose story the ledger follows. -/
theorem Turns.tells {flow after : Flow α} {before later : Ledger} (turns : Turns flow before after later) :
    Tells flow before after later := by
  induction turns with
  | refl flow ledger => exact .refl flow ledger
  | head turn _ ih =>
      obtain ⟨first, steps, follows⟩ := turn.tells
      obtain ⟨second, more, followsMore⟩ := ih
      exact ⟨first ++ second, steps.trans more, follows.append followsMore⟩

/-! ## Stories of confined flows -/

variable {may : Allowance} {alone : Bool}

def Allowed (may : Allowance) (story : List Exchange) : Prop := ∀ exchange ∈ story, may exchange.request

theorem Step.confined {flow after : Flow α} {told : List Exchange} (step : Step flow told after)
    (confined : flow.Confined may alone) : after.Confined may alone ∧ Allowed may told := by
  have silent : Allowed may [] := List.forall_mem_nil _
  induction step generalizing alone with
  | ask request next reply =>
      refine ⟨confined.2 reply, fun exchange member => ?_⟩
      obtain rfl := List.mem_singleton.mp member
      exact confined.1.1
  | lieDown => exact ⟨confined, silent⟩
  | skip => exact ⟨confined, silent⟩
  | wake => exact ⟨confined, silent⟩
  | answered _ _ reply => exact ⟨confined.2 reply, silent⟩
  | left _ ih =>
      obtain ⟨still, allowed⟩ := ih confined.1
      exact ⟨⟨still, confined.2⟩, allowed⟩
  | right _ ih =>
      obtain ⟨still, allowed⟩ := ih confined.2.1
      exact ⟨⟨confined.1, still, confined.2.2⟩, allowed⟩
  | join a b => exact ⟨confined.2.2 a b, silent⟩
  | either _ ih =>
      rcases confined.1 with ⟨one, two⟩ | ⟨one, two⟩
      · exact ⟨⟨.inl ⟨(ih one).1, two⟩, confined.2⟩, (ih one).2⟩
      · exact ⟨⟨.inr ⟨(ih one).1, two⟩, confined.2⟩, (ih one).2⟩
  | other _ ih =>
      rcases confined.1 with ⟨one, two⟩ | ⟨one, two⟩
      · exact ⟨⟨.inl ⟨one, (ih two).1⟩, confined.2⟩, (ih two).2⟩
      · exact ⟨⟨.inr ⟨one, (ih two).1⟩, confined.2⟩, (ih two).2⟩
  | leftFirst a => exact ⟨confined.2 a, silent⟩
  | rightFirst _ b => exact ⟨confined.2 b, silent⟩
  | @lane _ ahead behind lane moved _ _ _ _ _ ih =>
      have each := lanesConfined_iff.mp confined.1
      obtain ⟨still, allowed⟩ := ih (each lane (by simp))
      refine ⟨⟨lanesConfined_iff.mpr fun other member => ?_, confined.2⟩, allowed⟩
      simp only [List.mem_append, List.mem_cons] at member
      rcases member with before | rfl | after
      · exact each other (by simp [before])
      · exact still
      · exact each other (by simp [after])
  | win => exact ⟨confined, silent⟩
  | @leave _ ahead behind =>
      have each := lanesConfined_iff.mp confined.1
      refine ⟨⟨lanesConfined_iff.mpr fun other member => each other ?_, confined.2⟩, silent⟩
      exact subset_insert _ ahead behind member
  | winner _ ih =>
      obtain ⟨still, allowed⟩ := ih confined.2.1
      exact ⟨⟨confined.1, still, confined.2.2⟩, allowed⟩
  | lost => exact ⟨confined.2.2 none, silent⟩
  | decided value => exact ⟨confined.2.2 (some value), silent⟩

theorem Steps.confined {flow after : Flow α} {story : List Exchange} (steps : Steps flow story after)
    (confined : flow.Confined may alone) : after.Confined may alone ∧ Allowed may story := by
  induction steps with
  | refl => exact ⟨confined, List.forall_mem_nil _⟩
  | head step _ ih =>
      obtain ⟨still, allowed⟩ := step.confined confined
      obtain ⟨last, more⟩ := ih still
      exact ⟨last, List.forall_mem_append.mpr ⟨allowed, more⟩⟩

/-! ## Stories of flows in sequence and side by side -/

theorem Steps.ofDone {value : α} {after : Flow α} {story : List Exchange}
    (steps : Steps (.done value) story after) : after = .done value ∧ story = [] := by
  cases steps with
  | refl => exact ⟨rfl, rfl⟩
  | head step _ => cases step

theorem Steps.ofAsk {request : Request β} {next : β → Flow α} {after : Flow α} {story : List Exchange}
    (steps : Steps (.ask request next) story after) :
    story = [] ∧ after = .ask request next ∨
      ∃ reply rest, story = ⟨request, reply⟩ :: rest ∧ Steps (next reply) rest after := by
  cases steps with
  | refl => exact .inl ⟨rfl, rfl⟩
  | head step rest =>
      cases step with
      | ask _ _ reply => exact .inr ⟨reply, _, rfl, rest⟩

/-- A step of two flows in sequence is one of the first, unless that is done. -/
theorem Step.ofBind {f : α → Flow β} {flow : Flow α} {after : Flow β} {told : List Exchange}
    (step : Step (flow.bind f) told after) :
    (∃ value, flow = .done value) ∨ ∃ moved, Step flow told moved ∧ after = moved.bind f := by
  cases flow with
  | done value => exact .inl ⟨value, rfl⟩
  | ask request next =>
      cases step with
      | ask _ _ reply => exact .inr ⟨_, .ask request next reply, rfl⟩
  | sleep time next =>
      cases step with
      | lieDown _ due order => exact .inr ⟨_, .lieDown time due order next, rfl⟩
      | skip => exact .inr ⟨_, .skip time next, rfl⟩
  | asleep due order next =>
      cases step with
      | wake => exact .inr ⟨_, .wake due order next, rfl⟩
  | await id next =>
      cases step with
      | answered _ _ reply => exact .inr ⟨_, .answered id next reply, rfl⟩
  | both left right next =>
      cases step with
      | left step => exact .inr ⟨_, .left step, rfl⟩
      | right step => exact .inr ⟨_, .right step, rfl⟩
      | join a b => exact .inr ⟨_, .join a b next, rfl⟩
  | first left right next =>
      cases step with
      | either step => exact .inr ⟨_, .either step, rfl⟩
      | other step => exact .inr ⟨_, .other step, rfl⟩
      | leftFirst a => exact .inr ⟨_, .leftFirst a right next, rfl⟩
      | rightFirst _ b => exact .inr ⟨_, .rightFirst left b next, rfl⟩
  | race lanes started winner next =>
      cases step with
      | lane step => exact .inr ⟨_, .lane step, rfl⟩
      | win won => exact .inr ⟨_, .win won, rfl⟩
      | leave noticed => exact .inr ⟨_, .leave noticed, rfl⟩
      | winner step => exact .inr ⟨_, .winner step, rfl⟩
      | lost => exact .inr ⟨_, .lost winner next, rfl⟩
      | decided value => exact .inr ⟨_, .decided value next, rfl⟩

/-- The story of two flows in sequence is that of the first until it is done, and then that of the
second. -/
theorem Steps.ofBind {f : α → Flow β} {flow : Flow α} {after : Flow β} {story : List Exchange}
    (steps : Steps (flow.bind f) story after) :
    (∃ moved, moved.value? = none ∧ Steps flow story moved ∧ after = moved.bind f) ∨
      ∃ value one two, Steps flow one (.done value) ∧ Steps (f value) two after ∧ story = one ++ two := by
  generalize whole : flow.bind f = both at steps
  induction steps generalizing flow with
  | refl =>
      cases value : flow.value? with
      | none => exact .inl ⟨flow, value, .refl flow, whole.symm⟩
      | some result =>
          obtain rfl := value?_eq_some.mp value
          exact .inr ⟨result, [], [], .refl _, whole ▸ .refl _, rfl⟩
  | @head _ between after told story step rest ih =>
      subst whole
      rcases step.ofBind with ⟨value, rfl⟩ | ⟨moved, first, rfl⟩
      · exact .inr ⟨value, [], told ++ story, .refl _, .head step rest, rfl⟩
      · rcases ih rfl with ⟨last, pending, others, rfl⟩ | ⟨value, one, two, others, beyond, rfl⟩
        · exact .inl ⟨last, pending, .head first others, rfl⟩
        · exact .inr ⟨value, told ++ one, two, .head first others, beyond, (List.append_assoc _ _ _).symm⟩

/-- The story of two flows side by side is made of theirs, up to where both are done. -/
theorem Steps.ofBoth {left : Flow β} {right : Flow γ} {next : β → γ → Flow α} {after : Flow α}
    {story : List Exchange} (steps : Steps (.both left right next) story after) :
    (∃ one two left' right', Steps left one left' ∧ Steps right two right' ∧ story.Perm (one ++ two) ∧
      after = .both left' right' next) ∨
    ∃ one two a b meanwhile rest, Steps left one (.done a) ∧ Steps right two (.done b) ∧
      meanwhile.Perm (one ++ two) ∧ Steps (next a b) rest after ∧ story = meanwhile ++ rest := by
  generalize whole : Flow.both left right next = both at steps
  induction steps generalizing left right with
  | refl => exact .inl ⟨[], [], left, right, .refl _, .refl _, .refl _, whole.symm⟩
  | @head _ between after told story step rest ih =>
      subst whole
      cases step with
      | left step =>
          rcases ih rfl with ⟨one, two, l, r, ones, twos, perm, rfl⟩ |
            ⟨one, two, a, b, meanwhile, later, ones, twos, perm, beyond, rfl⟩
          · refine .inl ⟨told ++ one, two, l, r, .head step ones, twos, ?_, rfl⟩
            rw [List.append_assoc]
            exact perm.append_left told
          · refine .inr ⟨told ++ one, two, a, b, told ++ meanwhile, later, .head step ones, twos, ?_, beyond,
              (List.append_assoc _ _ _).symm⟩
            rw [List.append_assoc]
            exact perm.append_left told
      | right step =>
          have middle : ∀ one two : List Exchange, (told ++ (one ++ two)).Perm (one ++ (told ++ two)) := by
            intro one two
            rw [← List.append_assoc, ← List.append_assoc]
            exact List.perm_append_comm.append_right two
          rcases ih rfl with ⟨one, two, l, r, ones, twos, perm, rfl⟩ |
            ⟨one, two, a, b, meanwhile, later, ones, twos, perm, beyond, rfl⟩
          · exact .inl ⟨one, told ++ two, l, r, ones, .head step twos,
              (perm.append_left told).trans (middle one two), rfl⟩
          · exact .inr ⟨one, told ++ two, a, b, told ++ meanwhile, later, ones, .head step twos,
              (perm.append_left told).trans (middle one two), beyond, (List.append_assoc _ _ _).symm⟩
      | join a b => exact .inr ⟨[], [], a, b, [], story, .refl _, .refl _, .refl _, rest, rfl⟩

end Flow

end ConsentBanner
