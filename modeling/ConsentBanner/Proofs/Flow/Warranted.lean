import ConsentBanner.Proofs.Flow.Story

/-!
# Flows that have a warrant for what they do

What a flow may ask for can hang on what it was told before: whoever remembers an element has seen it, whoever says
that something is done has tried.  A flow is warranted if each of its requests is allowed by what was told until then,
in whatever order the flows inside it take their steps.  Being warranted is kept by what flows are put together with,
and every exchange in the story of a warranted flow was allowed by those before it (`Steps.warranted`).
-/

set_option autoImplicit false

namespace ConsentBanner

/-- What may be asked for by somebody who was told some exchanges. -/
abbrev Warrant : Type 1 := List Exchange → {β : Type} → Request β → Prop

/-- What may be asked for may still be as more is told, be it in between. -/
def Warrant.Lasts (may : Warrant) : Prop :=
  ∀ {told later : List Exchange}, told.Sublist later →
    ∀ {β : Type} (request : Request β), may told request → may later request

def Entitled (may : Warrant) : List Exchange → List Exchange → Prop
  | _, [] => True
  | told, exchange :: rest => may told exchange.request ∧ Entitled may (told ++ [exchange]) rest

theorem entitled_append {may : Warrant} {told first second : List Exchange} :
    Entitled may told (first ++ second) ↔ Entitled may told first ∧ Entitled may (told ++ first) second := by
  induction first generalizing told with
  | nil => simp [Entitled]
  | cons exchange rest ih => simp [Entitled, ih, and_assoc]

namespace Flow

/-- What is good for a value and what was told is so as more is told, be it in between. -/
def Lasting {α : Type} (good : α → List Exchange → Prop) : Prop :=
  ∀ {told later : List Exchange} (value : α), told.Sublist later → good value told → good value later

/-- A flow makes requests that may be made, given what was told before and in it, and in the end has a value that is
good for what was told.  Of flows side by side each may be told more by the other ones, and nothing is known of what
they come to. -/
inductive Warranted (may : Warrant) : {α : Type} → (α → List Exchange → Prop) → List Exchange → Flow α → Prop where
  | done {α : Type} {good : α → List Exchange → Prop} {told : List Exchange} {value : α} (ends : good value told) :
      Warranted may good told (.done value)
  | ask {α β : Type} {good : α → List Exchange → Prop} {told : List Exchange} {request : Request β}
      {next : β → Flow α} (allowed : may told request)
      (onward : ∀ reply, Warranted may good (told ++ [⟨request, reply⟩]) (next reply)) :
      Warranted may good told (.ask request next)
  | sleep {α : Type} {good : α → List Exchange → Prop} {told : List Exchange} {time : Nat} {next : Flow α}
      (onward : Warranted may good told next) : Warranted may good told (.sleep time next)
  | asleep {α : Type} {good : α → List Exchange → Prop} {told : List Exchange} {due order : Nat} {next : Flow α}
      (onward : Warranted may good told next) : Warranted may good told (.asleep due order next)
  | await {α : Type} {good : α → List Exchange → Prop} {told : List Exchange} {id : String}
      {next : Option Json → Flow α} (onward : ∀ reply, Warranted may good told (next reply)) :
      Warranted may good told (.await id next)
  | both {α β γ : Type} {good : α → List Exchange → Prop} {told : List Exchange} {left : Flow β} {right : Flow γ}
      {next : β → γ → Flow α} (one : Warranted may (fun _ _ => True) told left)
      (two : Warranted may (fun _ _ => True) told right)
      (onward : ∀ a b later, told.Sublist later → Warranted may good later (next a b)) :
      Warranted may good told (.both left right next)
  | first {α β : Type} {good : α → List Exchange → Prop} {told : List Exchange} {left right : Flow β}
      {next : β → Flow α} (one : Warranted may (fun _ _ => True) told left)
      (two : Warranted may (fun _ _ => True) told right)
      (onward : ∀ a later, told.Sublist later → Warranted may good later (next a)) :
      Warranted may good told (.first left right next)
  | race {α : Type} {good : α → List Exchange → Prop} {told : List Exchange} {lanes : List (Flow Bool)}
      {started : Bool} {winner : Flow Bool} {next : Option Bool → Flow α}
      (each : ∀ lane ∈ lanes, Warranted may (fun _ _ => True) told lane)
      (lead : Warranted may (fun _ _ => True) told winner)
      (onward : ∀ outcome later, told.Sublist later → Warranted may good later (next outcome)) :
      Warranted may good told (.race lanes started winner next)

namespace Warranted

variable {may : Warrant} {α β : Type} {good : α → List Exchange → Prop} {fine : β → List Exchange → Prop}
  {told later : List Exchange} {flow : Flow α}

theorem later_of (lasts : may.Lasts) (warranted : Warranted may good told flow) (lasting : Lasting good)
    (grown : told.Sublist later) : Warranted may good later flow := by
  induction warranted generalizing later with
  | done ends => exact .done (lasting _ grown ends)
  | ask allowed _ ih => exact .ask (lasts grown _ allowed) fun reply => ih reply lasting (grown.append (.refl _))
  | sleep _ ih => exact .sleep (ih lasting grown)
  | asleep _ ih => exact .asleep (ih lasting grown)
  | await _ ih => exact .await fun reply => ih reply lasting grown
  | both _ _ onward ihLeft ihRight _ =>
      exact .both (ihLeft (fun _ _ _ => trivial) grown) (ihRight (fun _ _ _ => trivial) grown)
        fun a b last more => onward a b last (grown.trans more)
  | first _ _ onward ihLeft ihRight _ =>
      exact .first (ihLeft (fun _ _ _ => trivial) grown) (ihRight (fun _ _ _ => trivial) grown)
        fun a last more => onward a last (grown.trans more)
  | race _ _ onward ihLanes ihLead _ =>
      exact .race (fun lane member => ihLanes lane member (fun _ _ _ => trivial) grown)
        (ihLead (fun _ _ _ => trivial) grown) fun outcome last more => onward outcome last (grown.trans more)

/-- Of flows in sequence the second knows what the first has come to. -/
theorem bind {f : α → Flow β} (first : Warranted may good told flow)
    (onward : ∀ value later, told.Sublist later → good value later → Warranted may fine later (f value)) :
    Warranted may fine told (flow.bind f) := by
  induction first with
  | done ends => exact onward _ _ (.refl _) ends
  | ask allowed _ ih =>
      refine .ask allowed fun reply => ih reply fun value later grown => onward value later ?_
      exact (List.sublist_append_left _ _).trans grown
  | sleep _ ih => exact .sleep (ih onward)
  | asleep _ ih => exact .asleep (ih onward)
  | await _ ih => exact .await fun reply => ih reply onward
  | both one two _ _ _ ih =>
      exact .both one two fun a b later grown => ih a b later grown fun value last more =>
        onward value last (grown.trans more)
  | first one two _ _ _ ih =>
      exact .first one two fun a later grown => ih a later grown fun value last more =>
        onward value last (grown.trans more)
  | race each lead _ _ _ ih =>
      exact .race each lead fun outcome later grown => ih outcome later grown fun value last more =>
        onward value last (grown.trans more)

/-- One flow after the other, as written in steps. -/
theorem andThen {f : α → Flow β} (first : Warranted may good told flow)
    (onward : ∀ value later, told.Sublist later → good value later → Warranted may fine later (f value)) :
    Warranted may fine told (flow >>= f) := first.bind onward

/-- Less may be known of the value. -/
theorem imp {loose : α → List Exchange → Prop} (first : Warranted may good told flow)
    (looser : ∀ value later, told.Sublist later → good value later → loose value later) :
    Warranted may loose told flow := by
  rw [← flow.bind_done]
  exact first.bind fun value later grown ends => .done (looser value later grown ends)

theorem any (first : Warranted may good told flow) : Warranted may (fun _ _ => True) told flow :=
  first.imp fun _ _ _ _ => trivial

theorem pure {value : α} (ends : good value told) : Warranted may good told (Pure.pure value : Flow α) := .done ends

theorem ite {condition : Prop} [Decidable condition] {flow other : Flow α} (yes : Warranted may good told flow)
    (no : Warranted may good told other) : Warranted may good told (if condition then flow else other) := by
  split
  · exact yes
  · exact no

theorem afterRequest {request : Request α} {next : α → Flow β} (allowed : may told request)
    (onward : ∀ reply, Warranted may fine (told ++ [⟨request, reply⟩]) (next reply)) :
    Warranted may fine told (Flow.request request >>= next) := .ask allowed onward

theorem all : ∀ {flows : List (Flow α)}, (∀ flow ∈ flows, Warranted may (fun _ _ => True) told flow) →
    Warranted may (fun _ _ => True) told (Flow.all flows) := by
  intro flows
  induction flows with
  | nil => exact fun _ => .done trivial
  | cons flow rest ih =>
      intro each
      obtain ⟨first, others⟩ := List.forall_mem_cons.mp each
      exact .both first (ih others) fun _ _ _ _ => .done trivial

end Warranted

section Confined

variable {may : Warrant} {less : Allowance} {base : List Exchange}

mutual

/-- What is always allowed is warranted. -/
theorem Confined.warranted (allowed : ∀ {told : List Exchange}, base.Sublist told → ∀ {β : Type} (request : Request β),
    less request → may told request) {alone : Bool} : ∀ {α : Type} {flow : Flow α}, flow.Confined less alone →
      ∀ {told : List Exchange}, base.Sublist told → Warranted may (fun _ later => base.Sublist later) told flow
  | _, .done _, _, _, grown => .done grown
  | _, .ask request _, confined, _, grown =>
      .ask (allowed grown request confined.1.1) fun reply =>
        Confined.warranted allowed (confined.2 reply) (grown.trans (List.sublist_append_left _ _))
  | _, .sleep _ next, confined, _, grown =>
      .sleep (Confined.warranted allowed (show next.Confined less alone from confined) grown)
  | _, .asleep _ _ next, confined, _, grown =>
      .asleep (Confined.warranted allowed (show next.Confined less alone from confined) grown)
  | _, .await _ _, confined, _, grown => .await fun reply => Confined.warranted allowed (confined.2 reply) grown
  | _, .both _ _ _, confined, _, grown =>
      .both (Confined.warranted allowed confined.1 grown).any (Confined.warranted allowed confined.2.1 grown).any
        fun a b _ more => Confined.warranted allowed (confined.2.2 a b) (grown.trans more)
  | _, .first _ _ _, confined, _, grown => by
      refine .first ?_ ?_ fun a _ more => Confined.warranted allowed (confined.2 a) (grown.trans more)
      · rcases confined.1 with ⟨one, -⟩ | ⟨one, -⟩
        · exact (Confined.warranted allowed one grown).any
        · exact (Confined.warranted allowed one grown).any
      · rcases confined.1 with ⟨-, two⟩ | ⟨-, two⟩
        · exact (Confined.warranted allowed two grown).any
        · exact (Confined.warranted allowed two grown).any
  | _, .race _ _ _ _, confined, _, grown =>
      .race (LanesConfined.warranted allowed confined.1 grown) (Confined.warranted allowed confined.2.1 grown).any
        fun outcome _ more => Confined.warranted allowed (confined.2.2 outcome) (grown.trans more)

theorem LanesConfined.warranted (allowed : ∀ {told : List Exchange}, base.Sublist told →
    ∀ {β : Type} (request : Request β), less request → may told request) {alone : Bool} :
    ∀ {lanes : List (Flow Bool)}, LanesConfined less alone lanes → ∀ {told : List Exchange}, base.Sublist told →
      ∀ lane ∈ lanes, Warranted may (fun _ _ => True) told lane
  | [], _, _, _ => nofun
  | _ :: _, confined, _, grown => List.forall_mem_cons.mpr
      ⟨(Confined.warranted allowed confined.1 grown).any, LanesConfined.warranted allowed confined.2 grown⟩

end

end Confined

/-! ## Stories of warranted flows -/

variable {may : Warrant} {α : Type} {good : α → List Exchange → Prop} {told new story : List Exchange}
  {flow after : Flow α}

theorem Step.warranted (lasts : may.Lasts) (step : Step flow new after) (warranted : Warranted may good told flow)
    (lasting : Lasting good) : Entitled may told new ∧ Warranted may good (told ++ new) after := by
  have same : told ++ [] = told := List.append_nil told
  have true : ∀ {β : Type}, Lasting fun (_ : β) _ => True := fun _ _ _ => trivial
  have grown : ∀ {new : List Exchange}, told.Sublist (told ++ new) := List.sublist_append_left _ _
  induction step generalizing told with
  | ask request next reply =>
      cases warranted with
      | ask allowed onward => exact ⟨⟨allowed, trivial⟩, onward reply⟩
  | lieDown =>
      cases warranted with
      | sleep onward => exact ⟨trivial, same.symm ▸ .asleep onward⟩
  | skip =>
      cases warranted with
      | sleep onward => exact ⟨trivial, same.symm ▸ onward⟩
  | wake =>
      cases warranted with
      | asleep onward => exact ⟨trivial, same.symm ▸ onward⟩
  | answered _ _ reply =>
      cases warranted with
      | await onward => exact ⟨trivial, same.symm ▸ onward reply⟩
  | left _ ih =>
      cases warranted with
      | both one two onward =>
          obtain ⟨entitled, moved⟩ := ih one true same grown
          exact ⟨entitled, .both moved (two.later_of lasts true grown) fun a b last more =>
            onward a b last (grown.trans more)⟩
  | right _ ih =>
      cases warranted with
      | both one two onward =>
          obtain ⟨entitled, moved⟩ := ih two true same grown
          exact ⟨entitled, .both (one.later_of lasts true grown) moved fun a b last more =>
            onward a b last (grown.trans more)⟩
  | join a b =>
      cases warranted with
      | both _ _ onward => exact ⟨trivial, onward a b _ grown⟩
  | either _ ih =>
      cases warranted with
      | first one two onward =>
          obtain ⟨entitled, moved⟩ := ih one true same grown
          exact ⟨entitled, .first moved (two.later_of lasts true grown) fun a last more =>
            onward a last (grown.trans more)⟩
  | other _ ih =>
      cases warranted with
      | first one two onward =>
          obtain ⟨entitled, moved⟩ := ih two true same grown
          exact ⟨entitled, .first (one.later_of lasts true grown) moved fun a last more =>
            onward a last (grown.trans more)⟩
  | leftFirst a =>
      cases warranted with
      | first _ _ onward => exact ⟨trivial, onward a _ grown⟩
  | rightFirst _ b =>
      cases warranted with
      | first _ _ onward => exact ⟨trivial, onward b _ grown⟩
  | @lane _ ahead behind lane _ _ _ _ _ _ ih =>
      cases warranted with
      | race each lead onward =>
          obtain ⟨entitled, moved⟩ := ih (each lane (by simp)) true same grown
          refine ⟨entitled, .race (fun other member => ?_) (lead.later_of lasts true grown) fun outcome last more =>
            onward outcome last (grown.trans more)⟩
          rcases mem_replace lane member with rfl | old
          · exact moved
          · exact (each other old).later_of lasts true grown
  | win =>
      cases warranted with
      | race each lead onward => exact ⟨trivial, same.symm ▸ .race each lead onward⟩
  | @leave _ ahead behind =>
      cases warranted with
      | race each lead onward =>
          refine ⟨trivial, same.symm ▸ .race (fun other member => each other ?_) lead onward⟩
          exact subset_insert _ ahead behind member
  | winner _ ih =>
      cases warranted with
      | race each lead onward =>
          obtain ⟨entitled, moved⟩ := ih lead true same grown
          exact ⟨entitled, .race (fun lane member => (each lane member).later_of lasts true grown) moved
            fun outcome last more => onward outcome last (grown.trans more)⟩
  | lost =>
      cases warranted with
      | race _ _ onward => exact ⟨trivial, onward none _ grown⟩
  | decided value =>
      cases warranted with
      | race _ _ onward => exact ⟨trivial, onward (some value) _ grown⟩

/-- Whatever a warranted flow does was allowed by what was told before. -/
theorem Steps.warranted (lasts : may.Lasts) (steps : Steps flow story after)
    (warranted : Warranted may good told flow) (lasting : Lasting good) :
    Entitled may told story ∧ Warranted may good (told ++ story) after := by
  induction steps generalizing told with
  | refl => exact ⟨trivial, (List.append_nil told).symm ▸ warranted⟩
  | head step _ ih =>
      obtain ⟨first, onward⟩ := step.warranted lasts warranted lasting
      obtain ⟨others, last⟩ := ih onward
      rw [← List.append_assoc]
      exact ⟨entitled_append.mpr ⟨first, others⟩, last⟩

end Flow

end ConsentBanner
