import ConsentBanner.Flow.Primitive
import ConsentBanner.Flow.Run

/-!
# Confined flows

A flow is confined if it makes no requests but allowed ones, and waits for the answer wherever it asks for
page script.  It is confined and alone if, besides, time is all it ever has to wait for: where it waits
for an answer of the host, a sleep ends that.  Being confined is kept by everything that flows are put
together with.
-/

set_option autoImplicit false

namespace ConsentBanner

abbrev Allowance : Type 1 := {β : Type} → Request β → Prop

/-- Whoever asks for page script waits for the answer. -/
def Request.HeededBy {α : Type} : {β : Type} → Request β → (β → Flow α) → Prop
  | _, .openEval _, next => ∀ id, id ∈ (next id).awaited
  | _, _, _ => True

namespace Flow

mutual

/-- A flow makes allowed requests only.  If it is alone, it waits for nothing but time. -/
def Confined {α : Type} (may : Allowance) (alone : Bool) : Flow α → Prop
  | .done _ => True
  | .ask request next =>
    (may request ∧ request.HeededBy next) ∧ ∀ reply, Confined may alone (next reply)
  | .sleep _ next => Confined may alone next
  | .asleep _ _ next => Confined may alone next
  | .await _ next => alone = false ∧ ∀ reply, Confined may alone (next reply)
  | .both left right next =>
    Confined may alone left ∧ Confined may alone right ∧ ∀ a b, Confined may alone (next a b)
  | .first left right next =>
    (Confined may alone left ∧ Confined may false right ∨
      Confined may false left ∧ Confined may alone right) ∧ ∀ a, Confined may alone (next a)
  | .race lanes _ winner next =>
    LanesConfined may alone lanes ∧ Confined may alone winner ∧ ∀ a, Confined may alone (next a)

/-- The lanes of a race make allowed requests only. -/
def LanesConfined (may : Allowance) (alone : Bool) : List (Flow Bool) → Prop
  | [] => True
  | lane :: rest => Confined may alone lane ∧ LanesConfined may alone rest

end

variable {α β : Type} {may : Allowance}

mutual

theorem Confined.weaken {less : Allowance} (allowed : ∀ {β : Type} (request : Request β),
    less request → may request) {alone : Bool} :
    ∀ {α : Type} {flow : Flow α}, flow.Confined less alone → flow.Confined may alone ∧
      flow.Confined may false
  | _, .done _, _ => ⟨trivial, trivial⟩
  | _, .ask request next, confined =>
      have onward := fun reply => Confined.weaken allowed (confined.2 reply)
      have asks := confined.1.imp_left (allowed request)
      ⟨⟨asks, fun reply => (onward reply).1⟩, ⟨asks, fun reply => (onward reply).2⟩⟩
  | _, .sleep _ next, confined =>
      have onward := Confined.weaken allowed (show next.Confined less alone from confined)
      onward
  | _, .asleep _ _ next, confined =>
      have onward := Confined.weaken allowed (show next.Confined less alone from confined)
      onward
  | _, .await _ next, confined =>
      have onward := fun reply => Confined.weaken allowed (confined.2 reply)
      ⟨⟨confined.1, fun reply => (onward reply).1⟩, ⟨rfl, fun reply => (onward reply).2⟩⟩
  | _, .both left right next, confined =>
      have one := Confined.weaken allowed confined.1
      have two := Confined.weaken allowed confined.2.1
      have onward := fun a b => Confined.weaken allowed (confined.2.2 a b)
      ⟨⟨one.1, two.1, fun a b => (onward a b).1⟩, ⟨one.2, two.2, fun a b => (onward a b).2⟩⟩
  | _, .first left right next, confined => by
      have onward := fun a => Confined.weaken allowed (confined.2 a)
      refine ⟨⟨?_, fun a => (onward a).1⟩, ⟨?_, fun a => (onward a).2⟩⟩
      · rcases confined.1 with ⟨one, two⟩ | ⟨one, two⟩
        · exact .inl ⟨(Confined.weaken allowed one).1, (Confined.weaken allowed two).2⟩
        · exact .inr ⟨(Confined.weaken allowed one).2, (Confined.weaken allowed two).1⟩
      · rcases confined.1 with ⟨one, two⟩ | ⟨one, two⟩
        · exact .inl ⟨(Confined.weaken allowed one).2, (Confined.weaken allowed two).2⟩
        · exact .inl ⟨(Confined.weaken allowed one).2, (Confined.weaken allowed two).2⟩
  | _, .race lanes _ winner next, confined =>
      have onLanes := LanesConfined.weaken allowed confined.1
      have lead := Confined.weaken allowed confined.2.1
      have onward := fun a => Confined.weaken allowed (confined.2.2 a)
      ⟨⟨onLanes.1, lead.1, fun a => (onward a).1⟩, ⟨onLanes.2, lead.2, fun a => (onward a).2⟩⟩

theorem LanesConfined.weaken {less : Allowance} (allowed : ∀ {β : Type} (request : Request β),
    less request → may request) {alone : Bool} :
    ∀ {lanes : List (Flow Bool)}, LanesConfined less alone lanes → LanesConfined may alone lanes ∧
      LanesConfined may false lanes
  | [], _ => ⟨trivial, trivial⟩
  | _ :: _, confined =>
      have first := Confined.weaken allowed confined.1
      have others := LanesConfined.weaken allowed confined.2
      ⟨⟨first.1, others.1⟩, ⟨first.2, others.2⟩⟩

end

theorem awaited_bind {f : α → Flow β} {flow : Flow α} {id : String} (waits : id ∈ flow.awaited) :
    id ∈ (flow.bind f).awaited := by
  cases flow with
  | done value => cases waits
  | _ => exact waits

end Flow

theorem Request.HeededBy.bind {α β γ : Type} {request : Request γ} {next : γ → Flow α} (f : α → Flow β)
    (heeded : request.HeededBy next) : request.HeededBy fun reply => (next reply).bind f := by
  cases request with
  | openEval code => exact fun id => Flow.awaited_bind (heeded id)
  | _ => trivial

namespace Flow

variable {α β : Type} {may : Allowance}

namespace Confined

variable {alone : Bool}

@[simp] theorem done (value : α) : (Flow.done value).Confined may alone := trivial

@[simp] theorem pure (value : α) : (Pure.pure value : Flow α).Confined may alone := trivial

theorem bind {f : α → Flow β} (onward : ∀ a, (f a).Confined may alone) :
    ∀ {flow : Flow α}, flow.Confined may alone → (flow.bind f).Confined may alone
  | .done a, _ => onward a
  | .ask _ _, confined =>
      ⟨confined.1.imp_right (.bind f), fun reply => bind onward (confined.2 reply)⟩
  | .sleep _ next, confined =>
      have later := bind onward (show next.Confined may alone from confined)
      later
  | .asleep _ _ next, confined =>
      have later := bind onward (show next.Confined may alone from confined)
      later
  | .await _ _, confined => ⟨confined.1, fun reply => bind onward (confined.2 reply)⟩
  | .both _ _ _, confined => ⟨confined.1, confined.2.1, fun a b => bind onward (confined.2.2 a b)⟩
  | .first _ _ _, confined => ⟨confined.1, fun a => bind onward (confined.2 a)⟩
  | .race _ _ _ _, confined =>
      ⟨confined.1, confined.2.1, fun a => bind onward (confined.2.2 a)⟩

@[simp] theorem andThen {flow : Flow α} {f : α → Flow β} (first : flow.Confined may alone)
    (onward : ∀ a, (f a).Confined may alone) : (flow >>= f).Confined may alone :=
  bind onward first

@[simp] theorem ite {condition : Prop} [Decidable condition] {flow other : Flow α}
    (yes : flow.Confined may alone) (no : other.Confined may alone) :
    (if condition then flow else other).Confined may alone := by
  split
  · exact yes
  · exact no

/-- A request that needs no further answer. -/
theorem request {request : Request α} (allowed : may request)
    (heeded : request.HeededBy fun reply : α => Flow.done reply) : (Flow.request request).Confined may alone :=
  ⟨⟨allowed, heeded⟩, fun _ => trivial⟩

@[simp] theorem pause (time : Nat) : (Flow.pause time).Confined may alone := trivial

@[simp] theorem poll {attempt : Flow Bool} (interval : Nat) (confined : attempt.Confined may alone) :
    ∀ retries, (Flow.poll attempt interval retries).Confined may alone := by
  intro retries
  induction retries with
  | zero => exact confined
  | succ retries ih =>
      refine bind (fun yes => ?_) confined
      cases yes
      · exact ih
      · exact done true

theorem all : ∀ {flows : List (Flow α)}, (∀ flow ∈ flows, flow.Confined may alone) →
    (Flow.all flows).Confined may alone := by
  intro flows
  induction flows with
  | nil => exact fun _ => trivial
  | cons flow rest ih =>
      intro confined
      exact ⟨confined flow List.mem_cons_self,
        ih fun other member => confined other (List.mem_cons_of_mem _ member), fun _ _ => trivial⟩

theorem within {flow : Flow α} (time : Nat) (confined : flow.Confined may false) :
    (Flow.within time flow).Confined may alone :=
  ⟨.inr ⟨bind (fun _ => done _) confined, trivial⟩, fun _ => trivial⟩

theorem open_ {flow : Flow α} (confined : flow.Confined may alone) : flow.Confined may false :=
  (confined.weaken fun _ allowed => allowed).2

theorem anyOf : ∀ {others : List (Flow α)} {flow : Flow α}, flow.Confined may alone →
    (∀ other ∈ others, other.Confined may alone) → (Flow.anyOf flow others).Confined may alone := by
  intro others
  induction others with
  | nil => exact fun confined _ => confined
  | cons other rest ih =>
      intro flow confined all
      have later := ih (all other List.mem_cons_self) fun one member =>
        all one (List.mem_cons_of_mem _ member)
      exact ⟨.inl ⟨confined, later.open_⟩, fun _ => trivial⟩

@[simp] theorem each {run : α → Flow Unit} (confined : ∀ a, (run a).Confined may alone) :
    ∀ members, (Flow.each run members).Confined may alone := by
  intro members
  induction members with
  | nil => trivial
  | cons a rest ih => exact bind (fun _ => ih) (confined a)

end Confined

end Flow

end ConsentBanner
