import ConsentBanner.Proofs.Flow.Consulted
import ConsentBanner.Proofs.Flow.Settled

/-!
# Flows that face a page of any kind

A behaviour is a page of any kind: it is in some state, replies to each call as it likes and is in another state
then, and may change as time passes.  A flow that only calls the page and sleeps comes to a value whatever it faces
(`Flow.Direct.faces`), and what is kept by its calls and by time is kept all along (`Flow.Direct.keeps`).  What it
does there is one of its stories, and on a snapshot it is what the flow settles as.
-/

set_option autoImplicit false

namespace ConsentBanner

abbrev CallKind : Type 1 := (α : Type) → PageCall α → Prop

/-- Calls that leave a page as it is. -/
def CallKind.reading : CallKind := fun _ call => call.Reads

/-- A page of any kind, with the elements that it has in a state. -/
structure Behaviour (σ : Type) where
  document : σ → Markup.Document
  reply : {α : Type} → PageCall α → σ → Except PageError α × σ
  pass : Nat → σ → σ

/-- A snapshot changes only through calls. -/
def Behaviour.ofSnapshot : Behaviour Snapshot :=
  ⟨Snapshot.document, fun call page => page.perform call, fun _ page => page⟩

/-- A call and its reply, with the state in which the call is made. -/
structure Moment (σ : Type) : Type 1 where
  state : σ
  exchange : Exchange

def Moment.lookedFor? {σ : Type} : Moment σ → Option String
  | ⟨_, ⟨.page (.queryAll _ selector), _⟩⟩ => some selector
  | _ => none

/-- What a flow comes to, how long it has slept, the state of the page then, and the calls that were made. -/
structure Faced (σ α : Type) : Type 1 where
  value : α
  time : Nat
  state : σ
  record : List (Moment σ)

/-- The same after something else. -/
def Faced.after {σ α β : Type} (first : Faced σ β) (second : Faced σ α) : Faced σ α :=
  ⟨second.value, first.time + second.time, second.state, first.record ++ second.record⟩

theorem Faced.after_assoc {σ α β γ : Type} (one : Faced σ β) (two : Faced σ γ) (three : Faced σ α) :
    (one.after two).after three = one.after (two.after three) := by
  simp only [after, Nat.add_assoc, List.append_assoc]

namespace Flow

variable {σ α β : Type}

/-- What a flow comes to that faces a page in some state.  There is nothing if it does anything but call the page
and sleep. -/
def face {α : Type} (page : Behaviour σ) : Flow α → σ → Option (Faced σ α)
  | .done value, state => some ⟨value, 0, state, []⟩
  | .ask (.page call) next, state =>
    (face page (next (page.reply call state).1) (page.reply call state).2).map
      (Faced.after ⟨(), 0, state, [⟨state, ⟨.page call, (page.reply call state).1⟩⟩]⟩)
  | .sleep time next, state =>
    (face page next (page.pass time state)).map (Faced.after ⟨(), time, state, []⟩)
  | _, _ => none

variable {page : Behaviour σ} {flow : Flow α} {f : α → Flow β} {state later : σ} {faced : Faced σ α}

/-- What comes first can be put before all of a sequence or before the first part of it. -/
theorem map_after {γ : Type} (one : Faced σ γ) (first : Option (Faced σ α))
    (onward : α → σ → Option (Faced σ β)) :
    (first.bind fun two => (onward two.value two.state).map two.after).map one.after =
      (first.map one.after).bind fun two => (onward two.value two.state).map two.after := by
  cases first with
  | none => rfl
  | some two =>
      simp only [Option.bind_some, Option.map_some, Option.map_map]
      refine congrArg (Option.map · _) (funext fun three => ?_)
      exact (one.after_assoc two three).symm

theorem face_bind (f : α → Flow β) : ∀ (flow : Flow α) (state : σ),
    (flow.bind f).face page state =
      (flow.face page state).bind fun first => ((f first.value).face page first.state).map first.after
  | .done value, state => by
      rw [bind, face, Option.bind_some]
      cases (f value).face page state <;> simp [Faced.after]
  | .ask request next, state => by
      have onward := fun reply later => face_bind f (next reply) later
      cases request with
      | page call =>
          simp only [bind, face, onward]
          exact map_after _ _ fun value => (f value).face page
      | _ => rfl
  | .sleep time next, state => by
      simp only [bind, face, face_bind f next]
      exact map_after _ _ fun value => (f value).face page
  | .asleep _ _ _, _ => rfl
  | .await _ _, _ => rfl
  | .both _ _ _, _ => rfl
  | .first _ _ _, _ => rfl
  | .race _ _ _ _, _ => rfl

theorem face_andThen {first : Faced σ α} {second : Faced σ β} (faces : flow.face page state = some first)
    (onward : (f first.value).face page first.state = some second) :
    (flow.bind f).face page state = some (first.after second) := by
  rw [face_bind, faces, Option.bind_some, onward]
  rfl

/-- Where two flows in sequence come to an end, both do. -/
theorem face_split {whole : Faced σ β} (faces : (flow.bind f).face page state = some whole) :
    ∃ first second, flow.face page state = some first ∧ (f first.value).face page first.state = some second ∧
      whole = first.after second := by
  rw [face_bind] at faces
  obtain ⟨first, isFirst, onward⟩ := Option.bind_eq_some_iff.mp faces
  obtain ⟨second, isSecond, is⟩ := Option.map_eq_some_iff.mp onward
  exact ⟨first, second, isFirst, isSecond, is.symm⟩

theorem query_faces (page : Behaviour σ) (selector : String) (state : σ) :
    (Primitive.query selector).face page state =
      some ⟨Primitive.orElse (page.reply (.queryAll .document selector) state).1 [], 0,
        (page.reply (.queryAll .document selector) state).2,
        [⟨state, ⟨.page (.queryAll .document selector), (page.reply (.queryAll .document selector) state).1⟩⟩]⟩ := rfl

/-! ## What flows do otherwise -/

theorem steps_of_face : ∀ (flow : Flow α) {state : σ} {faced : Faced σ α}, flow.face page state = some faced →
    Steps flow (faced.record.map Moment.exchange) (.done faced.value)
  | .done value, _, _, faces => by
      cases faces
      exact .refl _
  | .ask request next, _, _, faces => by
      have onward := fun reply later rest => @steps_of_face (next reply) later rest
      cases request with
      | page call =>
          obtain ⟨rest, isRest, rfl⟩ := Option.map_eq_some_iff.mp faces
          exact .head (.ask _ next _) (onward _ _ _ isRest)
      | _ => cases faces
  | .sleep time next, _, _, faces => by
      obtain ⟨rest, isRest, rfl⟩ := Option.map_eq_some_iff.mp faces
      have rested : Steps next (rest.record.map Moment.exchange) (.done rest.value) := steps_of_face next isRest
      exact .head (.skip time next) rested
  | .asleep _ _ _, _, _, faces => nomatch faces
  | .await _ _, _, _, faces => nomatch faces
  | .both _ _ _, _, _, faces => nomatch faces
  | .first _ _ _, _, _, faces => nomatch faces
  | .race _ _ _ _, _, _, faces => nomatch faces

theorem settle_eq_face : ∀ (flow : Flow α) (page : Snapshot),
    flow.settle page = (flow.face .ofSnapshot page).map fun faced => ⟨faced.value, faced.time, faced.state⟩
  | .done _, _ => rfl
  | .ask request next, page => by
      have onward := fun reply later => settle_eq_face (next reply) later
      cases request with
      | page call =>
          rw [settle, face, onward, Option.map_map]
          simp [Function.comp_def, Faced.after, Behaviour.ofSnapshot]
      | _ => rfl
  | .sleep time next, page => by
      rw [settle, face, settle_eq_face next page, Option.map_map, Option.map_map]
      rfl
  | .asleep _ _ _, _ => rfl
  | .await _ _, _ => rfl
  | .both _ _ _, _ => rfl
  | .first _ _ _, _ => rfl
  | .race _ _ _ _, _ => rfl

/-! ## Flows that only call the page and sleep -/

/-- A flow makes only calls of some kind, and sleeps. -/
inductive Direct {α : Type} (may : CallKind) : Flow α → Prop where
  | done (value : α) : Direct may (.done value)
  | ask {β : Type} {call : PageCall β} {next : Except PageError β → Flow α} (allowed : may β call)
      (onward : ∀ reply, Direct may (next reply)) : Direct may (.ask (.page call) next)
  | sleep (time : Nat) {next : Flow α} (onward : Direct may next) : Direct may (.sleep time next)

namespace Direct

variable {may : CallKind}

theorem bind (first : flow.Direct may) (onward : ∀ value, (f value).Direct may) : (flow.bind f).Direct may := by
  induction first with
  | done value => exact onward value
  | ask allowed _ ih => exact .ask allowed ih
  | sleep time _ ih => exact .sleep time ih

theorem ofGlance (glance : flow.IsGlance) : flow.Direct .reading := by
  induction glance with
  | done value => exact .done value
  | ask reads _ ih => exact .ask reads ih

theorem poll {attempt : Flow Bool} (direct : attempt.Direct may) (interval : Nat) :
    ∀ retries, (Flow.poll attempt interval retries).Direct may
  | 0 => direct
  | retries + 1 => direct.bind fun yes => by
      cases yes with
      | true => exact .done true
      | false => exact .sleep interval (poll direct interval retries)

/-- Whatever it faces, it comes to an end. -/
theorem faces (direct : flow.Direct may) (page : Behaviour σ) (state : σ) :
    ∃ faced, flow.face page state = some faced := by
  induction direct generalizing state with
  | done value => exact ⟨_, rfl⟩
  | @ask β call next _ _ ih =>
      obtain ⟨rest, isRest⟩ := ih (page.reply call state).1 (page.reply call state).2
      exact ⟨_, by rw [face, isRest, Option.map_some]⟩
  | sleep time _ ih =>
      obtain ⟨rest, isRest⟩ := ih (page.pass time state)
      exact ⟨_, by rw [face, isRest, Option.map_some]⟩

/-- What is kept by all calls that it may make and by time is kept until the end, and is so at each of its calls. -/
theorem keeps {holds : σ → Prop} (direct : flow.Direct may)
    (calls : ∀ {β : Type} (call : PageCall β) state, may β call → holds state → holds (page.reply call state).2)
    (passes : ∀ time state, holds state → holds (page.pass time state)) (begins : holds state)
    (faces : flow.face page state = some faced) :
    holds faced.state ∧ ∀ moment ∈ faced.record, holds moment.state := by
  induction direct generalizing state faced with
  | done value =>
      cases faces
      exact ⟨begins, fun _ => nofun⟩
  | @ask β call next allowed _ ih =>
      obtain ⟨rest, isRest, rfl⟩ := Option.map_eq_some_iff.mp faces
      obtain ⟨ends, throughout⟩ := ih _ (calls call state allowed begins) isRest
      exact ⟨ends, List.forall_mem_cons.mpr ⟨begins, throughout⟩⟩
  | sleep time _ ih =>
      obtain ⟨rest, isRest, rfl⟩ := Option.map_eq_some_iff.mp faces
      have kept : holds rest.state ∧ ∀ moment ∈ rest.record, holds moment.state :=
        ih (passes time state begins) isRest
      exact kept

/-- It makes only calls that it may make. -/
theorem allowed (direct : flow.Direct may) (faces : flow.face page state = some faced) :
    ∀ moment ∈ faced.record, ∃ (β : Type) (call : PageCall β) (reply : Except PageError β),
      may β call ∧ moment.exchange = ⟨.page call, reply⟩ := by
  induction direct generalizing state faced with
  | done value =>
      cases faces
      exact fun _ => nofun
  | @ask β call next allowed _ ih =>
      obtain ⟨rest, isRest, rfl⟩ := Option.map_eq_some_iff.mp faces
      exact List.forall_mem_cons.mpr ⟨⟨β, call, _, allowed, rfl⟩, ih _ isRest⟩
  | sleep time _ ih =>
      obtain ⟨rest, isRest, rfl⟩ := Option.map_eq_some_iff.mp faces
      have kept : ∀ moment ∈ rest.record, ∃ (β : Type) (call : PageCall β) (reply : Except PageError β),
          may β call ∧ moment.exchange = ⟨.page call, reply⟩ := ih isRest
      exact kept

end Direct

end Flow

end ConsentBanner
