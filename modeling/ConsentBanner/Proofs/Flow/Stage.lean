import ConsentBanner.Proofs.Flow.Failing
import ConsentBanner.Proofs.Page.Styles
import Mathlib.Order.Defs.Unbundled

/-!
# What becomes of a page

A stage is a page with the ledger of what flows leave behind.  It follows a story if the page gives the replies
to its calls that are told, and others may change the stage between them.  What every exchange of a story keeps
stays (`Stage.Follows.kept`), and what one of them brings about is there in the end (`Stage.Follows.gained`).
-/

set_option autoImplicit false

namespace ConsentBanner

/-- A page with what flows leave behind beside it. -/
structure Stage where
  page : Snapshot
  ledger : Ledger

def World.stage (world : World) : Stage := ⟨world.page, world.ledger⟩

namespace Stage

/-- What can come of a request: the page replies to calls as it does, and the ledger to everything else. -/
def MayReply (before : Stage) : {β : Type} → Request β → β → Stage → Prop
  | _, .page call, reply, after =>
    reply = (before.page.perform call).1 ∧ after = ⟨(before.page.perform call).2, before.ledger⟩
  | _, request, reply, after => before.ledger.MayReply request reply after.ledger ∧ after.page = before.page

theorem MayReply.ledger {before after : Stage} {β : Type} {request : Request β} {reply : β}
    (replied : before.MayReply request reply after) : before.ledger.MayReply request reply after.ledger := by
  cases request with
  | page call =>
      obtain ⟨-, rfl⟩ := replied
      exact rfl
  | _ => exact replied.1

/-- A stage after what a story tells, and what others do meanwhile. -/
def Follows (meanwhile : Stage → Stage → Prop) (before : Stage) : List Exchange → Stage → Prop
  | [], after => meanwhile before after
  | exchange :: rest, after => ∃ now between, meanwhile before now ∧
      now.MayReply exchange.request exchange.reply between ∧ between.Follows meanwhile rest after

/-- Whatever comes of an exchange, something stays as it is. -/
def Keeps (holds : Stage → Prop) (exchange : Exchange) : Prop :=
  ∀ before after : Stage, before.MayReply exchange.request exchange.reply after → holds before → holds after

/-- Whatever comes of an exchange, something is so afterwards, provided something was so before. -/
def Brings (able holds : Stage → Prop) (exchange : Exchange) : Prop :=
  ∀ before after : Stage, able before → before.MayReply exchange.request exchange.reply after → holds after

namespace Follows

variable {meanwhile : Stage → Stage → Prop} {able holds : Stage → Prop} {story first second : List Exchange}
  {before between after : Stage}

theorem earlier [IsTrans Stage meanwhile] (changed : meanwhile before between)
    (follows : between.Follows meanwhile story after) : before.Follows meanwhile story after := by
  cases story with
  | nil => exact IsTrans.trans before between after changed follows
  | cons exchange rest =>
      obtain ⟨now, next, later, replied, onward⟩ := follows
      exact ⟨now, next, IsTrans.trans before between now changed later, replied, onward⟩

theorem append [IsTrans Stage meanwhile] (one : before.Follows meanwhile first between)
    (two : between.Follows meanwhile second after) : before.Follows meanwhile (first ++ second) after := by
  induction first generalizing before with
  | nil => exact two.earlier one
  | cons exchange rest ih =>
      obtain ⟨now, next, changed, replied, onward⟩ := one
      exact ⟨now, next, changed, replied, ih onward⟩

theorem weaken {more : Stage → Stage → Prop} (wider : ∀ {a b}, meanwhile a b → more a b)
    (follows : before.Follows meanwhile story after) : before.Follows more story after := by
  induction story generalizing before with
  | nil => exact wider follows
  | cons exchange rest ih =>
      obtain ⟨now, next, changed, replied, onward⟩ := follows
      exact ⟨now, next, wider changed, replied, ih onward⟩

theorem kept (others : ∀ {a b}, meanwhile a b → holds a → holds b) (own : ∀ exchange ∈ story, Keeps holds exchange)
    (follows : before.Follows meanwhile story after) (start : holds before) : holds after := by
  induction story generalizing before with
  | nil => exact others follows start
  | cons exchange rest ih =>
      obtain ⟨now, next, changed, replied, onward⟩ := follows
      refine ih (fun other member => own other (List.mem_cons_of_mem exchange member)) onward ?_
      exact own exchange List.mem_cons_self now next replied (others changed start)

theorem gained (ready : ∀ {a b}, meanwhile a b → able b) (others : ∀ {a b}, meanwhile a b → holds a → holds b)
    (own : ∀ exchange ∈ story, Keeps holds exchange) (follows : before.Follows meanwhile story after)
    {exchange : Exchange} (member : exchange ∈ story) (brings : Brings able holds exchange) : holds after := by
  induction story generalizing before with
  | nil => cases member
  | cons head rest ih =>
      obtain ⟨now, next, changed, replied, onward⟩ := follows
      have later := fun other (within : other ∈ rest) => own other (List.mem_cons_of_mem head within)
      rcases List.mem_cons.mp member with rfl | within
      · exact onward.kept others later (brings now next (ready changed) replied)
      · exact ih later onward within

theorem known (others : ∀ {a b}, meanwhile a b → holds a → holds b)
    (own : ∀ exchange ∈ story, Keeps holds exchange)
    (follows : before.Follows meanwhile story after) (start : holds before) {state : EngineState}
    (member : ⟨.state, state⟩ ∈ story) : ∃ now : Stage, holds now ∧ now.ledger.engine = state := by
  induction story generalizing before with
  | nil => cases member
  | cons head rest ih =>
      obtain ⟨now, next, changed, replied, onward⟩ := follows
      have here := others changed start
      rcases List.mem_cons.mp member with rfl | within
      · exact ⟨now, here, replied.ledger.1.symm⟩
      · have later := fun other (within : other ∈ rest) => own other (List.mem_cons_of_mem head within)
        exact ih later onward (own head List.mem_cons_self now next replied here) within

end Follows

end Stage

end ConsentBanner
