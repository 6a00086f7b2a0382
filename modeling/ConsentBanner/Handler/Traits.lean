import ConsentBanner.Flow.Primitive

/-!
# What is known of a handler without running it

Where it may run, what it wants hidden while no decision was made, and what a success of it means.
The last two may hang on what the handler remembers.
-/

set_option autoImplicit false

namespace ConsentBanner

/-- What is known of a handler without running it. -/
structure Traits where
  context : RunContext
  /-- What is hidden until a decision was made. -/
  prehideSelectors : List String
  /-- Success only leads to another dialog. -/
  isIntermediate : Memory → Bool
  /-- Whether opting out had effect can be told. -/
  hasSelfTest : Memory → Bool

namespace Traits

/-- A handler for top frames that hides nothing, finishes a page and cannot test itself. -/
def usual : Traits := ⟨.topFrameOnly, [], fun _ => false, fun _ => false⟩

def toHide (selectors : List String) : Traits := { usual with prehideSelectors := selectors }

def withSelfTest (traits : Traits) : Traits := { traits with hasSelfTest := fun _ => true }

end Traits

def memoryOf (slot : Nat) : Flow Memory := Flow.request (.memory slot)

def remember (slot : Nat) (change : Memory → Memory) : Flow Unit :=
  Flow.request (.remember slot change)

end ConsentBanner
