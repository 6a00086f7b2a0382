/-!
# Timing

Every wait of the engine is a fixed interval between a bounded number of attempts.  All times are in
milliseconds.  `Timings.attemptsFor` turns a time limit into a number of further attempts: as many
intervals as cover it.
-/

set_option autoImplicit false

namespace ConsentBanner

/-- All intervals and budgets. -/
structure Timings where
  /-- How long an answer from page script is waited for. -/
  eval : Nat
  /-- Between two looks for an element. -/
  poll : Nat
  /-- Between two detection passes. -/
  detect : Nat
  /-- How often a dialog is looked for again. -/
  popupRetries : Nat
  popup : Nat
  /-- After every click of the action language. -/
  settle : Nat
  waitCssRetries : Nat
  waitCss : Nat
  /-- Before the result of asynchronous page script is read. -/
  asyncEval : Nat
  /-- Between the pointer events of a drag. -/
  slidePause : Nat
  /-- How often the page is asked again whether it has loaded. -/
  readyRetries : Nat
  ready : Nat
  deriving DecidableEq, Repr

namespace Timings

def usual : Timings :=
  { eval := 1000, poll := 200, detect := 500, popupRetries := 5, popup := 500, settle := 0,
    waitCssRetries := 10, waitCss := 250, asyncEval := 250, slidePause := 10, readyRetries := 50,
    ready := 100 }

/-- Shorter waits. -/
def fast : Timings := { usual with eval := 500, detect := 250, popup := 250 }

/-- Longer waits. -/
def patient : Timings :=
  { usual with eval := 3000, detect := 1000, popupRetries := 10, popup := 1000 }

def attemptLimit : Nat := Nat.pow 2 32 - 1

/-- How many further looks a time limit buys. -/
def attemptsFor (timings : Timings) (limit : Nat) : Nat :=
  let interval := max timings.poll 1
  min ((limit + interval - 1) / interval) attemptLimit

example : usual.attemptsFor 2001 = 11 := by decide

end Timings

end ConsentBanner
