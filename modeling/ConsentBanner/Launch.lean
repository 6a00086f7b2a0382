/-!
# Launching a browser

How the browser is started and how long a page may take.  Times are in milliseconds.
-/

set_option autoImplicit false

namespace ConsentBanner

/-- How a browser is started. -/
structure LaunchConfig where
  headless : Bool
  viewport : Option (Nat × Nat)
  /-- How long a page may take to load. -/
  navigation : Nat
  /-- How long a page may take in all, from detection to the self test. -/
  runBudget : Nat
  deriving DecidableEq, Repr

namespace LaunchConfig

/-- No window, half a minute to load and a minute in all. -/
def usual : LaunchConfig := ⟨true, none, 30000, 60000⟩

/-- With a window. -/
def headful (config : LaunchConfig) : LaunchConfig := { config with headless := false }

/-- With a window area of a given size. -/
def withViewport (config : LaunchConfig) (width height : Nat) : LaunchConfig :=
  { config with viewport := some (width, height) }

def withNavigation (config : LaunchConfig) (time : Nat) : LaunchConfig :=
  { config with navigation := time }

/-- With another time in all, given in seconds. -/
def withRunBudget (config : LaunchConfig) (seconds : Nat) : LaunchConfig :=
  { config with runBudget := 1000 * seconds }

end LaunchConfig

end ConsentBanner
