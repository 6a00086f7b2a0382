/-!
# Agendas

What is to happen at which time.  Entries come about by their times, those of the same time in the
order in which they were added.
-/

set_option autoImplicit false

namespace ConsentBanner

/-- Times with what is to happen then, in the order in which they come about. -/
abbrev Agenda (α : Type) : Type := List (Nat × α)

namespace Agenda

variable {α : Type}

/-- The agenda with one more entry, behind those that are not later. -/
def add (due : Nat) (what : α) : Agenda α → Agenda α
  | [] => [(due, what)]
  | entry :: rest =>
    if due < entry.1 then (due, what) :: entry :: rest else entry :: add due what rest

def ofList (entries : List (Nat × α)) : Agenda α :=
  entries.foldl (fun agenda entry => add entry.1 entry.2 agenda) []

/-- What has come about at a time. -/
def due (clock : Nat) (agenda : Agenda α) : List α :=
  (agenda.takeWhile fun entry => entry.1 ≤ clock).map Prod.snd

/-- What is still to come after a time. -/
def after (clock : Nat) (agenda : Agenda α) : Agenda α :=
  agenda.dropWhile fun entry => entry.1 ≤ clock

def next? (agenda : Agenda α) : Option Nat := agenda.head?.map Prod.fst

theorem length_add (due : Nat) (what : α) (agenda : Agenda α) :
    (add due what agenda).length = agenda.length + 1 := by
  induction agenda with
  | nil => rfl
  | cons entry rest ih => by_cases h : due < entry.1 <;> simp [add, h, ih]

end Agenda

end ConsentBanner
