/-!
# Tables in order of insertion

A `Keyed` table is a list of keys with their values in which `put` overwrites in place and adds new
keys at the end.  The main facts say what a later look-up sees: the value just put under its own
key (`get?_put_self`), nothing of it under any other key (`get?_put_of_ne`), and nothing at all
under an erased key (`get?_erase_self`).
-/

set_option autoImplicit false

namespace ConsentBanner

/-- Keys with their values, in the order in which the keys were first put. -/
abbrev Keyed (κ ν : Type) : Type := List (κ × ν)

namespace Keyed

variable {κ ν : Type} [DecidableEq κ]

/-- The value under a key. -/
def get? : Keyed κ ν → κ → Option ν
  | [], _ => none
  | (k, v) :: rest, key => if k = key then some v else get? rest key

/-- The table with a value put under a key, in place of the one that stood there. -/
def put : Keyed κ ν → κ → ν → Keyed κ ν
  | [], key, value => [(key, value)]
  | (k, v) :: rest, key, value =>
    if k = key then (key, value) :: rest else (k, v) :: put rest key value

def erase : Keyed κ ν → κ → Keyed κ ν
  | [], _ => []
  | (k, v) :: rest, key => if k = key then erase rest key else (k, v) :: erase rest key

def has (table : Keyed κ ν) (key : κ) : Bool := (get? table key).isSome

def keys (table : Keyed κ ν) : List κ := table.map Prod.fst

theorem get?_put_self (table : Keyed κ ν) (key : κ) (value : ν) :
    get? (put table key value) key = some value := by
  induction table with
  | nil => simp [put, get?]
  | cons entry rest ih =>
    obtain ⟨k, v⟩ := entry
    by_cases same : k = key
    · simp [put, get?, same]
    · simp [put, get?, same, ih]

theorem get?_put_of_ne (table : Keyed κ ν) {key other : κ} (value : ν) (differ : key ≠ other) :
    get? (put table key value) other = get? table other := by
  induction table with
  | nil => simp [put, get?, differ]
  | cons entry rest ih =>
    obtain ⟨k, v⟩ := entry
    by_cases same : k = key
    · subst same
      simp [put, get?, differ]
    · by_cases hit : k = other
      · subst hit
        simp [put, get?, same]
      · simp [put, get?, same, hit, ih]

theorem get?_erase_self (table : Keyed κ ν) (key : κ) : get? (erase table key) key = none := by
  induction table with
  | nil => rfl
  | cons entry rest ih =>
    obtain ⟨k, v⟩ := entry
    by_cases same : k = key
    · simp [erase, same, ih]
    · simp [erase, get?, same, ih]

theorem get?_erase_of_ne (table : Keyed κ ν) {key other : κ} (differ : key ≠ other) :
    get? (erase table key) other = get? table other := by
  induction table with
  | nil => rfl
  | cons entry rest ih =>
    obtain ⟨k, v⟩ := entry
    by_cases same : k = key
    · subst same
      simp [erase, get?, differ, ih]
    · by_cases hit : k = other
      · subst hit
        simp [erase, get?, same]
      · simp [erase, get?, same, hit, ih]

end Keyed

end ConsentBanner
