import ConsentBanner.Text.GeneralCategoryData

/-!
# General categories

Every character has a general category with a two-letter name, such as `Lu` for an upper case
letter.  The first letter names the group that it belongs to.
-/

set_option autoImplicit false

namespace ConsentBanner.Text

/-- So many code points in a row with one category. -/
structure CategoryRun where
  past : Nat
  category : String
  deriving Inhabited

def lowerHex? (c : Char) : Option Nat :=
  if c.isDigit then some (c.toNat - 48)
  else if 'a' ≤ c ∧ c ≤ 'f' then some (c.toNat - 87)
  else none

/-- Reads runs; `past` is the first code point behind those already read. -/
def readRuns (past count : Nat) : List Char → List CategoryRun
  | [] => []
  | c :: rest =>
    if c.isUpper then
      match rest with
      | [] => []
      | second :: more => ⟨past + count, String.ofList [c, second]⟩ :: readRuns (past + count) 0 more
    else readRuns past (16 * count + (lowerHex? c).getD 0) rest

def categoryRuns : List CategoryRun := readRuns 0 0 categoryRunText.toList

def generalCategory (c : Char) : String :=
  match categoryRuns.find? fun run => c.toNat < run.past with
  | some run => run.category
  | none => "Cn"

def categoryGroup? (name : String) : Option (List String) :=
  match name with
  | "C" => some ["Cc", "Cf", "Cs", "Co", "Cn"]
  | "L" => some ["Lu", "Ll", "Lt", "Lm", "Lo"]
  | "LC" => some ["Lu", "Ll", "Lt"]
  | "M" => some ["Mn", "Mc", "Me"]
  | "N" => some ["Nd", "Nl", "No"]
  | "P" => some ["Pc", "Pd", "Ps", "Pe", "Pi", "Pf", "Po"]
  | "S" => some ["Sm", "Sc", "Sk", "So"]
  | "Z" => some ["Zs", "Zl", "Zp"]
  | _ => none

end ConsentBanner.Text
