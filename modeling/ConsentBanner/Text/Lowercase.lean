import ConsentBanner.Text.CaseData

/-!
# Lowercasing

Full Unicode lowercasing.  Every character goes to its simple lowercase form with two exceptions:
`İ` becomes `i` with a combining dot, and a capital sigma becomes `ς` at the end of a word and `σ`
elsewhere.  A sigma ends a word when a cased character stands before it and none after it, the
case-ignorable characters in between not counting.
-/

set_option autoImplicit false

namespace ConsentBanner.Text

def inRanges (ranges : List (Nat × Nat)) (n : Nat) : Bool :=
  ranges.any fun range => range.1 ≤ n && n ≤ range.2

def lowerChar (c : Char) : Char :=
  let n := c.toNat
  if n < 128 then c.toLower
  else
    match lowercaseShifts.find? fun s => s.first ≤ n && n ≤ s.last && (n - s.first) % s.step = 0 with
    | some s => Char.ofNat ((n : Int) + s.shift).toNat
    | none => c

/-- A character that has an upper or a lower case form, or is one. -/
def isCased (c : Char) : Bool := inRanges casedRanges c.toNat

/-- A character that is passed over in the search for the end of a word. -/
def isCaseIgnorable (c : Char) : Bool := inRanges caseIgnorableRanges c.toNat

def meetsCased (text : List Char) : Bool :=
  match text.dropWhile isCaseIgnorable with
  | [] => false
  | c :: _ => isCased c

/-- Lowercases a text, given what stands before it in reverse. -/
def lowerAfter : List Char → List Char → List Char
  | _, [] => []
  | before, c :: rest =>
    let lowered :=
      if c = 'Σ' then [if meetsCased before && !meetsCased rest then 'ς' else 'σ']
      else if c = 'İ' then ['i', Char.ofNat 0x307]
      else [lowerChar c]
    lowered ++ lowerAfter (c :: before) rest

def lower (text : String) : String := String.ofList (lowerAfter [] text.toList)

end ConsentBanner.Text
