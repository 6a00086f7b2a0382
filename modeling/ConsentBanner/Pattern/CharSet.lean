import ConsentBanner.Text.Blank
import ConsentBanner.Text.GeneralCategory
import ConsentBanner.Text.Lowercase
import ConsentBanner.Text.ScriptData

/-!
# Sets of characters

What a character class of a pattern stands for.  Sets are built from ranges and named properties by
union, intersection, difference and complement; `ignoringCase` adds to a set everything that differs
from one of its members in letter case only.
-/

set_option autoImplicit false

namespace ConsentBanner.Pattern

/-- Named sets of characters. -/
inductive Property where
  | everything
  | ascii
  | assigned
  | digit
  | blank
  | word
  | alphabetic
  | lowercase
  | uppercase
  /-- One of these general categories. -/
  | category (names : List String)
  /-- Written in a script with these ranges. -/
  | script (ranges : List (Nat × Nat))

inductive CharSet where
  | range (low high : Nat)
  | property (p : Property)
  | none
  | union (a b : CharSet)
  | inter (a b : CharSet)
  | minus (a b : CharSet)
  | complement (a : CharSet)
  | ignoringCase (a : CharSet)

def isAlphabetic (c : Char) : Bool :=
  ["Lu", "Ll", "Lt", "Lm", "Lo", "Nl"].contains (Text.generalCategory c)

def isWordChar (c : Char) : Bool :=
  if c.toNat < 128 then c.isAlphanum || c = '_'
  else
    ["Lu", "Ll", "Lt", "Lm", "Lo", "Nl", "Mn", "Mc", "Me", "Nd", "Pc"].contains
      (Text.generalCategory c) ||
      c.toNat = 0x200C || c.toNat = 0x200D

def Property.holds : Property → Char → Bool
  | .everything, _ => true
  | .ascii, c => c.toNat < 128
  | .assigned, c => Text.generalCategory c ≠ "Cn"
  | .digit, c => if c.toNat < 128 then c.isDigit else Text.generalCategory c = "Nd"
  | .blank, c => Text.isBlank c
  | .word, c => isWordChar c
  | .alphabetic, c => isAlphabetic c
  | .lowercase, c => Text.generalCategory c = "Ll"
  | .uppercase, c => Text.generalCategory c = "Lu"
  | .category names, c => names.contains (Text.generalCategory c)
  | .script ranges, c => Text.inRanges ranges c.toNat

/-- Lower case characters that fold to another lower case character. -/
def foldedTwins : List (Char × Char) :=
  [('ſ', 's'), ('ς', 'σ'), ('ϐ', 'β'), ('ϑ', 'θ'), ('ϕ', 'φ'), ('ϖ', 'π'), ('ϰ', 'κ'), ('ϱ', 'ρ'),
   ('ϵ', 'ε'), ('ẛ', 'ṡ'), (Char.ofNat 0x1FBE, 'ι'), (Char.ofNat 0xB5, 'μ'),
   (Char.ofNat 0x345, 'ι')]

/-- What a character is compared by when letter case does not count. -/
def foldKey (c : Char) : Char :=
  let lowered := Text.lowerChar c
  match foldedTwins.find? fun twin => twin.1 = lowered with
  | some twin => twin.2
  | none => lowered

def caseVariants (c : Char) : List Char :=
  let key := foldKey c
  let lowers := key :: (foldedTwins.filter fun twin => twin.2 = key).map Prod.fst
  let uppers := lowers.flatMap fun lowered =>
    if lowered.toNat < 128 then [lowered.toUpper]
    else []
  let mapped := lowers.flatMap fun lowered =>
    (Text.lowercaseShifts.filter fun s =>
      let n := (lowered.toNat : Int) - s.shift
      (s.first : Int) ≤ n && n ≤ s.last && (n.toNat - s.first) % s.step = 0).map fun s =>
        Char.ofNat ((lowered.toNat : Int) - s.shift).toNat
  lowers ++ uppers ++ mapped

def CharSet.has : CharSet → Char → Bool
  | .range low high, c => low ≤ c.toNat && c.toNat ≤ high
  | .property p, c => p.holds c
  | .none, _ => false
  | .union a b, c => a.has c || b.has c
  | .inter a b, c => a.has c && b.has c
  | .minus a b, c => a.has c && !b.has c
  | .complement a, c => !a.has c
  | .ignoringCase a, c => a.has c || (caseVariants c).any a.has

def CharSet.single (c : Char) : CharSet := .range c.toNat c.toNat

end ConsentBanner.Pattern
