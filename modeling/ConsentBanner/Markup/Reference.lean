import ConsentBanner.Markup.ReferenceData

/-!
# Character references

A reference names a character by a word or by a number.  Of several names that a text starts with
the longest counts; inside an attribute a name without its semicolon does not count if a letter, a
digit or an equals sign follows.  Numbers outside the range of characters stand for the replacement
character, and some old control codes for what they used to show.
-/

set_option autoImplicit false

namespace ConsentBanner.Markup

/-- A name with what it stands for. -/
structure Reference where
  name : List Char
  text : List Char

def hexValue? (c : Char) : Option Nat :=
  if c.isDigit then some (c.toNat - 48)
  else if 'a' ≤ c ∧ c ≤ 'f' then some (c.toNat - 87)
  else if 'A' ≤ c ∧ c ≤ 'F' then some (c.toNat - 55)
  else none

def readCodes (code : Nat) : List Char → List Char
  | [] => [Char.ofNat code]
  | c :: rest =>
    if c = '+' then Char.ofNat code :: readCodes 0 rest
    else readCodes (16 * code + (hexValue? c).getD 0) rest

def readReference (entry : List Char) : Reference :=
  let isMark (c : Char) : Bool := c = '!' || c = '?'
  let name := entry.takeWhile fun c => !isMark c
  match entry.dropWhile fun c => !isMark c with
  | mark :: codes => ⟨if mark = '!' then name ++ [';'] else name, readCodes 0 codes⟩
  | [] => ⟨name, []⟩

/-- The parts of a text between blanks. -/
def entries : List Char → List Char → List (List Char)
  | before, [] => [before.reverse]
  | before, c :: rest =>
    if c = ' ' then before.reverse :: entries [] rest else entries (c :: before) rest

def references : List Reference := (entries [] referenceText.toList).map readReference

def longestReference (text : List Char) : Option Reference :=
  references.foldl
    (fun best reference =>
      if reference.name.isPrefixOf text then
        match best with
        | none => some reference
        | some other => if other.name.length < reference.name.length then some reference else best
      else best)
    none

/-- What control codes stand for that once showed a character. -/
def oldControls : List (Nat × Nat) := [
  (0x80, 0x20AC), (0x82, 0x201A), (0x83, 0x0192), (0x84, 0x201E), (0x85, 0x2026), (0x86, 0x2020),
  (0x87, 0x2021), (0x88, 0x02C6), (0x89, 0x2030), (0x8A, 0x0160), (0x8B, 0x2039), (0x8C, 0x0152),
  (0x8E, 0x017D), (0x91, 0x2018), (0x92, 0x2019), (0x93, 0x201C), (0x94, 0x201D), (0x95, 0x2022),
  (0x96, 0x2013), (0x97, 0x2014), (0x98, 0x02DC), (0x99, 0x2122), (0x9A, 0x0161), (0x9B, 0x203A),
  (0x9C, 0x0153), (0x9E, 0x017E), (0x9F, 0x0178)]

def replacement : Char := Char.ofNat 0xFFFD

def numbered (code : Nat) : Char :=
  if code = 0 ∨ 0x10FFFF < code ∨ (0xD800 ≤ code ∧ code ≤ 0xDFFF) then replacement
  else
    match oldControls.find? fun old => old.1 = code with
    | some old => Char.ofNat old.2
    | none => Char.ofNat code

def dropSemicolon : List Char → List Char
  | ';' :: rest => rest
  | text => text

/-- A reference by number, behind its number sign. -/
def numericReference (text : List Char) : Option (List Char × List Char) :=
  let (isHex, digits) :=
    match text with
    | 'x' :: rest => (true, rest)
    | 'X' :: rest => (true, rest)
    | rest => (false, rest)
  let isDigit (c : Char) : Bool := if isHex then (hexValue? c).isSome else c.isDigit
  let base := if isHex then 16 else 10
  let taken := digits.takeWhile isDigit
  if taken.isEmpty then none
  else
    let code := taken.foldl (fun n c => base * n + (hexValue? c).getD 0) 0
    some ([numbered code], dropSemicolon (digits.dropWhile isDigit))

/-- A name without its semicolon runs on inside an attribute. -/
def runsOn (text : List Char) : Bool :=
  match text with
  | c :: _ => c = '=' || c.isAlphanum
  | [] => false

/-- Resolves what follows an ampersand: the characters that the reference stands for and the text
behind it, or nothing if no reference stands here. -/
def resolve (inAttribute : Bool) (text : List Char) : Option (List Char × List Char) :=
  match text with
  | '#' :: rest => numericReference rest
  | c :: _ =>
    if !c.isAlphanum then none
    else
      match longestReference text with
      | none => none
      | some reference =>
        let rest := text.drop reference.name.length
        if inAttribute && reference.name.getLast? != some ';' && runsOn rest then none
        else some (reference.text, rest)
  | [] => none

end ConsentBanner.Markup
