/-!
# White space

The characters with the Unicode property `White_Space`, and what is done with them: trimming and
splitting into words.
-/

set_option autoImplicit false

namespace ConsentBanner.Text

/-- Unicode white space. -/
def isBlank (c : Char) : Bool :=
  let n := c.toNat
  (9 ≤ n && n ≤ 13) || n = 32 || n = 0x85 || n = 0xA0 || n = 0x1680 ||
    (0x2000 ≤ n && n ≤ 0x200A) || n = 0x2028 || n = 0x2029 || n = 0x202F || n = 0x205F || n = 0x3000

theorem isBlank_of_isWhitespace (c : Char) (blank : c.isWhitespace = true) : isBlank c = true := by
  simp only [Char.isWhitespace, Bool.or_eq_true, decide_eq_true_eq] at blank
  rcases blank with ((rfl | rfl) | rfl) | rfl <;> decide

def dropStart (p : Char → Bool) (text : List Char) : List Char := text.dropWhile p

def dropEnd (p : Char → Bool) (text : List Char) : List Char :=
  (text.reverse.dropWhile p).reverse

def trimChars (text : List Char) : List Char := dropEnd isBlank (dropStart isBlank text)

/-- The text without white space at either end. -/
def trim (text : String) : String := String.ofList (trimChars text.toList)

/-- Removes a fixed ending as often as it stands there. -/
def stripEndings (ending : List Char) : Nat → List Char → List Char
  | 0, text => text
  | fuel + 1, text =>
    let reversed := text.reverse
    if ending.reverse.isPrefixOf reversed && !ending.isEmpty then
      stripEndings ending fuel (reversed.drop ending.length).reverse
    else text

def trimEndMatches (ending text : String) : String :=
  String.ofList (stripEndings ending.toList text.length text.toList)

/-- The parts of a text between the characters of a class, empty ones included. -/
def splitBy (p : Char → Bool) : List Char → List (List Char)
  | [] => [[]]
  | c :: rest =>
    if p c then [] :: splitBy p rest
    else
      match splitBy p rest with
      | [] => [[c]]
      | part :: more => (c :: part) :: more

def words (text : String) : List String :=
  ((splitBy isBlank text.toList).filter fun part => !part.isEmpty).map String.ofList

/-- One text occurs in another. -/
def containsChars (needle : List Char) : List Char → Bool
  | [] => needle.isEmpty
  | c :: rest => needle.isPrefixOf (c :: rest) || containsChars needle rest

def contains (text needle : String) : Bool := containsChars needle.toList text.toList

theorem containsChars_iff_isInfix (needle text : List Char) :
    containsChars needle text = true ↔ needle <:+: text := by
  induction text with
  | nil => simp [containsChars]
  | cons c rest ih =>
    simp only [containsChars, Bool.or_eq_true, List.isPrefixOf_iff_prefix, ih]
    exact List.infix_cons_iff.symm

end ConsentBanner.Text
