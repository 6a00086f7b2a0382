import ConsentBanner.Keyed
import ConsentBanner.Pattern.Basic

/-!
# The written form of patterns

Concatenation, alternatives, groups, counted repetition, character classes with set operations,
escapes, Unicode properties, anchors and inline flags.  There is neither look-around nor reference
to an earlier group.  `Pattern.ofText?` answers nothing for a text that is not well formed.
-/

set_option autoImplicit false

namespace ConsentBanner.Pattern

/-- The modes that inline flags switch. -/
structure Flags where
  ignoreCase : Bool
  multiLine : Bool
  dotAll : Bool
  unicode : Bool
  crlf : Bool
  verbose : Bool

def Flags.initial : Flags := ⟨false, false, false, true, false, false⟩

/-- What is left to read, the modes in force and the group names already given. -/
structure Progress where
  rest : List Char
  flags : Flags
  names : List String

abbrev Reading (α : Type) : Type := StateT Progress Option α

/-- The next character, left in place. -/
def peek : Reading (Option Char) := return (← get).rest.head?

def peekSecond : Reading (Option Char) := return ((← get).rest.drop 1).head?

def bump : Reading Unit := modify fun p => { p with rest := p.rest.drop 1 }

def refuse {α : Type} : Reading α := fun _ => none

/-- Drops blanks, and comments up to the end of their line. -/
def dropComments : Bool → List Char → List Char
  | _, [] => []
  | true, c :: rest => if c = '\n' then dropComments false rest else dropComments true rest
  | false, c :: rest =>
    if Text.isBlank c then dropComments false rest
    else if c = '#' then dropComments true rest
    else c :: rest

def bumpSpace : Reading Unit :=
  modify fun p => if p.flags.verbose then { p with rest := dropComments false p.rest } else p

/-- The next character, which must be there. -/
def current : Reading Char := do
  match ← peek with
  | some c => return c
  | none => refuse

/-- Consumes the next characters if they are these. -/
def bumpIf (expected : List Char) : Reading Bool := do
  let p ← get
  if expected.isPrefixOf p.rest then
    set { p with rest := p.rest.drop expected.length }
    return true
  else return false

/-- A number in decimal, blanks around it left aside. -/
def decimal : Reading Nat := do
  let p ← get
  let text := p.rest.dropWhile Text.isBlank
  let digits := text.takeWhile Char.isDigit
  let rest := (text.dropWhile Char.isDigit).dropWhile Text.isBlank
  let value := digits.foldl (fun n c => 10 * n + (c.toNat - 48)) 0
  if digits.isEmpty ∨ Nat.pow 2 32 ≤ value then refuse
  else
    set { p with rest := rest }
    return value

def hexDigit? (c : Char) : Option Nat :=
  if c.isDigit then some (c.toNat - 48)
  else if 'a' ≤ c ∧ c ≤ 'f' then some (c.toNat - 87)
  else if 'A' ≤ c ∧ c ≤ 'F' then some (c.toNat - 55)
  else none

def hexNumber? : List Char → Option Nat
  | [] => none
  | digits => digits.foldlM (fun n c => (hexDigit? c).map (16 * n + ·)) 0

def charOf (code : Nat) : Reading Char :=
  if code < 0xD800 ∨ (0xDFFF < code ∧ code ≤ 0x10FFFF) then return Char.ofNat code else refuse

/-- A character by its code: so many digits, or any number of them between braces.  Says too whether
it was written without braces. -/
def hexEscape (count : Nat) : Reading (Char × Bool) := do
  bumpSpace
  let p ← get
  match p.rest with
  | '{' :: rest =>
    let digits := rest.takeWhile (· ≠ '}')
    let digits := if p.flags.verbose then digits.filter fun c => !Text.isBlank c else digits
    match rest.dropWhile (· ≠ '}') with
    | [] => refuse
    | _ :: behind =>
      match hexNumber? digits with
      | none => refuse
      | some code =>
        set { p with rest := behind }
        return (← charOf code, false)
  | rest =>
    if rest.length < count then refuse
    else
      match hexNumber? (rest.take count) with
      | none => refuse
      | some code =>
        set { p with rest := rest.drop count }
        return (← charOf code, true)

/-- A property name without the marks that do not count. -/
def looseName (name : String) : String :=
  let kept := name.toList.filter fun c => c ≠ ' ' ∧ c ≠ '_' ∧ c ≠ '-' ∧ c.toNat < 128
  let lowered := kept.map Char.toLower
  match lowered with
  | 'i' :: 's' :: rest => if rest.isEmpty ∨ rest = ['c'] then String.ofList lowered
    else String.ofList rest
  | other => String.ofList other

def categoryNames : List (String × String) := [
  ("letter", "L"), ("casedletter", "LC"), ("uppercaseletter", "Lu"), ("lowercaseletter", "Ll"),
  ("titlecaseletter", "Lt"), ("modifierletter", "Lm"), ("otherletter", "Lo"), ("mark", "M"),
  ("combiningmark", "M"), ("nonspacingmark", "Mn"), ("spacingmark", "Mc"), ("enclosingmark", "Me"),
  ("number", "N"), ("decimalnumber", "Nd"), ("digit", "Nd"), ("letternumber", "Nl"),
  ("othernumber", "No"), ("punctuation", "P"), ("punct", "P"), ("connectorpunctuation", "Pc"),
  ("dashpunctuation", "Pd"), ("openpunctuation", "Ps"), ("closepunctuation", "Pe"),
  ("initialpunctuation", "Pi"), ("finalpunctuation", "Pf"), ("otherpunctuation", "Po"),
  ("symbol", "S"), ("mathsymbol", "Sm"), ("currencysymbol", "Sc"), ("modifiersymbol", "Sk"),
  ("othersymbol", "So"), ("separator", "Z"), ("spaceseparator", "Zs"), ("lineseparator", "Zl"),
  ("paragraphseparator", "Zp"), ("other", "C"), ("control", "Cc"), ("cntrl", "Cc"), ("format", "Cf"),
  ("surrogate", "Cs"), ("privateuse", "Co"), ("unassigned", "Cn")]

/-- The short names of the general categories and their groups. -/
def categoryCodes : List String := [
  "Cc", "Cf", "Cs", "Co", "Cn", "Lu", "Ll", "Lt", "Lm", "Lo", "Mn", "Mc", "Me", "Nd", "Nl", "No",
  "Pc", "Pd", "Ps", "Pe", "Pi", "Pf", "Po", "Sm", "Sc", "Sk", "So", "Zs", "Zl", "Zp",
  "C", "L", "LC", "M", "N", "P", "S", "Z"]

def categoryNamed? (name : String) : Option Property :=
  let code :=
    match Keyed.get? categoryNames name with
    | some code => some code
    | none => categoryCodes.find? fun code => code.toLower = name
  code.map fun code => .category ((Text.categoryGroup? code).getD [code])

def scriptNamed? (name : String) : Option Property :=
  let long :=
    match name with
    | "grek" => "greek"
    | "cyrl" => "cyrillic"
    | "latn" => "latin"
    | "hani" => "han"
    | "arab" => "arabic"
    | "hebr" => "hebrew"
    | "hira" => "hiragana"
    | "kana" => "katakana"
    | "hang" => "hangul"
    | other => other
  (Keyed.get? Text.scriptRanges long).map .script

def propertyNamed? (name : String) : Option Property :=
  match name with
  | "any" => some .everything
  | "ascii" => some .ascii
  | "assigned" => some .assigned
  | "alphabetic" | "alpha" => some .alphabetic
  | "lowercase" | "lower" => some .lowercase
  | "uppercase" | "upper" => some .uppercase
  | "whitespace" | "wspace" | "space" => some .blank
  | other => (categoryNamed? other).or (scriptNamed? other)

/-- A property by a name or by a name and a value. -/
def propertyOf? (text : String) : Option CharSet :=
  let split (mark : List Char) : Option (List Char × List Char) :=
    let chars := text.toList
    (List.range chars.length).findSome? fun i =>
      if mark.isPrefixOf (chars.drop i) then some (chars.take i, chars.drop (i + mark.length))
      else none
  let valued (name value : List Char) : Option Property :=
    let value := looseName (String.ofList value)
    match looseName (String.ofList name) with
    | "gc" | "generalcategory" => categoryNamed? value
    | "sc" | "script" | "scx" | "scriptextensions" => scriptNamed? value
    | _ => none
  match split ['!', '='] with
  | some (name, value) => (valued name value).map fun p => .complement (.property p)
  | none =>
    match (split [':']).or (split ['=']) with
    | some (name, value) => (valued name value).map .property
    | none => (propertyNamed? (looseName text)).map .property

def propertyEscape : Reading CharSet := do
  bumpSpace
  let p ← get
  match p.rest with
  | '{' :: rest =>
    let name := rest.takeWhile (· ≠ '}')
    match rest.dropWhile (· ≠ '}') with
    | [] => refuse
    | _ :: behind =>
      set { p with rest := behind }
      match propertyOf? (String.ofList name) with
      | some set => return set
      | none => refuse
  | c :: rest =>
    if c = '\\' then refuse
    else
      set { p with rest := rest }
      match propertyOf? (String.ofList [c]) with
      | some set => return set
      | none => refuse
  | [] => refuse

/-- What an escape or a plain character stands for. -/
inductive Atom where
  | char (c : Char)
  /-- A byte of a text, not a character: outside Unicode mode, and from 128 on. -/
  | byte (code : Nat)
  | set (s : CharSet)
  | anchor (a : Anchor)

def asciiOnly (set : CharSet) : CharSet := .inter set (.property .ascii)

/-- A property, restricted to ASCII outside Unicode mode. -/
def classOf (p : Property) (negated : Bool) : Reading CharSet := do
  let flags := (← get).flags
  let positive : CharSet := if flags.unicode then .property p else asciiOnly (.property p)
  return if negated then .complement positive else positive

/-- Characters that stand for themselves behind a backslash. -/
def isEscapable (c : Char) : Bool :=
  c.toNat < 128 && !c.isAlphanum && c ≠ '<' && c ≠ '>'

/-- The word boundary behind `\b`, which may be narrowed by a word in braces. -/
def wordBoundary (ascii : Bool) : Reading Atom := do
  let p ← get
  match p.rest with
  | '{' :: rest =>
    let inner := if p.flags.verbose then dropComments false rest else rest
    match inner with
    | [] => refuse
    | first :: _ =>
      if !(first.isAlpha || first = '-') then return .anchor (.wordEdge ascii)
      else
        let name := rest.takeWhile (· ≠ '}')
        match rest.dropWhile (· ≠ '}') with
        | [] => refuse
        | _ :: behind =>
          set { p with rest := behind }
          match String.ofList (name.filter fun c => !Text.isBlank c || !p.flags.verbose) with
          | "start" => return .anchor (.wordStart ascii)
          | "end" => return .anchor (.wordEnd ascii)
          | "start-half" => return .anchor (.wordStartHalf ascii)
          | "end-half" => return .anchor (.wordEndHalf ascii)
          | _ => refuse
  | _ => return .anchor (.wordEdge ascii)

/-- What an escape stands for, with the backslash consumed. -/
def escape : Reading Atom := do
  let c ← current
  bump
  let flags := (← get).flags
  let ascii := !flags.unicode
  match c with
  | 'x' =>
    let (c, short) ← hexEscape 2
    return if short && ascii && 128 ≤ c.toNat then .byte c.toNat else .char c
  | 'u' => return .char (← hexEscape 4).1
  | 'U' => return .char (← hexEscape 8).1
  | 'p' => if ascii then refuse else return .set (← propertyEscape)
  | 'P' => if ascii then refuse else return .set (.complement (← propertyEscape))
  | 'd' => return .set (← classOf .digit false)
  | 'D' => return .set (← classOf .digit true)
  | 's' => return .set (← classOf .blank false)
  | 'S' => return .set (← classOf .blank true)
  | 'w' => return .set (← classOf .word false)
  | 'W' => return .set (← classOf .word true)
  | 'a' => return .char (Char.ofNat 7)
  | 'f' => return .char (Char.ofNat 12)
  | 't' => return .char '\t'
  | 'n' => return .char '\n'
  | 'r' => return .char '\r'
  | 'v' => return .char (Char.ofNat 11)
  | 'A' => return .anchor .textStart
  | 'z' => return .anchor .textEnd
  | 'b' => wordBoundary ascii
  | 'B' => return .anchor (.noWordEdge ascii)
  | '<' => return .anchor (.wordStart ascii)
  | '>' => return .anchor (.wordEnd ascii)
  | c => if isEscapable c then return .char c else refuse

def namedClass? (name : String) : Option CharSet :=
  let r (a b : Char) : CharSet := .range a.toNat b.toNat
  match name with
  | "alnum" => some (.union (r '0' '9') (.union (r 'A' 'Z') (r 'a' 'z')))
  | "alpha" => some (.union (r 'A' 'Z') (r 'a' 'z'))
  | "ascii" => some (.range 0 127)
  | "blank" => some (.union (.single '\t') (.single ' '))
  | "cntrl" => some (.union (.range 0 31) (.range 127 127))
  | "digit" => some (r '0' '9')
  | "graph" => some (r '!' '~')
  | "lower" => some (r 'a' 'z')
  | "print" => some (r ' ' '~')
  | "punct" =>
    some (.union (r '!' '/') (.union (r ':' '@') (.union (r '[' (Char.ofNat 96)) (.range 123 126))))
  | "space" => some (.union (.range 9 13) (.single ' '))
  | "upper" => some (r 'A' 'Z')
  | "word" =>
    some (.union (r '0' '9') (.union (r 'A' 'Z') (.union (r 'a' 'z') (.single '_'))))
  | "xdigit" => some (.union (r '0' '9') (.union (r 'A' 'F') (r 'a' 'f')))
  | _ => none

/-- A class named between colons, if one stands here. -/
def colonClass : Reading (Option CharSet) := do
  let p ← get
  match p.rest with
  | '[' :: ':' :: rest =>
    let (negated, rest) :=
      match rest with
      | '^' :: more => (true, more)
      | more => (false, more)
    let name := rest.takeWhile (· ≠ ':')
    match rest.dropWhile (· ≠ ':') with
    | ':' :: ']' :: behind =>
      match namedClass? (String.ofList name) with
      | none => return none
      | some s =>
        set { p with rest := behind }
        return some (if negated then .complement s else s)
    | _ => return none
  | _ => return none

def classItem : Reading Atom := do
  let c ← current
  bump
  if c = '\\' then
    let _ ← current
    escape
  else return .char c

/-- The code of a single item of a class; outside Unicode mode a character from 128 on is none. -/
def itemCode : Atom → Reading Nat
  | .char c => do
    if !(← get).flags.unicode && 128 ≤ c.toNat then refuse else return c.toNat
  | .byte code => return code
  | .set _ => refuse
  | .anchor _ => refuse

def itemSet : Atom → Reading CharSet
  | .set s => return s
  | single => do
    let code ← itemCode single
    return .range code code

def classRange : Reading CharSet := do
  let first ← classItem
  bumpSpace
  let c ← current
  let p ← get
  let behind := p.rest.drop 1
  let second := (if p.flags.verbose then dropComments false behind else behind).head?
  if c ≠ '-' ∨ second = some ']' ∨ second = some '-' then itemSet first
  else
    bump
    bumpSpace
    let _ ← current
    let last ← classItem
    let low ← itemCode first
    let high ← itemCode last
    if low ≤ high then return .range low high else refuse

/-- Set operations inside a class. -/
inductive SetOperation where
  | inter | minus | symmetric

def combine (fold : CharSet → CharSet) :
    Option (CharSet × SetOperation) → CharSet → CharSet
  | none, right => right
  | some (left, .inter), right => .inter (fold left) (fold right)
  | some (left, .minus), right => .minus (fold left) (fold right)
  | some (left, .symmetric), right =>
    .union (.minus (fold left) (fold right)) (.minus (fold right) (fold left))

/-- Hyphens at the start of a class. -/
def leadingHyphens : Nat → CharSet → Reading CharSet
  | 0, s => return s
  | fuel + 1, s => do
    if (← current) = '-' then
      bump
      bumpSpace
      let _ ← current
      leadingHyphens fuel (.union s (.single '-'))
    else return s

mutual

/-- A class in brackets, with the cursor at the opening one. -/
def bracketClass : Nat → Reading CharSet
  | 0 => refuse
  | fuel + 1 => do
    bump
    bumpSpace
    let negated := (← current) = '^'
    if negated then
      bump
      bumpSpace
    let hyphens ← leadingHyphens ((← get).rest.length) .none
    let empty := match hyphens with
      | .none => true
      | _ => false
    let start ← (do
      if empty && (← current) == ']' then
        bump
        bumpSpace
        let _ ← current
        return .single ']'
      else return hyphens)
    let body ← classBody fuel none start
    let flags := (← get).flags
    let folded : CharSet := if flags.ignoreCase then .ignoringCase body else body
    return if negated then .complement folded else folded

def classBody : Nat → Option (CharSet × SetOperation) → CharSet → Reading CharSet
  | 0, _, _ => refuse
  | fuel + 1, left, items => do
    bumpSpace
    let c ← current
    let second ← peekSecond
    let fold (s : CharSet) (ignoreCase : Bool) : CharSet :=
      if ignoreCase then .ignoringCase s else s
    let ignoreCase := (← get).flags.ignoreCase
    let operator (operation : SetOperation) : Reading CharSet := do
      bump
      bump
      classBody fuel (some (combine (fold · ignoreCase) left items, operation)) .none
    if c = '[' then
      match ← colonClass with
      | some s => classBody fuel left (.union items s)
      | none =>
        let nested ← bracketClass fuel
        classBody fuel left (.union items nested)
    else if c = ']' then
      bump
      return combine (fold · ignoreCase) left items
    else if c = '&' ∧ second = some '&' then operator .inter
    else if c = '-' ∧ second = some '-' then operator .minus
    else if c = '~' ∧ second = some '~' then operator .symmetric
    else
      let item ← classRange
      classBody fuel left (.union items item)

end

/-- One letter of an inline flag group. -/
def setFlag (flags : Flags) (on : Bool) : Char → Option Flags
  | 'i' => some { flags with ignoreCase := on }
  | 'm' => some { flags with multiLine := on }
  | 's' => some { flags with dotAll := on }
  | 'U' => some flags
  | 'u' => some { flags with unicode := on }
  | 'R' => some { flags with crlf := on }
  | 'x' => some { flags with verbose := on }
  | _ => none

/-- The letters of a flag group up to `:` or `)`: the modes they leave and whether there were any.
A letter may stand once only, and a minus must be followed by one. -/
def flagLetters : List Char → List Char → Bool → Bool → Flags → Option (Flags × Bool × List Char)
  | [], _, _, _, _ => none
  | c :: rest, seen, minus, justMinus, flags =>
    if c = ':' ∨ c = ')' then
      if justMinus then none else some (flags, !seen.isEmpty || minus, c :: rest)
    else if c = '-' then
      if minus then none else flagLetters rest seen true true flags
    else if seen.contains c then none
    else
      match setFlag flags (!minus) c with
      | none => none
      | some flags => flagLetters rest (c :: seen) minus false flags

def isNameChar (first : Bool) (c : Char) : Bool :=
  c = '_' || isAlphabetic c ||
    (!first && (c = '.' || c = '[' || c = ']' || (Property.category ["Nd", "Nl", "No"]).holds c))

/-- The name of a group up to its closing angle bracket; a name may be given once only. -/
def groupName : Reading Unit := do
  let p ← get
  let name := p.rest.takeWhile (· ≠ '>')
  match p.rest.dropWhile (· ≠ '>'), name with
  | _ :: behind, first :: more =>
    let text := String.ofList name
    if !isNameChar true first ∨ !more.all (isNameChar false) ∨ p.names.contains text then refuse
    else set { p with rest := behind, names := text :: p.names }
  | _, _ => refuse

/-- What an item of a sequence is: something that can be repeated, or a change of modes. -/
inductive Item where
  | pattern (p : Pattern)
  | modes

def charPattern (flags : Flags) (c : Char) : Pattern :=
  let single : CharSet := .single c
  if !flags.ignoreCase then .one single
  else if flags.unicode then .one (.ignoringCase single)
  else if c.toNat < 128 then .one (asciiOnly (.ignoringCase single))
  else .one single

/-- A class outside Unicode mode must not hold anything from 128 on. -/
def checkedSet (flags : Flags) (s : CharSet) : Reading Pattern :=
  if flags.unicode then return .one s
  else if (List.range 128).any fun i => s.has (Char.ofNat (128 + i)) then refuse
  else return .one (asciiOnly s)

def atomPattern (atom : Atom) : Reading Pattern := do
  let flags := (← get).flags
  match atom with
  | .char c => return charPattern flags c
  | .byte _ => refuse
  | .set s => checkedSet flags (if flags.ignoreCase then .ignoringCase s else s)
  | .anchor a => return .anchor a

/-- The counts of a repetition in braces, with the cursor behind the opening one. -/
def counts : Reading (Nat × Option Nat) := do
  let low ← decimal
  let c ← current
  let bounds ← (do
    if c = ',' then
      bump
      bumpSpace
      if (← current) = '}' then return (low, none)
      else
        let high ← decimal
        return (low, some high)
    else return (low, some low))
  if (← current) ≠ '}' then refuse
  else
    bump
    match bounds.2 with
    | some high => if high < low then refuse else return bounds
    | none => return bounds

/-- Joins the items of a sequence, the last one first. -/
def joinItems (items : List Item) : Pattern :=
  items.foldl
    (fun joined item =>
      match item with
      | .pattern p => .seq p joined
      | .modes => joined)
    .empty

def repeatLast (items : List Item) (min : Nat) (max : Option Nat) : Reading (List Item) := do
  match items with
  | .pattern p :: rest =>
    let _ ← bumpIf ['?']
    return .pattern (.repeated p min max) :: rest
  | _ => refuse

mutual

/-- Alternatives up to a closing parenthesis or the end. -/
def alternatives : Nat → Reading Pattern
  | 0 => refuse
  | fuel + 1 => do
    let first ← sequence fuel []
    match ← peek with
    | some '|' =>
      bump
      let rest ← alternatives fuel
      return .alt first rest
    | _ => return first

/-- A sequence of items; the ones already read stand in reverse. -/
def sequence : Nat → List Item → Reading Pattern
  | 0, _ => refuse
  | fuel + 1, items => do
    bumpSpace
    match ← peek with
    | none => return joinItems items
    | some '|' => return joinItems items
    | some ')' => return joinItems items
    | some '*' =>
      bump
      sequence fuel (← repeatLast items 0 none)
    | some '+' =>
      bump
      sequence fuel (← repeatLast items 1 none)
    | some '?' =>
      bump
      sequence fuel (← repeatLast items 0 (some 1))
    | some '{' =>
      match items with
      | .pattern _ :: _ =>
        bump
        bumpSpace
        let (min, max) ← counts
        sequence fuel (← repeatLast items min max)
      | _ => refuse
    | some '(' =>
      let item ← group fuel
      sequence fuel (item :: items)
    | some '[' =>
      let s ← bracketClass ((← get).rest.length + 1)
      let p ← checkedSet (← get).flags s
      sequence fuel (.pattern p :: items)
    | some '.' =>
      bump
      let flags := (← get).flags
      if !flags.unicode then refuse
      else
        let newline : CharSet := if flags.crlf then .union (.single '\n') (.single '\r')
          else .single '\n'
        let dot : CharSet := if flags.dotAll then .property .everything else .complement newline
        sequence fuel (.pattern (.one dot) :: items)
    | some '^' =>
      bump
      let flags := (← get).flags
      let a : Anchor := if flags.multiLine then .lineStart flags.crlf else .textStart
      sequence fuel (.pattern (.anchor a) :: items)
    | some '$' =>
      bump
      let flags := (← get).flags
      let a : Anchor := if flags.multiLine then .lineEnd flags.crlf else .textEnd
      sequence fuel (.pattern (.anchor a) :: items)
    | some '\\' =>
      bump
      let p ← atomPattern (← escape)
      sequence fuel (.pattern p :: items)
    | some c =>
      bump
      sequence fuel (.pattern (charPattern (← get).flags c) :: items)

/-- A group or a change of modes, with the cursor at the opening parenthesis. -/
def group : Nat → Reading Item
  | 0 => refuse
  | fuel + 1 => do
    bump
    bumpSpace
    let outer := (← get).flags
    let inside : Reading Item := do
      let p ← alternatives fuel
      if (← bumpIf [')']) then
        modify fun progress => { progress with flags := outer }
        return .pattern p
      else refuse
    let rest := (← get).rest
    if ['?', '='].isPrefixOf rest || ['?', '!'].isPrefixOf rest ||
        ['?', '<', '='].isPrefixOf rest || ['?', '<', '!'].isPrefixOf rest then refuse
    else if (← bumpIf ['?', 'P', '<']) then
      groupName
      inside
    else if (← bumpIf ['?', '<']) then
      groupName
      inside
    else if (← bumpIf ['?']) then
      match flagLetters (← get).rest [] false false outer with
      | none => refuse
      | some (flags, some?, behind) =>
        match behind with
        | ')' :: more =>
          if !some? then refuse
          else
            modify fun progress => { progress with rest := more, flags := flags }
            return .modes
        | _ :: more =>
          modify fun progress => { progress with rest := more, flags := flags }
          inside
        | [] => refuse
    else inside

end

/-- The pattern that a text writes; nothing if the text is not well formed, or if its counted
repetitions make it too long. -/
def ofText? (text : String) : Option Pattern :=
  let chars := text.toList
  match alternatives (4 * chars.length + 4) ⟨chars, .initial, []⟩ with
  | some (p, progress) => if progress.rest.isEmpty && p.size ≤ longest then some p else none
  | none => none

end ConsentBanner.Pattern
