import ConsentBanner.Selector.Basic
import ConsentBanner.Selector.Token

/-!
# Reading selectors

`Selector.ofText?` reads a selector, or finds that the text is none: a condition is unknown, or
malformed, or misplaced.  The alternatives of `:is` and `:where` are forgiving: one that is no
selector describes nothing, unless a bracket in it is closed that was never opened.
-/

set_option autoImplicit false

namespace ConsentBanner.Selector

/-- What may stand where. -/
structure Permission where
  /-- Conditions on surroundings may not be nested. -/
  has : Bool
  /-- A single compound is asked for in some places. -/
  combinators : Bool

/-- Reads from tokens; a failure tells what is left behind it. -/
abbrev Reading (α : Type) : Type := List Token → Except (List Token) (α × List Token)

/-- The tokens without blanks at their start. -/
def skipBlanks : List Token → List Token
  | .blank :: rest => skipBlanks rest
  | tokens => tokens

/-- Nothing but blanks is left. -/
def isFinished (tokens : List Token) : Bool :=
  match skipBlanks tokens with
  | [] => true
  | _ => false

/-- Reads an operator that stands between compounds. -/
def combinatorFrom (blank : Bool) : List Token → Option Combinator × List Token
  | [] => (none, [])
  | .blank :: rest => combinatorFrom true rest
  | .delim '>' :: rest => (some .child, rest)
  | .delim '+' :: rest => (some .next, rest)
  | .delim '~' :: rest => (some .later, rest)
  | tokens => (if blank then some .descendant else none, tokens)

/-- Reads the name of an element, if one stands there: a name or a star, behind a namespace that
may be any or none. -/
def elementName : Reading (List Condition) := fun tokens =>
  let afterBar (before : List Condition) : Reading (List Condition) := fun tokens =>
    match tokens with
    | .delim '*' :: rest => .ok (before ++ [.any], rest)
    | .ident name :: rest => .ok (before ++ [.name name], rest)
    | [] => .ok ([], [])
    | _ :: rest => .error rest
  match tokens with
  | .ident _ :: .delim '|' :: rest => .error rest
  | .ident name :: rest => .ok ([.name name], rest)
  | .delim '*' :: .delim '|' :: rest => afterBar [] rest
  | .delim '*' :: rest => .ok ([.any], rest)
  | .delim '|' :: rest => afterBar [.unspaced] rest
  | _ => .ok ([], tokens)

/-- Attributes of the page whose values are compared without regard to letter case. -/
def foldedAttributes : List String :=
  ["accept", "accept-charset", "align", "alink", "axis", "bgcolor", "charset", "checked", "clear",
   "codetype", "color", "compact", "declare", "defer", "dir", "direction", "disabled", "enctype",
   "face", "frame", "hreflang", "http-equiv", "lang", "language", "link", "media", "method",
   "multiple", "nohref", "noresize", "noshade", "nowrap", "readonly", "rel", "rev", "rules",
   "scope", "scrolling", "selected", "shape", "target", "text", "type", "valign", "valuetype",
   "vlink"]

def comparison? : Token → Option Comparison
  | .delim '=' => some .equal
  | .operator '~' => some .includes
  | .operator '|' => some .dash
  | .operator '^' => some .start
  | .operator '$' => some .ending
  | .operator '*' => some .inside
  | _ => none

/-- How letters are compared if nothing is said about them. -/
def usualLetters (name : String) (anySpace : Bool) : LetterCase :=
  if !anySpace && foldedAttributes.contains name.toLower then .ignoredInPage else .exact

/-- Reads what stands behind the value of an attribute. -/
def lettersFrom (usual : LetterCase) (tokens : List Token) : Option LetterCase :=
  match skipBlanks tokens with
  | [] => some usual
  | .ident word :: rest =>
    if !isFinished rest then none
    else if word.toLower = "i" then some .ignored
    else if word.toLower = "s" then some .exact
    else none
  | _ => none

def valueTest (name : String) (anySpace : Bool) (tokens : List Token) : Option Condition :=
  match skipBlanks tokens with
  | [] => some (.attribute name anySpace none)
  | operator :: rest => do
    let comparison ← comparison? operator
    let (value, behind) ←
      match skipBlanks rest with
      | .ident value :: behind => some (value, behind)
      | .string value :: behind => some (value, behind)
      | _ => none
    let letters ← lettersFrom (usualLetters name anySpace) behind
    return .attribute name anySpace (some ⟨comparison, value, letters⟩)

def attributeTest (tokens : List Token) : Option Condition :=
  match skipBlanks tokens with
  | .ident _ :: .delim '|' :: _ => none
  | .ident name :: rest => valueTest name false rest
  | .delim '*' :: .delim '|' :: .ident name :: rest => valueTest name true rest
  | .delim '|' :: .ident name :: rest => valueTest name false rest
  | _ => none

/-- The number behind `n-` in a name. -/
def dashedOffset? (name : String) : Option Int :=
  match name.toList with
  | n :: '-' :: digits =>
    if (n = 'n' ∨ n = 'N') ∧ !digits.isEmpty ∧ digits.all Char.isDigit then
      some (max (-(Token.valueOf digits : Int)) (-Token.wholeLimit - 1))
    else none
  | _ => none

def signlessOffset (step sign : Int) : Reading Progression := fun tokens =>
  match skipBlanks tokens with
  | .number false (some value) :: rest => .ok (⟨step, sign * value⟩, rest)
  | _ :: rest => .error rest
  | [] => .error []

def offset (step : Int) : Reading Progression := fun tokens =>
  match skipBlanks tokens with
  | .delim '+' :: rest => signlessOffset step 1 rest
  | .delim '-' :: rest => signlessOffset step (-1) rest
  | .number true (some value) :: rest => .ok (⟨step, value⟩, rest)
  | _ => .ok (⟨step, 0⟩, tokens)

def namedProgression (name : String) (step : Int) : Reading Progression := fun tokens =>
  if name.toLower = "n" then offset step tokens
  else if name.toLower = "n-" then signlessOffset step (-1) tokens
  else
    match dashedOffset? name with
    | some value => .ok (⟨step, value⟩, tokens)
    | none => .error tokens

/-- Reads a progression such as `2n+1`, `odd` or `3`. -/
def progression : Reading Progression := fun tokens =>
  match skipBlanks tokens with
  | .number _ (some value) :: rest => .ok (⟨0, value⟩, rest)
  | .dimension (some step) unit :: rest => namedProgression unit step rest
  | .delim '+' :: .ident name :: rest => namedProgression name 1 rest
  | .ident name :: rest =>
    if name.toLower = "even" then .ok (⟨2, 0⟩, rest)
    else if name.toLower = "odd" then .ok (⟨2, 1⟩, rest)
    else
      match name.toList with
      | '-' :: more => namedProgression (String.ofList more) (-1) rest
      | _ => namedProgression name 1 rest
  | _ :: rest => .error rest
  | [] => .error []

def first (fromEnd ofType : Bool) : Condition := .nth fromEnd ofType ⟨0, 1⟩

/-- The condition that a word behind a colon stands for. -/
def keyword? (word : String) : Option (List Condition) :=
  match word.toLower with
  | "first-child" => some [first false false]
  | "last-child" => some [first true false]
  | "only-child" => some [first false false, first true false]
  | "first-of-type" => some [first false true]
  | "last-of-type" => some [first true true]
  | "only-of-type" => some [first false true, first true true]
  | "root" => some [.root]
  | "empty" => some [.empty]
  | "scope" => some [.scope]
  | _ => none

/-- A place among others, from the tokens between brackets. -/
def nth (fromEnd ofType : Bool) (tokens : List Token) : Option Condition :=
  match progression tokens with
  | .ok (value, rest) => if isFinished rest then some (.nth fromEnd ofType value) else none
  | .error _ => none

def untilComma : List Token → List Token × Option (List Token)
  | [] => ([], none)
  | .comma :: rest => ([], some rest)
  | token :: rest =>
    let (part, behind) := untilComma rest
    (token :: part, behind)

mutual

/-- No bracket is closed that was not opened, and no text breaks off. -/
def isSound : Token → Bool
  | .bad => false
  | .block _ _ content => areSound content
  | _ => true

def areSound : List Token → Bool
  | [] => true
  | token :: rest => isSound token && areSound rest

end

/-- A chain that goes on to the right. -/
def extend (chain : Option (Chain × Combinator)) (compound : List Condition) : Chain :=
  match chain with
  | none => .last compound
  | some (before, combinator) => .link compound combinator before

mutual

def alternativesWith : Nat → Permission → Bool → Bool → List Token → Option (List Chain)
  | 0, _, _, _, _ => none
  | fuel + 1, permission, forgiving, relative, tokens => do
    let (part, behind) := untilComma tokens
    let chain ←
      match chainWith fuel permission relative part with
      | .ok (chain, rest) =>
        if isFinished rest then some chain
        else if forgiving && areSound rest then some (.last [.never])
        else none
      | .error rest => if forgiving && areSound rest then some (.last [.never]) else none
    match behind with
    | none => return [chain]
    | some more => return chain :: (← alternativesWith fuel permission forgiving relative more)

/-- Reads one alternative.  A relative one starts with the element that it is about. -/
def chainWith : Nat → Permission → Bool → Reading Chain
  | 0, _, _, tokens => .error tokens
  | fuel + 1, permission, relative, tokens =>
    let tokens := skipBlanks tokens
    if relative then
      let (combinator, rest) := combinatorFrom false tokens
      chainFrom fuel permission (some (.last [.anchor], combinator.getD .descendant)) rest
    else chainFrom fuel permission none tokens

def chainFrom : Nat → Permission → Option (Chain × Combinator) → Reading Chain
  | 0, _, _, tokens => .error tokens
  | fuel + 1, permission, before, tokens => do
    let (compound, rest) ← compoundWith fuel permission (skipBlanks tokens)
    if compound.isEmpty then .error rest
    else
      let chain := extend before compound
      match combinatorFrom false rest with
      | (none, behind) => .ok (chain, behind)
      | (some combinator, behind) =>
        if permission.combinators then chainFrom fuel permission (some (chain, combinator)) behind
        else .error behind

def compoundWith : Nat → Permission → Reading (List Condition)
  | 0, _, tokens => .error tokens
  | fuel + 1, permission, tokens => do
    let (name, rest) ← elementName tokens
    let (others, rest) ← conditionsWith fuel permission rest
    return (name ++ others, rest)

def conditionsWith : Nat → Permission → Reading (List Condition)
  | 0, _, tokens => .error tokens
  | fuel + 1, permission, tokens => do
    let (found, rest) ←
      match tokens with
      | .id name :: rest => .ok ([Condition.id name], rest)
      | .delim '.' :: .ident name :: rest => .ok ([Condition.className name], rest)
      | .delim '.' :: _ :: rest => .error rest
      | .delim '.' :: [] => .error []
      | .block .square _ content :: rest =>
        match attributeTest content with
        | some condition => .ok ([condition], rest)
        | none => .error rest
      | .colon :: .ident word :: rest =>
        match keyword? word with
        | some conditions => .ok (conditions, rest)
        | none => .error rest
      | .colon :: .block .round (some word) content :: rest =>
        match callWith fuel permission word content with
        | some condition => .ok ([condition], rest)
        | none => .error rest
      | .colon :: .colon :: _ :: rest => .error rest
      | .colon :: _ :: rest => .error rest
      | .colon :: [] => .error []
      | _ => .ok ([], tokens)
    if found.isEmpty then return ([], tokens)
    else
      let (others, rest) ← conditionsWith fuel permission rest
      return (found ++ others, rest)

/-- The condition that a call behind a colon stands for. -/
def callWith : Nat → Permission → String → List Token → Option Condition
  | 0, _, _, _ => none
  | fuel + 1, permission, word, content =>
    match word.toLower with
    | "nth-child" => nth false false content
    | "nth-last-child" => nth true false content
    | "nth-of-type" => nth false true content
    | "nth-last-of-type" => nth true true content
    | "is" => (alternativesWith fuel permission true false content).map .is
    | "where" => (alternativesWith fuel permission true false content).map .is
    | "not" => (alternativesWith fuel permission false false content).map .not
    | "has" =>
      if permission.has then
        (alternativesWith fuel { permission with has := false } false true content).map .has
      else none
    | "host" =>
      match chainWith fuel { permission with combinators := false } false content with
      | .ok (_, rest) => if isFinished rest then some .never else none
      | .error _ => none
    | _ => none

end

def ofText? (text : String) : Option Selector :=
  let fuel := 4 * text.length + 16
  (alternativesWith fuel ⟨true, true⟩ false false (Token.ofText text)).map Selector.mk

end ConsentBanner.Selector
