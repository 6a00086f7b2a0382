/-!
# Tokens of a selector text

`Token.ofText` cuts a text into tokens and puts what stands between brackets into blocks.  Comments
are left out and whatever is open at the end of the text is closed there.
-/

set_option autoImplicit false

namespace ConsentBanner.Selector

/-- The kinds of brackets. -/
inductive Bracket where
  | round
  | square
  | curly
  deriving DecidableEq, Repr

/-- A token of a selector text. -/
inductive Token where
  | blank
  | ident (name : String)
  /-- A name behind a hash sign that could stand alone. -/
  | id (name : String)
  /-- A name behind a hash sign that could not. -/
  | hash
  | string (value : String)
  /-- A number with its sign given or not; its value if it is whole. -/
  | number (signed : Bool) (value : Option Int)
  /-- A number with a unit. -/
  | dimension (value : Option Int) (unit : String)
  | delim (c : Char)
  | colon
  | comma
  /-- An operator of two characters; the first is given. -/
  | operator (c : Char)
  /-- A block in brackets, with the name before it if it is a call. -/
  | block (bracket : Bracket) (call : Option String) (content : List Token)
  /-- A closing bracket or text that can stand nowhere. -/
  | bad
  /-- Something else, which no selector contains. -/
  | other

/-- A piece of the text before blocks are formed. -/
inductive Piece where
  | token (token : Token)
  | opening (bracket : Bracket) (call : Option String)
  | closing (bracket : Bracket)

namespace Token

/-- A blank. -/
def isSpace (c : Char) : Bool :=
  c = ' ' || c = '\t' || c = '\n' || c = '\r' || c.toNat = 12

def isLineEnd (c : Char) : Bool := c = '\n' || c = '\r' || c.toNat = 12

def replacement : Char := Char.ofNat 0xFFFD

def startsName (c : Char) : Bool := c.isAlpha || c = '_' || c.toNat = 0 || 128 ≤ c.toNat

/-- The text behind a backslash is an escape. -/
def isEscape : List Char → Bool
  | [] => true
  | c :: _ => !isLineEnd c

def atName : List Char → Bool
  | [] => false
  | '\\' :: rest => isEscape rest
  | '-' :: c :: _ => startsName c || c = '-' || c = '\\'
  | c :: _ => startsName c

def hexDigit? (c : Char) : Option Nat :=
  if c.isDigit then some (c.toNat - 48)
  else if 'a' ≤ c ∧ c ≤ 'f' then some (c.toNat - 87)
  else if 'A' ≤ c ∧ c ≤ 'F' then some (c.toNat - 55)
  else none

/-- Reads hexadecimal digits, at most a given number of them. -/
def hexDigits : Nat → Nat → List Char → Nat × List Char
  | 0, value, text => (value, text)
  | _, value, [] => (value, [])
  | limit + 1, value, c :: rest =>
    match hexDigit? c with
    | some d => hexDigits limit (16 * value + d) rest
    | none => (value, c :: rest)

/-- The text without one blank at its start. -/
def skipOneSpace : List Char → List Char
  | '\r' :: '\n' :: rest => rest
  | c :: rest => if isSpace c then rest else c :: rest
  | [] => []

/-- The character that an escape stands for, and the text behind it. -/
def escape : List Char → Char × List Char
  | [] => (replacement, [])
  | c :: rest =>
    if (hexDigit? c).isSome then
      let (code, behind) := hexDigits 6 0 (c :: rest)
      let valid := code ≠ 0 && code < 0x110000 && !(0xD800 ≤ code && code < 0xE000)
      (if valid then Char.ofNat code else replacement, skipOneSpace behind)
    else (if c.toNat = 0 then replacement else c, rest)

def nameFrom : Nat → List Char → List Char → List Char × List Char
  | 0, before, text => (before.reverse, text)
  | _, before, [] => (before.reverse, [])
  | fuel + 1, before, c :: rest =>
    if c.toNat = 0 then nameFrom fuel (replacement :: before) rest
    else if startsName c || c.isDigit || c = '-' then nameFrom fuel (c :: before) rest
    else if c = '\\' && isEscape rest then
      let (e, behind) := escape rest
      nameFrom fuel (e :: before) behind
    else (before.reverse, c :: rest)

def name (text : List Char) : String × List Char :=
  let (chars, rest) := nameFrom (text.length + 1) [] text
  (String.ofList chars, rest)

/-- Reads a text up to its closing quote; nothing if a line ends first. -/
def quotedFrom (quote : Char) : Nat → List Char → List Char → Option String × List Char
  | 0, _, text => (none, text)
  | _, before, [] => (some (String.ofList before.reverse), [])
  | fuel + 1, before, c :: rest =>
    if c = quote then (some (String.ofList before.reverse), rest)
    else if isLineEnd c then (none, c :: rest)
    else if c = '\\' then
      match rest with
      | [] => (some (String.ofList before.reverse), [])
      | '\r' :: '\n' :: more => quotedFrom quote fuel before more
      | e :: more =>
        if isLineEnd e then quotedFrom quote fuel before more
        else
          let (escaped, behind) := escape rest
          quotedFrom quote fuel (escaped :: before) behind
    else quotedFrom quote fuel ((if c.toNat = 0 then replacement else c) :: before) rest

def digits (text : List Char) : List Char × List Char :=
  (text.takeWhile Char.isDigit, text.dropWhile Char.isDigit)

/-- The number that digits write. -/
def valueOf (text : List Char) : Nat := text.foldl (fun n c => 10 * n + (c.toNat - 48)) 0

def wholeLimit : Int := Nat.pow 2 31 - 1

/-- Reads a number, with its unit if it has one. -/
def numberFrom (text : List Char) : Token × List Char :=
  let (signed, negative, unsigned) :=
    match text with
    | '+' :: rest => (true, false, rest)
    | '-' :: rest => (true, true, rest)
    | _ => (false, false, text)
  let (whole, rest) := digits unsigned
  let (fraction, rest) :=
    match rest with
    | '.' :: more =>
      match digits more with
      | ([], _) => ([], rest)
      | (d, behind) => (d, behind)
    | _ => ([], rest)
  let (hasExponent, rest) :=
    match rest with
    | e :: more =>
      if e = 'e' ∨ e = 'E' then
        let unsigned :=
          match more with
          | '+' :: m => m
          | '-' :: m => m
          | _ => more
        match digits unsigned with
        | ([], _) => (false, rest)
        | (_, behind) => (true, behind)
      else (false, rest)
    | [] => (false, rest)
  let size : Int := valueOf whole
  let value : Option Int :=
    if !fraction.isEmpty || hasExponent then none
    else if negative then some (max (-size) (-wholeLimit - 1))
    else some (min size wholeLimit)
  match rest with
  | '%' :: more => (.other, more)
  | _ =>
    if atName rest then
      let (unit, behind) := name rest
      (.dimension value unit, behind)
    else (.number signed value, rest)

/-- A number stands at the start of the text. -/
def atNumber : List Char → Bool
  | '+' :: '.' :: c :: _ => c.isDigit
  | '-' :: '.' :: c :: _ => c.isDigit
  | '+' :: c :: _ => c.isDigit
  | '-' :: c :: _ => c.isDigit
  | '.' :: c :: _ => c.isDigit
  | c :: _ => c.isDigit
  | [] => false

def behindComment : List Char → List Char
  | [] => []
  | '*' :: '/' :: rest => rest
  | _ :: rest => behindComment rest

/-- Skips the rest of an address that cannot be read. -/
def badAddress : Nat → List Char → List Char
  | 0, text => text
  | _, [] => []
  | fuel + 1, c :: rest =>
    if c = ')' then rest
    else
      match c, rest with
      | '\\', _ :: more => badAddress fuel more
      | _, _ => badAddress fuel rest

/-- Reads an address up to its closing bracket. -/
def addressFrom : Nat → List Char → Token × List Char
  | 0, text => (.bad, text)
  | _, [] => (.other, [])
  | fuel + 1, c :: rest =>
    if c = ')' then (.other, rest)
    else if isSpace c then
      match rest.dropWhile isSpace with
      | [] => (.other, [])
      | ')' :: more => (.other, more)
      | more => (.bad, badAddress (more.length + 1) more)
    else if c = '"' ∨ c = '\'' ∨ c = '(' ∨ c.toNat < 32 ∧ c.toNat ≠ 0 ∨ c.toNat = 127 then
      (.bad, badAddress (rest.length + 1) rest)
    else if c = '\\' then
      if isEscape rest then addressFrom fuel (escape rest).2
      else (.bad, badAddress (rest.length + 1) rest)
    else addressFrom fuel rest

/-- Reads a name, or the start of a call. -/
def identFrom (text : List Char) : Piece × List Char :=
  let (word, rest) := name text
  match rest with
  | '(' :: inside =>
    let quoted :=
      match inside.dropWhile isSpace with
      | c :: _ => c = '"' || c = '\''
      | [] => false
    if word.toLower = "url" ∧ !quoted then
      let bare := inside.dropWhile isSpace
      let (token, behind) := addressFrom (bare.length + 1) bare
      (.token token, behind)
    else (.opening .round (some word), inside)
  | _ => (.token (.ident word), rest)

/-- The next piece of a text and the text behind it; none for a comment. -/
def nextPiece (c : Char) (rest : List Char) : Option Piece × List Char :=
  let text := c :: rest
  let one (token : Token) : Option Piece × List Char := (some (.token token), rest)
  let orOperator : Option Piece × List Char :=
    match rest with
    | '=' :: more => (some (.token (.operator c)), more)
    | _ => one (.delim c)
  if isSpace c then (some (.token .blank), rest.dropWhile isSpace)
  else if c = '"' ∨ c = '\'' then
    match quotedFrom c (rest.length + 1) [] rest with
    | (some value, behind) => (some (.token (.string value)), behind)
    | (none, behind) => (some (.token .bad), behind)
  else if c = '#' then
    if atName rest then
      let (word, behind) := name rest
      (some (.token (.id word)), behind)
    else
      match rest with
      | d :: _ =>
        if d.isDigit ∨ d = '-' then (some (.token .hash), (name rest).2) else one (.delim c)
      | [] => one (.delim c)
  else if atNumber text then
    let (token, behind) := numberFrom text
    (some (.token token), behind)
  else if c = '/' then
    match rest with
    | '*' :: more => (none, behindComment more)
    | _ => one (.delim c)
  else if c = '-' ∧ ['-', '>'].isPrefixOf rest then (some (.token .other), rest.drop 2)
  else if c = '<' ∧ ['!', '-', '-'].isPrefixOf rest then (some (.token .other), rest.drop 3)
  else if atName text then
    let (piece, behind) := identFrom text
    (some piece, behind)
  else if c = '@' then
    if atName rest then (some (.token .other), (name rest).2) else one (.delim c)
  else if c = '(' then (some (.opening .round none), rest)
  else if c = '[' then (some (.opening .square none), rest)
  else if c.toNat = 123 then (some (.opening .curly none), rest)
  else if c = ')' then (some (.closing .round), rest)
  else if c = ']' then (some (.closing .square), rest)
  else if c.toNat = 125 then (some (.closing .curly), rest)
  else if c = ':' then one .colon
  else if c = ',' then one .comma
  else if c = ';' then one .other
  else if ['~', '|', '^', '$', '*'].contains c then orOperator
  else one (.delim c)

def pieces : Nat → List Char → List Piece
  | 0, _ => []
  | _, [] => []
  | fuel + 1, c :: rest =>
    let (piece, behind) := nextPiece c rest
    match piece with
    | some piece => piece :: pieces fuel behind
    | none => pieces fuel behind

/-- The blocks that are open: each with what opened it and, in reverse, what it holds so far. -/
abbrev Opened : Type := List (Bracket × Option String × List Token)

def closeInto (bracket : Bracket) (call : Option String) (content outer : List Token) :
    List Token :=
  .block bracket call content.reverse :: outer

def closeAll : List Token → Opened → List Token
  | content, [] => content.reverse
  | content, (bracket, call, outer) :: rest => closeAll (closeInto bracket call content outer) rest

/-- Forms blocks.  The first list holds, in reverse, what the innermost block holds so far. -/
def blocks (content : List Token) (opened : Opened) : List Piece → List Token
  | [] => closeAll content opened
  | .token token :: more => blocks (token :: content) opened more
  | .opening bracket call :: more => blocks [] ((bracket, call, content) :: opened) more
  | .closing found :: more =>
    match opened with
    | [] => blocks (.bad :: content) [] more
    | (bracket, call, outer) :: rest =>
      if found = bracket then blocks (closeInto bracket call content outer) rest more
      else blocks (.bad :: content) opened more

def ofText (text : String) : List Token :=
  let chars := text.toList
  blocks [] [] (pieces (chars.length + 1) chars)

end Token

end ConsentBanner.Selector
