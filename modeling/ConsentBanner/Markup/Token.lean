import ConsentBanner.Markup.Reference

/-!
# Tokens of a markup text

`Lexer.next` splits the next token off a text.  Which characters are markup depends on where the
text stands: in ordinary content, in content where only references or nothing at all counts, in
script, and in the sections of foreign content that hold plain text.
-/

set_option autoImplicit false

namespace ConsentBanner.Markup

/-- A name with a value. -/
abbrev Attribute : Type := String × String

/-- A document type. -/
structure Doctype where
  name : Option String
  publicId : Option String
  systemId : Option String
  forceQuirks : Bool

/-- What a markup text is made of. -/
inductive Token where
  | doctype (doctype : Doctype)
  | startTag (name : String) (attributes : List Attribute) (selfClosing : Bool)
  | endTag (name : String)
  | comment
  | char (c : Char)
  | eof

/-- What counts as markup. -/
inductive Content where
  /-- Tags, comments and references. -/
  | data
  /-- References, and the end tag with this name. -/
  | rcdata (name : String)
  /-- Only the end tag with this name. -/
  | rawtext (name : String)
  /-- Only the end tag of the script, unless it stands in a hidden inner script. -/
  | script
  /-- Nothing. -/
  | plaintext

namespace Lexer

/-- A blank of markup. -/
def isSpace (c : Char) : Bool := c = '\t' || c = '\n' || c.toNat = 12 || c = ' '

def visible (c : Char) : Char := if c.toNat = 0 then replacement else c

/-- The text with every line end as a single line feed. -/
def normalize : List Char → List Char
  | [] => []
  | '\r' :: '\n' :: rest => '\n' :: normalize rest
  | '\r' :: rest => '\n' :: normalize rest
  | c :: rest => c :: normalize rest

def quotedValue (quote : Char) : Nat → List Char → List Char → Option (List Char × List Char)
  | 0, _, _ => none
  | _, _, [] => none
  | fuel + 1, before, c :: rest =>
    if c = quote then some (before.reverse, rest)
    else if c = '&' then
      match resolve true rest with
      | some (chars, more) => quotedValue quote fuel (chars.reverse ++ before) more
      | none => quotedValue quote fuel ('&' :: before) rest
    else quotedValue quote fuel (visible c :: before) rest

/-- A value up to a blank or the end of the tag. -/
def bareValue : Nat → List Char → List Char → Option (List Char × List Char)
  | 0, _, _ => none
  | _, _, [] => none
  | fuel + 1, before, c :: rest =>
    if isSpace c ∨ c = '>' then some (before.reverse, c :: rest)
    else if c = '&' then
      match resolve true rest with
      | some (chars, more) => bareValue fuel (chars.reverse ++ before) more
      | none => bareValue fuel ('&' :: before) rest
    else bareValue fuel (visible c :: before) rest

def lowered (name : List Char) : String :=
  String.ofList (name.map fun c => (visible c).toLower)

def inAttributeName (c : Char) : Bool := !(isSpace c || c = '/' || c = '>' || c = '=')

def addAttribute (attributes : List Attribute) (name : String) (value : List Char) :
    List Attribute :=
  if attributes.any fun a => a.1 = name then attributes
  else attributes ++ [(name, String.ofList value)]

/-- The rest of a tag behind its name: the attributes, whether it closes itself, and the text
behind it; nothing if the text ends inside the tag. -/
def attributesFrom : Nat → List Attribute → List Char → Option (List Attribute × Bool × List Char)
  | 0, _, _ => none
  | _, _, [] => none
  | fuel + 1, attributes, c :: rest =>
    if isSpace c then attributesFrom fuel attributes rest
    else if c = '>' then some (attributes, false, rest)
    else if c = '/' then
      match rest with
      | '>' :: more => some (attributes, true, more)
      | more => attributesFrom fuel attributes more
    else
      let nameRest := rest.dropWhile inAttributeName
      let name := lowered (c :: rest.takeWhile inAttributeName)
      let behind := nameRest.dropWhile isSpace
      match behind with
      | '=' :: value =>
        match value.dropWhile isSpace with
        | [] => none
        | '>' :: more => some (addAttribute attributes name [], false, more)
        | first :: more =>
          let given :=
            if first = '"' ∨ first = '\'' then quotedValue first (more.length + 1) [] more
            else bareValue (more.length + 2) [] (first :: more)
          match given with
          | none => none
          | some (text, left) => attributesFrom fuel (addAttribute attributes name text) left
      | _ => attributesFrom fuel (addAttribute attributes name []) behind

def inTagName (c : Char) : Bool := !(isSpace c || c = '/' || c = '>')

def tagFrom (text : List Char) : Option (String × List Attribute × Bool × List Char) :=
  let name := lowered (text.takeWhile inTagName)
  let rest := text.dropWhile inTagName
  (attributesFrom (rest.length + 1) [] rest).map fun (attributes, closes, behind) =>
    (name, attributes, closes, behind)

/-- The text behind the next closing angle bracket. -/
def behindBracket : List Char → List Char
  | [] => []
  | c :: rest => if c = '>' then rest else behindBracket rest

def behindComment : List Char → List Char
  | [] => []
  | '-' :: '-' :: '>' :: rest => rest
  | '-' :: '-' :: '!' :: '>' :: rest => rest
  | _ :: rest => behindComment rest

/-- The text behind a comment, which may end right behind its opening. -/
def commentFrom : List Char → List Char
  | '>' :: rest => rest
  | '-' :: '>' :: rest => rest
  | text => behindComment text

/-- The text starts with a word in any letter case, which must be given in lower case. -/
def startsWithWord (word text : List Char) : Bool :=
  word.isPrefixOf ((text.take word.length).map Char.toLower)

/-- An identifier of a document type up to its quote, and whether it was closed there. -/
def identifier (quote : Char) : List Char → List Char → List Char × Bool × List Char
  | before, [] => (before.reverse, false, [])
  | before, c :: rest =>
    if c = quote then (before.reverse, true, rest)
    else if c = '>' then (before.reverse, false, c :: rest)
    else identifier quote (visible c :: before) rest

/-- A quoted identifier of a document type: the identifier, if one was started, whether it was
well formed, and the text behind it. -/
def quotedIdentifier (text : List Char) : Option String × Bool × List Char :=
  match text.dropWhile isSpace with
  | first :: rest =>
    if first = '"' ∨ first = '\'' then
      let (chars, closed, behind) := identifier first [] rest
      (some (String.ofList chars), closed, behind)
    else (none, false, first :: rest)
  | [] => (none, false, [])

/-- A document type behind its keyword. -/
def doctypeFrom (text : List Char) : Token × List Char :=
  let inside := text.dropWhile isSpace
  match inside with
  | [] => (.doctype ⟨none, none, none, true⟩, [])
  | '>' :: rest => (.doctype ⟨none, none, none, true⟩, rest)
  | _ =>
    let inName (c : Char) : Bool := !(isSpace c || c = '>')
    let name := some (lowered (inside.takeWhile inName))
    let behind := (inside.dropWhile inName).dropWhile isSpace
    match behind with
    | [] => (.doctype ⟨name, none, none, true⟩, [])
    | '>' :: rest => (.doctype ⟨name, none, none, false⟩, rest)
    | _ =>
      if startsWithWord "public".toList behind then
        let (publicId, fine, rest) := quotedIdentifier (behind.drop 6)
        if publicId.isNone ∨ !fine then
          (.doctype ⟨name, publicId, none, true⟩, behindBracket rest)
        else
          match rest.dropWhile isSpace with
          | '>' :: more => (.doctype ⟨name, publicId, none, false⟩, more)
          | [] => (.doctype ⟨name, publicId, none, true⟩, [])
          | more =>
            let (systemId, closed, left) := quotedIdentifier more
            (.doctype ⟨name, publicId, systemId,
              systemId.isNone || !closed || !left.contains '>'⟩, behindBracket left)
      else if startsWithWord "system".toList behind then
        let (systemId, fine, rest) := quotedIdentifier (behind.drop 6)
        (.doctype ⟨name, none, systemId, systemId.isNone || !fine || !rest.contains '>'⟩,
          behindBracket rest)
      else (.doctype ⟨name, none, none, true⟩, behindBracket behind)

/-- What follows `<!`. -/
def declarationFrom (text : List Char) : Token × List Char :=
  if ['-', '-'].isPrefixOf text then (.comment, commentFrom (text.drop 2))
  else if startsWithWord "doctype".toList text then doctypeFrom (text.drop 7)
  else (.comment, behindBracket text)

/-- What follows `<` in ordinary content. -/
def markupFrom (text : List Char) : Token × List Char :=
  match text with
  | [] => (.char '<', [])
  | '!' :: rest => declarationFrom rest
  | '/' :: rest =>
    match rest with
    | [] => (.char '<', '/' :: rest)
    | c :: more =>
      if c.isAlpha then
        match tagFrom (c :: more) with
        | some (name, _, _, behind) => (.endTag name, behind)
        | none => (.eof, [])
      else if c = '>' then (.comment, more)
      else (.comment, behindBracket (c :: more))
  | '?' :: rest => (.comment, behindBracket rest)
  | c :: rest =>
    if c.isAlpha then
      match tagFrom (c :: rest) with
      | some (name, attributes, closes, behind) => (.startTag name attributes closes, behind)
      | none => (.eof, [])
    else (.char '<', c :: rest)

/-- The end tag with this name, if the text behind `</` is one. -/
def closing (name : String) (text : List Char) : Option (List Char) :=
  let found := text.take name.length
  match text.drop name.length with
  | c :: _ =>
    if lowered found = name ∧ (isSpace c ∨ c = '/' ∨ c = '>') then
      match tagFrom text with
      | some (_, _, _, behind) => some behind
      | none => some []
    else none
  | [] => none

/-- How deep a place in a script is inside comments and hidden inner scripts. -/
inductive ScriptDepth where
  | plain
  | commented
  | hidden
  deriving DecidableEq

/-- What follows a word that may open or close an inner script. -/
def endsWord (word text : List Char) : Bool :=
  startsWithWord word text &&
    match text.drop word.length with
    | c :: _ => isSpace c || c = '/' || c = '>'
    | [] => false

/-- The characters of a script up to its end tag, in reverse, and the text behind the tag.  Inside a
comment an inner script hides end tags up to its own. -/
def scriptFrom : Nat → ScriptDepth → List Char → List Char → List Char × Bool × List Char
  | 0, _, before, text => (before, false, text)
  | _, _, before, [] => (before, false, [])
  | fuel + 1, depth, before, c :: rest =>
    match depth with
    | .plain =>
      if c = '<' then
        match rest with
        | '/' :: name =>
          match closing "script" name with
          | some behind => (before, true, behind)
          | none => scriptFrom fuel .plain ('<' :: before) rest
        | '!' :: '-' :: '-' :: more =>
          scriptFrom fuel (opened more) ('-' :: '-' :: '!' :: '<' :: before) more
        | _ => scriptFrom fuel .plain ('<' :: before) rest
      else scriptFrom fuel .plain (visible c :: before) rest
    | .commented =>
      if c = '-' ∧ ['-', '>'].isPrefixOf rest then
        scriptFrom fuel .plain ('>' :: '-' :: '-' :: before) (rest.drop 2)
      else if c = '<' then
        match rest with
        | '/' :: name =>
          match closing "script" name with
          | some behind => (before, true, behind)
          | none => scriptFrom fuel .commented ('<' :: before) rest
        | _ =>
          let depth := if endsWord "script".toList rest then .hidden else .commented
          scriptFrom fuel depth ('<' :: before) rest
      else scriptFrom fuel .commented (visible c :: before) rest
    | .hidden =>
      if c = '-' ∧ ['-', '>'].isPrefixOf rest then
        scriptFrom fuel .plain ('>' :: '-' :: '-' :: before) (rest.drop 2)
      else if c = '<' then
        match rest with
        | '/' :: word =>
          let depth := if endsWord "script".toList word then .commented else .hidden
          scriptFrom fuel depth ('/' :: '<' :: before) word
        | _ => scriptFrom fuel .hidden ('<' :: before) rest
      else scriptFrom fuel .hidden (visible c :: before) rest
where
  /-- A comment that ends where it starts leaves the script plain. -/
  opened (more : List Char) : ScriptDepth :=
    match more with
    | '>' :: _ => .plain
    | '-' :: '>' :: _ => .plain
    | _ => .commented

/-- The characters of a section of plain text and the text behind it. -/
def sectionFrom : List Char → List Char → List Char × List Char
  | before, [] => (before.reverse, [])
  | before, ']' :: ']' :: '>' :: rest => (before.reverse, rest)
  | before, c :: rest => sectionFrom (c :: before) rest

/-- The tokens that come next, at least one, and the text behind them.  Several come at once where a
reference stands for several characters, a script ends or a section does. -/
def next (content : Content) (inForeign : Bool) (text : List Char) : List Token × List Char :=
  match text with
  | [] => ([.eof], [])
  | c :: rest =>
    match content with
    | .data =>
      if c = '&' then
        match resolve false rest with
        | some (chars, behind) => (chars.map .char, behind)
        | none => ([.char '&'], rest)
      else if c = '<' then
        if inForeign && "![CDATA[".toList.isPrefixOf rest then
          let (chars, behind) := sectionFrom [] (rest.drop 8)
          (chars.map .char ++ [.comment], behind)
        else
          let (token, behind) := markupFrom rest
          ([token], behind)
      else ([.char c], rest)
    | .rcdata name =>
      if c = '&' then
        match resolve false rest with
        | some (chars, behind) => (chars.map .char, behind)
        | none => ([.char '&'], rest)
      else if c = '<' then
        match rest with
        | '/' :: word =>
          match closing name word with
          | some behind => ([.endTag name], behind)
          | none => ([.char '<'], rest)
        | _ => ([.char '<'], rest)
      else ([.char (visible c)], rest)
    | .rawtext name =>
      if c = '<' then
        match rest with
        | '/' :: word =>
          match closing name word with
          | some behind => ([.endTag name], behind)
          | none => ([.char '<'], rest)
        | _ => ([.char '<'], rest)
      else ([.char (visible c)], rest)
    | .script =>
      let (chars, closed, behind) := scriptFrom (text.length + 1) .plain [] text
      (chars.reverse.map .char ++ [if closed then .endTag "script" else .eof], behind)
    | .plaintext => ([.char (visible c)], rest)

end Lexer

end ConsentBanner.Markup
