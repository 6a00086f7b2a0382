import ConsentBanner.Markup.Foreign
import ConsentBanner.Markup.Names

/-!
# The state of construction

A `Builder` holds the tree so far, the elements that are open, the formatting elements that are to be
opened again, and the mode that says what the next token means.  The operations here are those that
the rules of all modes share: inserting, closing what is implied, opening formatting elements again
and untangling formatting elements that overlap.
-/

set_option autoImplicit false

namespace ConsentBanner.Markup

/-- What the next token means. -/
inductive Mode where
  | initial | beforeHtml | beforeHead | inHead | afterHead | inBody | text
  | inTable | inTableText | inCaption | inColumnGroup | inTableBody | inRow | inCell
  | inSelect | inSelectInTable | inTemplate | afterBody | inFrameset | afterFrameset
  | afterAfterBody | afterAfterFrameset
  deriving DecidableEq, Repr

/-- A start tag that an element was made from. -/
structure Tag where
  name : String
  attributes : List Attribute

/-- An entry of the list of formatting elements. -/
inductive Formatting where
  /-- What stands before it is out of reach until it is removed. -/
  | marker
  | element (number : Nat) (tag : Tag)

/-- The state of construction. -/
structure Builder where
  tree : Tree
  mode : Mode
  /-- The mode to go back to after a stretch of text. -/
  laterMode : Mode
  /-- The modes of the open templates, the innermost first. -/
  templateModes : List Mode
  /-- The open elements, the innermost first. -/
  stack : List Nat
  /-- The formatting elements, the latest first. -/
  formatting : List Formatting
  head : Option Nat
  form : Option Nat
  /-- The page may still turn out to consist of frames. -/
  framesetOk : Bool
  /-- A line feed that comes next does not count. -/
  skipLineFeed : Bool
  /-- What does not belong into a table goes before it. -/
  fostering : Bool
  /-- The page asks for the rules of old pages. -/
  isOld : Bool
  /-- The text met inside a table so far. -/
  tableText : List Char
  /-- How the text that follows is to be split. -/
  content : Content

/-- A step of construction. -/
abbrev Build (α : Type) : Type := StateM Builder α

namespace Builder

def initial : Builder :=
  { tree := .initial, mode := .initial, laterMode := .initial, templateModes := [], stack := [],
    formatting := [], head := none, form := none, framesetOk := true, skipLineFeed := false,
    fostering := false, isOld := false, tableText := [], content := .data }

/-- The innermost open element. -/
def current? (builder : Builder) : Option Nat := builder.stack.head?

def currentIs (builder : Builder) (name : String) : Bool :=
  builder.stack.head?.any (builder.tree.isNamed name)

def currentIsOneOf (builder : Builder) (names : List String) : Bool :=
  builder.stack.head?.any (builder.tree.isOneOf names)

def hasOpen (builder : Builder) (name : String) : Bool :=
  builder.stack.any (builder.tree.isNamed name)

/-- An open element satisfies a condition before one bounds the search. -/
def inScopeIn (tree : Tree) (bound : Bound) (wanted : Nat → Bool) : List Nat → Bool
  | [] => false
  | number :: rest =>
    wanted number ||
      (!((tree.name? number).any bound.holds) && inScopeIn tree bound wanted rest)

def inScopeWhere (builder : Builder) (bound : Bound) (wanted : Nat → Bool) : Bool :=
  inScopeIn builder.tree bound wanted builder.stack

def inScope (builder : Builder) (bound : Bound) (name : String) : Bool :=
  builder.inScopeWhere bound (builder.tree.isNamed name)

/-- The outermost open element but one, which is the body of a page that has one. -/
def body? (builder : Builder) : Option Nat :=
  match builder.stack.reverse with
  | _ :: second :: _ => if builder.tree.isNamed "body" second then some second else none
  | _ => none

/-- The outermost open element. -/
def top? (builder : Builder) : Option Nat := builder.stack.getLast?

end Builder

namespace Build

def onTree (f : Tree → Tree) : Build Unit := modify fun b => { b with tree := f b.tree }

/-- A new vertex. -/
def create (kind : Kind) : Build Nat := do
  let b ← get
  let (number, tree) := b.tree.create kind
  set { b with tree := tree }
  return number

/-- A new element, with a root for its contents if it is a template. -/
def createElement (space : Space) (name : String) (properties : List Property) : Build Nat := do
  let number ← create (.element space name properties)
  if space = .html ∧ name = "template" then
    let contents ← create .fragment
    onTree fun tree => tree.append number contents
  return number

/-- A place where a vertex can be put. -/
inductive Place where
  | lastIn (above : Nat)
  /-- Before a table, or last in another element if the table was taken away. -/
  | beside (table instead : Nat)

/-- Where what does not belong into a table goes. -/
def fosterPlace (tree : Tree) : List Nat → Place
  | [] => .lastIn Tree.root
  | [outermost] => .lastIn outermost
  | number :: next :: rest =>
    if tree.isNamed "template" number then .lastIn ((tree.children number).headD number)
    else if tree.isNamed "table" number then .beside number next
    else fosterPlace tree (next :: rest)

/-- Where the next vertex goes, given the element that it is meant for. -/
def placeFor (builder : Builder) (target : Nat) : Place :=
  if builder.fostering && builder.tree.isOneOf tableParts target then
    fosterPlace builder.tree builder.stack
  else if builder.tree.isNamed "template" target then
    .lastIn ((builder.tree.children target).headD target)
  else .lastIn target

def nextPlace (builder : Builder) : Place :=
  placeFor builder (builder.current?.getD Tree.root)

/-- Puts a vertex in a place. -/
def put (place : Place) (number : Nat) : Build Unit :=
  onTree fun tree =>
    match place with
    | .lastIn above => tree.append above number
    | .beside table instead =>
      if (tree.parent? table).isSome then tree.insertBefore table number
      else tree.append instead number

/-- Inserts a character as text. -/
def putChar (c : Char) : Build Unit := do
  let place := nextPlace (← get)
  onTree fun tree =>
    match place with
    | .lastIn above => tree.appendChar above c
    | .beside table instead =>
      if (tree.parent? table).isSome then tree.insertCharBefore table c
      else tree.appendChar instead c

def push (number : Nat) : Build Unit := modify fun b => { b with stack := number :: b.stack }

def pop : Build Unit := modify fun b => { b with stack := b.stack.drop 1 }

def insertClosed (tag : Tag) : Build Unit := do
  let number ← createElement .html tag.name (tag.attributes.map plainProperty)
  put (nextPlace (← get)) number

def insert (tag : Tag) : Build Nat := do
  let number ← createElement .html tag.name (tag.attributes.map plainProperty)
  put (nextPlace (← get)) number
  push number
  return number

/-- Inserts an element of the page that no tag stands for. -/
def insertPhantom (name : String) : Build Nat := insert ⟨name, []⟩

/-- Makes the outermost element. -/
def createRoot (attributes : List Attribute) : Build Unit := do
  let number ← createElement .html "html" (attributes.map plainProperty)
  push number
  onTree fun tree => tree.append Tree.root number

/-- Adds attributes to an element, except those that it has. -/
def addAttributes (number : Nat) (attributes : List Attribute) : Build Unit :=
  onTree fun tree => tree.addMissing number (attributes.map plainProperty)

/-- The open elements without those inside the first that satisfies a condition, nor that one. -/
def outside (wanted : Nat → Bool) : List Nat → List Nat
  | [] => []
  | number :: rest => if wanted number then rest else outside wanted rest

/-- Closes elements up to and with the first that satisfies a condition. -/
def popThrough (wanted : Tree → Nat → Bool) : Build Unit :=
  modify fun b => { b with stack := outside (wanted b.tree) b.stack }

def close (name : String) : Build Unit := popThrough (Tree.isNamed · name)

def popUntil (names : List String) : Build Unit :=
  modify fun b => { b with stack := b.stack.dropWhile fun n => !b.tree.isOneOf names n }

/-- Closes the elements that end with what surrounds them, but none of the excepted name. -/
def closeImplied (excepted : Option String) : Build Unit :=
  modify fun b =>
    { b with
      stack := b.stack.dropWhile fun n =>
        b.tree.isOneOf impliedEnds n && !excepted.any fun name => b.tree.isNamed name n }

def closeThoroughly : Build Unit :=
  modify fun b => { b with stack := b.stack.dropWhile (b.tree.isOneOf thoroughEnds) }

def closeParagraph : Build Unit := do
  closeImplied (some "p")
  close "p"

def endParagraph : Build Unit := do
  if (← get).inScope .button "p" then closeParagraph

def noFrames : Build Unit := modify fun b => { b with framesetOk := false }

def enter (mode : Mode) : Build Unit := modify fun b => { b with mode := mode }

/-- Opens an element whose content is text of some kind. -/
def insertText (tag : Tag) (content : Content) : Build Unit := do
  let _ ← insert tag
  modify fun b => { b with content := content, laterMode := b.mode, mode := .text }

/-! ### Formatting elements -/

def addMarker : Build Unit := modify fun b => { b with formatting := .marker :: b.formatting }

def beforeMarker : List Formatting → List Formatting
  | [] => []
  | .marker :: rest => rest
  | .element _ _ :: rest => beforeMarker rest

def clearToMarker : Build Unit := modify fun b => { b with formatting := beforeMarker b.formatting }

def withinReach : List Formatting → List (Nat × Tag)
  | .element number tag :: rest => (number, tag) :: withinReach rest
  | _ => []

/-- Two tags have one name and the same attributes in any order. -/
def sameTag (a b : Tag) : Bool :=
  a.name == b.name && a.attributes.length == b.attributes.length &&
    a.attributes.all fun entry => b.attributes.contains entry

def isEntryOf (number : Nat) : Formatting → Bool
  | .element other _ => other == number
  | .marker => false

def forgetIn (number : Nat) (entries : List Formatting) : List Formatting :=
  entries.filter fun entry => !isEntryOf number entry

/-- Takes an element out of the list of formatting elements. -/
def forget (number : Nat) : Build Unit :=
  modify fun b => { b with formatting := forgetIn number b.formatting }

def removeOpen (number : Nat) : Build Unit :=
  modify fun b => { b with stack := b.stack.filter fun n => n ≠ number }

/-- Opens a formatting element and remembers it.  Of equal ones three are remembered. -/
def insertFormatting (tag : Tag) : Build Unit := do
  let equal := (withinReach (← get).formatting).filter fun entry => sameTag entry.2 tag
  if 3 ≤ equal.length then
    match equal.getLast? with
    | some (number, _) => forget number
    | none => pure ()
  let number ← insert tag
  modify fun b => { b with formatting := .element number tag :: b.formatting }

/-- The formatting elements that are not open, the latest first, up to the first that is. -/
def closedEntries (stack : List Nat) : List Formatting → List (Nat × Tag)
  | .element number tag :: rest =>
    if stack.contains number then [] else (number, tag) :: closedEntries stack rest
  | _ => []

def renew (old new : Nat) (tag : Tag) : List Formatting → List Formatting
  | [] => []
  | entry :: rest =>
    if isEntryOf old entry then .element new tag :: rest else entry :: renew old new tag rest

/-- Opens formatting elements again, the earliest first. -/
def reopen : List (Nat × Tag) → Build Unit
  | [] => pure ()
  | (number, tag) :: rest => do
    let new ← insert tag
    modify fun b => { b with formatting := renew number new tag b.formatting }
    reopen rest

/-- Opens the formatting elements again that were closed by a block. -/
def reconstruct : Build Unit := do
  let b ← get
  reopen (closedEntries b.stack b.formatting).reverse

/-! ### Overlapping formatting elements -/

/-- Closes elements for an end tag without a rule of its own: up to the first of the tag's name,
unless an element that is not closed this way comes first. -/
def closeOrdinary (name : String) : Build Unit := do
  let b ← get
  let rec reaches : List Nat → Bool
    | [] => false
    | number :: rest =>
      b.tree.isNamed name number ||
        (!((b.tree.name? number).any isSpecial) && reaches rest)
  if reaches b.stack then
    closeImplied (some name)
    close name

/-- Where the formatting element that is taken apart is put back into the list. -/
inductive Bookmark where
  | replacing (number : Nat)
  /-- Later than an element. -/
  | after (number : Nat)

/-- Puts an entry into the list of formatting elements, later than an element. -/
def insertAfter (number : Nat) (entry : Formatting) : List Formatting → List Formatting
  | [] => [entry]
  | e :: rest => if isEntryOf number e then entry :: e :: rest else e :: insertAfter number entry rest

def openInside (outer inner : Nat) : List Nat → List Nat
  | [] => [inner]
  | n :: rest => if n = outer then inner :: n :: rest else n :: openInside outer inner rest

/-- Walks outwards from the block to the formatting element.  Formatting elements on the way are
made anew, at most three of them, and hold what was collected so far; other elements are closed. -/
def climb (target block : Nat) :
    List Nat → Nat → Nat → Bookmark → Build (Nat × Bookmark)
  | [], _, last, bookmark => pure (last, bookmark)
  | node :: rest, count, last, bookmark => do
    if node = target then return (last, bookmark)
    let b ← get
    let entry := (withinAll b.formatting).find? fun e => e.1 = node
    match (if count < 3 then entry else none) with
    | none =>
      forget node
      removeOpen node
      climb target block rest (count + 1) last bookmark
    | some (_, tag) =>
      let new ← createElement .html tag.name (tag.attributes.map plainProperty)
      modify fun b =>
        { b with
          stack := b.stack.map fun n => if n = node then new else n
          formatting := renew node new tag b.formatting }
      let bookmark := if last = block then .after new else bookmark
      onTree fun tree => tree.append new last
      climb target block rest (count + 1) new bookmark
where
  /-- All formatting elements. -/
  withinAll (entries : List Formatting) : List (Nat × Tag) :=
    entries.filterMap fun entry =>
      match entry with
      | .element number tag => some (number, tag)
      | .marker => none

def takeApart (target : Nat) (tag : Tag) (block : Nat) (inside : List Nat) (outer : Nat) :
    Build Unit := do
  let (last, bookmark) ← climb target block inside 0 block (.replacing target)
  onTree fun tree => tree.detach last
  put (placeFor (← get) outer) last
  let new ← createElement .html tag.name (tag.attributes.map plainProperty)
  onTree fun tree => (tree.moveChildren block new).append block new
  modify fun b =>
    match bookmark with
    | .replacing number => { b with formatting := renew number new tag b.formatting }
    | .after number =>
      { b with
        formatting := forgetIn target (insertAfter number (.element new tag) b.formatting) }
  removeOpen target
  modify fun b => { b with stack := openInside block new b.stack }

/-- The rounds of closing a formatting element that overlaps with blocks. -/
def untangle : Nat → String → Build Unit
  | 0, _ => pure ()
  | rounds + 1, name => do
    let b ← get
    match (withinReach b.formatting).find? fun entry => entry.2.name = name with
    | none => closeOrdinary name
    | some (target, tag) =>
      if !b.stack.contains target then forget target
      else if !b.inScopeWhere .usual (· == target) then pure ()
      else
        let inner := b.stack.takeWhile (· ≠ target)
        match inner.reverse.find? fun n => (b.tree.name? n).any isSpecial with
        | none =>
          popThrough fun _ n => n = target
          forget target
        | some block =>
          let outwards := (b.stack.dropWhile (· ≠ block)).drop 1
          let outer := ((b.stack.dropWhile (· ≠ target)).drop 1).headD Tree.root
          takeApart target tag block outwards outer
          untangle rounds name

def closeFormatting (name : String) : Build Unit := do
  let b ← get
  match b.stack with
  | number :: _ =>
    if b.tree.isNamed name number && !(b.formatting.any (isEntryOf number)) then pop
    else untangle 8 name
  | [] => untangle 8 name

/-! ### Foreign content -/

def insertForeign (space : Space) (tag : Tag) (selfClosing : Bool) : Build Unit := do
  let number ← createElement space (foreignName space tag.name)
    (tag.attributes.map (foreignProperty space))
  put (nextPlace (← get)) number
  if !selfClosing then push number

/-- The mode that the open elements call for. -/
def modeOf (builder : Builder) : List Nat → Mode
  | [] => .inBody
  | number :: rest =>
    let isLast := rest.isEmpty
    match builder.tree.name? number with
    | some (.html, name) =>
      match name with
      | "select" => selectMode rest
      | "td" => if isLast then .inBody else .inCell
      | "th" => if isLast then .inBody else .inCell
      | "tr" => .inRow
      | "tbody" => .inTableBody
      | "thead" => .inTableBody
      | "tfoot" => .inTableBody
      | "caption" => .inCaption
      | "colgroup" => .inColumnGroup
      | "table" => .inTable
      | "template" => builder.templateModes.headD .inBody
      | "head" => if isLast then .inBody else .inHead
      | "body" => .inBody
      | "frameset" => .inFrameset
      | "html" => if builder.head.isNone then .beforeHead else .afterHead
      | _ => modeOf builder rest
    | _ => modeOf builder rest
where
  /-- A select inside a table has a mode of its own, unless a template comes between. -/
  selectMode : List Nat → Mode
    | [] => .inSelect
    | number :: rest =>
      if builder.tree.isNamed "template" number then .inSelect
      else if builder.tree.isNamed "table" number then .inSelectInTable
      else selectMode rest

/-- Goes on in the mode that the open elements call for. -/
def resetMode : Build Unit := modify fun b => { b with mode := modeOf b b.stack }

end Build

end ConsentBanner.Markup
