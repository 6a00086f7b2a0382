import ConsentBanner.Markup.Rules

/-!
# Documents

A document is the list of the elements of a page in the order of their start tags, each with the
place of the element around it.  `Document.ofText` reads one from a markup text; it never fails.
-/

set_option autoImplicit false

namespace ConsentBanner.Markup

structure Element where
  space : Space
  name : String
  properties : List Property
  /-- The place of the element around it. -/
  parent : Option Nat
  /-- It stands right in the contents of a template, apart from the element around it. -/
  inFragment : Bool
  /-- Its number in the order in which elements were made. -/
  rank : Nat
  /-- All text in it. -/
  text : String
  /-- It contains elements or text of its own. -/
  hasContent : Bool
  deriving Repr

namespace Element

def attribute? (element : Element) (name : String) : Option String :=
  (element.properties.find? fun p => p.isPlain && p.name = name).map Property.value

def hasAttribute (element : Element) (name : String) : Bool := (element.attribute? name).isSome

end Element

/-- The elements of a page in the order of their start tags. -/
structure Document where
  elements : Array Element

namespace Document

def element? (document : Document) (place : Nat) : Option Element := document.elements[place]?

/-- The places of an element and of those around it, the innermost first. -/
def lineageWith (document : Document) : Nat → Nat → List Nat
  | 0, _ => []
  | fuel + 1, place =>
    match document.element? place with
    | none => []
    | some element =>
      place ::
        match element.parent with
        | none => []
        | some parent => document.lineageWith fuel parent

/-- The places of an element and of those around it, the innermost first. -/
def lineage (document : Document) (place : Nat) : List Nat :=
  document.lineageWith document.elements.size place

def isInside (document : Document) (place outer : Nat) : Bool :=
  ((document.lineage place).drop 1).contains outer

def places (document : Document) : List Nat := List.range document.elements.size

def insertByRank (document : Document) (place : Nat) : List Nat → List Nat
  | [] => [place]
  | p :: rest =>
    if rank place ≤ rank p then place :: p :: rest else p :: insertByRank document place rest
where
  rank (n : Nat) : Nat :=
    match document.element? n with
    | some element => element.rank
    | none => 0

def placesByRank (document : Document) : List Nat :=
  document.places.foldr (document.insertByRank ·) []

def textBelow (tree : Tree) : Nat → Nat → String
  | 0, _ => ""
  | fuel + 1, number =>
    match tree.vertex? number with
    | none => ""
    | some ⟨.text content, _, _⟩ => content
    | some vertex => String.join (vertex.children.map (textBelow tree fuel))

def isContent (tree : Tree) (number : Nat) : Bool :=
  (tree.name? number).isSome || (tree.text? number).isSome

/-- Lists the elements at and below a vertex. -/
def collect (tree : Tree) : Nat → Option Nat → Bool → Array Element → Nat → Array Element
  | 0, _, _, found, _ => found
  | fuel + 1, parent, inFragment, found, number =>
    match tree.vertex? number with
    | none => found
    | some ⟨.element space name properties, _, children⟩ =>
      let place := found.size
      let element : Element :=
        { space := space, name := name, properties := properties, parent := parent,
          inFragment := inFragment, rank := number,
          text := textBelow tree (fuel + 1) number,
          hasContent := children.any (isContent tree) }
      children.foldl (collect tree fuel (some place) false) (found.push element)
    | some ⟨.fragment, _, children⟩ => children.foldl (collect tree fuel parent true) found
    | some ⟨_, _, children⟩ => children.foldl (collect tree fuel parent inFragment) found

def ofTree (tree : Tree) : Document :=
  ⟨collect tree tree.vertices.size none false #[] Tree.root⟩

def build : Nat → List Char → Build Unit
  | 0, _ => pure ()
  | fuel + 1, text => do
    let b ← get
    let (tokens, rest) := Lexer.next b.content (Rules.inForeign b) text
    modify fun b => if tokens.any closes then { b with content := .data } else b
    Rules.tokens tokens
    if text.isEmpty then pure () else build fuel rest
where
  /-- An end tag ends a stretch of text. -/
  closes : Token → Bool
    | .endTag _ => true
    | _ => false

/-- The text without a mark of byte order at its start. -/
def withoutMark : List Char → List Char
  | c :: rest => if c.toNat = 0xFEFF then rest else c :: rest
  | [] => []

def ofText (text : String) : Document :=
  let chars := Lexer.normalize (withoutMark text.toList)
  ofTree ((build (chars.length + 2) chars).run .initial).2.tree

end Document

end ConsentBanner.Markup
