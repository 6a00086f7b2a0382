/-!
# A tree under construction

Vertices are numbered in the order in which they are created and never renumbered.  A vertex may be
moved, but the text that is put beside other text joins it instead of becoming a vertex of its own.
-/

set_option autoImplicit false

namespace ConsentBanner.Markup

/-- What an element's name is taken from. -/
inductive Space where
  | html
  | svg
  | mathml
  deriving DecidableEq, Repr

/-- An attribute of an element. -/
structure Property where
  name : String
  value : String
  /-- The name belongs to no namespace. -/
  isPlain : Bool
  deriving DecidableEq, Repr

/-- What a vertex stands for. -/
inductive Kind where
  /-- The root of the tree. -/
  | document
  /-- The root of the contents of a template. -/
  | fragment
  | element (space : Space) (name : String) (properties : List Property)
  | text (content : String)

structure Vertex where
  kind : Kind
  parent : Option Nat
  children : List Nat

/-- The vertices, each at its number. -/
structure Tree where
  vertices : Array Vertex

namespace Tree

def initial : Tree := ⟨#[⟨.document, none, []⟩]⟩

def root : Nat := 0

def vertex? (tree : Tree) (number : Nat) : Option Vertex := tree.vertices[number]?

def parent? (tree : Tree) (number : Nat) : Option Nat := (tree.vertex? number).bind Vertex.parent

/-- The vertices below, in order. -/
def children (tree : Tree) (number : Nat) : List Nat :=
  match tree.vertex? number with
  | some vertex => vertex.children
  | none => []

def change (tree : Tree) (number : Nat) (f : Vertex → Vertex) : Tree :=
  match tree.vertices[number]? with
  | some vertex => ⟨tree.vertices.setIfInBounds number (f vertex)⟩
  | none => tree

/-- A new vertex that stands nowhere yet, and its number. -/
def create (tree : Tree) (kind : Kind) : Nat × Tree :=
  (tree.vertices.size, ⟨tree.vertices.push ⟨kind, none, []⟩⟩)

/-- Takes a vertex with all below it from its place. -/
def detach (tree : Tree) (number : Nat) : Tree :=
  match tree.parent? number with
  | none => tree
  | some above =>
    (tree.change above fun v => { v with children := v.children.filter fun n => n ≠ number }).change
      number fun v => { v with parent := none }

def append (tree : Tree) (above number : Nat) : Tree :=
  ((tree.detach number).change above fun v => { v with children := v.children ++ [number] }).change
    number fun v => { v with parent := some above }

def putBefore (sibling number : Nat) : List Nat → List Nat
  | [] => [number]
  | n :: rest => if n = sibling then number :: n :: rest else n :: putBefore sibling number rest

/-- Puts a vertex beside another one, before it. -/
def insertBefore (tree : Tree) (sibling number : Nat) : Tree :=
  let tree := tree.detach number
  match tree.parent? sibling with
  | none => tree
  | some above =>
    (tree.change above fun v => { v with children := putBefore sibling number v.children }).change
      number fun v => { v with parent := some above }

def text? (tree : Tree) (number : Nat) : Option String :=
  match tree.vertex? number with
  | some ⟨.text content, _, _⟩ => some content
  | _ => none

def extend (tree : Tree) (number : Nat) (c : Char) : Tree :=
  tree.change number fun v =>
    match v.kind with
    | .text content => { v with kind := .text (content.push c) }
    | _ => v

/-- Puts a character below a vertex, at the end. -/
def appendChar (tree : Tree) (above : Nat) (c : Char) : Tree :=
  match (tree.children above).getLast? with
  | some last =>
    if (tree.text? last).isSome then tree.extend last c
    else
      let (number, tree) := tree.create (.text (String.singleton c))
      tree.append above number
  | none =>
    let (number, tree) := tree.create (.text (String.singleton c))
    tree.append above number

def entryBefore (sibling : Nat) : List Nat → Option Nat
  | first :: second :: rest =>
    if second = sibling then some first else entryBefore sibling (second :: rest)
  | _ => none

/-- Puts a character before a vertex. -/
def insertCharBefore (tree : Tree) (sibling : Nat) (c : Char) : Tree :=
  match tree.parent? sibling with
  | none => tree
  | some above =>
    match entryBefore sibling (tree.children above) with
    | some before =>
      if (tree.text? before).isSome then tree.extend before c
      else
        let (number, tree) := tree.create (.text (String.singleton c))
        tree.insertBefore sibling number
    | none =>
      let (number, tree) := tree.create (.text (String.singleton c))
      tree.insertBefore sibling number

/-- Moves all that stands below one vertex below another, behind what is there. -/
def moveChildren (tree : Tree) (source target : Nat) : Tree :=
  (tree.children source).foldl (fun tree number => tree.append target number) tree

def name? (tree : Tree) (number : Nat) : Option (Space × String) :=
  match tree.vertex? number with
  | some ⟨.element space name _, _, _⟩ => some (space, name)
  | _ => none

/-- An element's attributes. -/
def properties (tree : Tree) (number : Nat) : List Property :=
  match tree.vertex? number with
  | some ⟨.element _ _ properties, _, _⟩ => properties
  | _ => []

def isNamed (tree : Tree) (name : String) (number : Nat) : Bool :=
  tree.name? number == some (.html, name)

/-- A vertex is an element of the page with one of these names. -/
def isOneOf (tree : Tree) (names : List String) (number : Nat) : Bool :=
  match tree.name? number with
  | some (.html, name) => names.contains name
  | _ => false

/-- Adds attributes to an element, except those that it has. -/
def addMissing (tree : Tree) (number : Nat) (properties : List Property) : Tree :=
  tree.change number fun v =>
    match v.kind with
    | .element space name given =>
      let missing := properties.filter fun p => given.all fun g => g.name ≠ p.name
      { v with kind := .element space name (given ++ missing) }
    | _ => v

end Tree

end ConsentBanner.Markup
