import ConsentBanner.Markup.Document
import ConsentBanner.Text.Blank

/-!
# Selectors

A selector is a list of alternatives.  Each is a chain of compounds that is read from its right end:
the last compound describes the element itself, the ones before it elements around it or beside it.
`Selector.accepts` says which elements of a document a selector describes.
-/

set_option autoImplicit false

namespace ConsentBanner

open Markup

namespace Selector

/-- How an element stands to the one described further left. -/
inductive Combinator where
  /-- Inside it. -/
  | descendant
  /-- Right inside it. -/
  | child
  /-- Right behind it. -/
  | next
  /-- Somewhere behind it. -/
  | later
  deriving DecidableEq, Repr

/-- How the value of an attribute is compared. -/
inductive Comparison where
  | equal
  /-- One of the words is the given one. -/
  | includes
  /-- The value is the given one or goes on with a dash. -/
  | dash
  | start
  | ending
  | inside
  deriving DecidableEq, Repr

/-- How letters are compared in the value of an attribute. -/
inductive LetterCase where
  | exact
  | ignored
  /-- Ignored in elements of the page, exact in foreign ones. -/
  | ignoredInPage
  deriving DecidableEq, Repr

/-- What the value of an attribute must be. -/
structure ValueTest where
  comparison : Comparison
  value : String
  letters : LetterCase
  deriving DecidableEq, Repr

/-- Every `step`-th element from `offset` on; only the `offset`-th if the step is zero. -/
structure Progression where
  step : Int
  offset : Int
  deriving DecidableEq, Repr

mutual

/-- One condition on an element. -/
inductive Condition where
  | any
  | name (name : String)
  /-- The name belongs to no namespace, as that of no element does. -/
  | unspaced
  | id (id : String)
  | className (name : String)
  | attribute (name : String) (anySpace : Bool) (test : Option ValueTest)
  /-- The place among the elements beside it, or among those of its name. -/
  | nth (fromEnd ofType : Bool) (progression : Progression)
  | root
  | empty
  | scope
  /-- The element that a condition on its surroundings is about. -/
  | anchor
  | not (alternatives : List Chain)
  | is (alternatives : List Chain)
  /-- Some element stands to this one as one of the chains says. -/
  | has (alternatives : List Chain)
  /-- Something that no element satisfies. -/
  | never

/-- A compound with what must stand around it. -/
inductive Chain where
  | last (compound : List Condition)
  | link (compound : List Condition) (combinator : Combinator) (before : Chain)

end

/-- A number is one of a progression that starts with a number of steps. -/
def Progression.holds (progression : Progression) (n : Nat) : Bool :=
  let distance : Int := n - progression.offset
  if progression.step = 0 then distance = 0
  else distance < Nat.pow 2 31 && distance % progression.step = 0 && 0 ≤ distance / progression.step

/-- A blank between words of an attribute. -/
def isValueSpace (c : Char) : Bool :=
  c = ' ' || c = '\t' || c = '\n' || c = '\r' || c.toNat = 12

/-- The value of an attribute passes a comparison. -/
def Comparison.holds (comparison : Comparison) (actual wanted : List Char) : Bool :=
  match comparison with
  | .equal => actual == wanted
  | .includes => !wanted.isEmpty && (Text.splitBy isValueSpace actual).contains wanted
  | .dash => actual == wanted || (wanted ++ ['-']).isPrefixOf actual
  | .start => !wanted.isEmpty && wanted.isPrefixOf actual
  | .ending => !wanted.isEmpty && wanted.isSuffixOf actual
  | .inside => !wanted.isEmpty && Text.containsChars wanted actual

/-- The value of an attribute of an element passes a test. -/
def ValueTest.holds (test : ValueTest) (space : Space) (actual : String) : Bool :=
  let fold (text : String) : List Char :=
    match test.letters, space with
    | .exact, _ => text.toList
    | .ignored, _ => text.toList.map Char.toLower
    | .ignoredInPage, .html => text.toList.map Char.toLower
    | .ignoredInPage, _ => text.toList
  test.comparison.holds (fold actual) (fold test.value)

/-- A name as it is compared: in lower case in elements of the page. -/
def comparedName (space : Space) (name : String) : String :=
  match space with
  | .html => name.toLower
  | _ => name

def hasAttribute (element : Element) (name : String) (anySpace : Bool) (test : Option ValueTest) :
    Bool :=
  element.properties.any fun p =>
    (anySpace || p.isPlain) && p.name == comparedName element.space name &&
      match test with
      | none => true
      | some test => test.holds element.space p.value

def hasId (element : Element) (id : String) : Bool :=
  match element.properties.find? fun p => p.name = "id" with
  | some p => p.value = id
  | none => false

def hasClass (element : Element) (name : String) : Bool :=
  element.properties.any fun p => p.name = "class" && (Text.words p.value).contains name

end Selector

namespace Markup.Document

/-- The place of the element right around another one, within one tree. -/
def treeParent? (document : Document) (place : Nat) : Option Nat :=
  match document.element? place with
  | some element => if element.inFragment then none else element.parent
  | none => none

/-- The places of the elements around another one within one tree, the innermost first. -/
def treeAncestors (document : Document) : Nat → Nat → List Nat
  | 0, _ => []
  | fuel + 1, place =>
    match document.treeParent? place with
    | none => []
    | some parent => parent :: document.treeAncestors fuel parent

/-- Two elements stand beside each other. -/
def areSiblings (document : Document) (a b : Nat) : Bool :=
  match document.element? a, document.element? b with
  | some x, some y => x.parent == y.parent && x.inFragment == y.inFragment
  | _, _ => false

/-- The places of the elements before another one beside it, the nearest first. -/
def earlierSiblings (document : Document) (place : Nat) : List Nat :=
  ((List.range place).filter (document.areSiblings place)).reverse

def laterSiblings (document : Document) (place : Nat) : List Nat :=
  (document.places.filter (place < ·)).filter (document.areSiblings place)

def sameName (document : Document) (a b : Nat) : Bool :=
  match document.element? a, document.element? b with
  | some x, some y => x.name == y.name && x.space == y.space
  | _, _ => false

end Markup.Document

namespace Selector

/-- What a match is relative to. -/
structure Setting where
  document : Document
  /-- The element that a query starts at. -/
  scope : Option Nat
  /-- The element that a condition on surroundings is about. -/
  anchor : Option Nat

/-- The elements that stand to a given one as a combinator says. -/
def Combinator.candidates (combinator : Combinator) (document : Document) (place : Nat) :
    List Nat :=
  match combinator with
  | .descendant => document.treeAncestors document.elements.size place
  | .child => (document.treeParent? place).toList
  | .next => (document.earlierSiblings place).take 1
  | .later => document.earlierSiblings place

/-- The number of an element among those beside it, counted from one. -/
def position (document : Document) (fromEnd ofType : Bool) (place : Nat) : Nat :=
  let beside := if fromEnd then document.laterSiblings place else document.earlierSiblings place
  (if ofType then beside.filter (document.sameName place) else beside).length + 1

def isRoot (element : Element) : Bool := element.parent.isNone

mutual

/-- An element satisfies a condition. -/
def Condition.holds (setting : Setting) (place : Nat) : Condition → Bool
  | .any => true
  | .name name =>
    (setting.document.element? place).any fun e => e.name == comparedName e.space name
  | .unspaced => false
  | .id id => (setting.document.element? place).any fun e => hasId e id
  | .className name => (setting.document.element? place).any fun e => hasClass e name
  | .attribute name anySpace test =>
    (setting.document.element? place).any fun e => hasAttribute e name anySpace test
  | .nth fromEnd ofType progression =>
    progression.holds (position setting.document fromEnd ofType place)
  | .root => (setting.document.element? place).any isRoot
  | .empty => (setting.document.element? place).any fun e => !e.hasContent
  | .scope =>
    match setting.scope with
    | some scope => place == scope
    | none => (setting.document.element? place).any isRoot
  | .anchor => setting.anchor == some place
  | .not alternatives => !anyHolds setting place alternatives
  | .is alternatives => anyHolds setting place alternatives
  | .has alternatives =>
    setting.document.places.any fun other =>
      anyHolds { setting with anchor := some place } other alternatives
  | .never => false

/-- An element satisfies all conditions. -/
def allHold (setting : Setting) (place : Nat) : List Condition → Bool
  | [] => true
  | condition :: rest => condition.holds setting place && allHold setting place rest

/-- An element is described by a chain. -/
def Chain.holds (setting : Setting) (place : Nat) : Chain → Bool
  | .last compound => allHold setting place compound
  | .link compound combinator before =>
    allHold setting place compound &&
      (combinator.candidates setting.document place).any fun other => before.holds setting other

/-- An element is described by one of several chains. -/
def anyHolds (setting : Setting) (place : Nat) : List Chain → Bool
  | [] => false
  | chain :: rest => chain.holds setting place || anyHolds setting place rest

end

end Selector

/-- A selector: the alternatives of a description. -/
structure Selector where
  alternatives : List Selector.Chain

namespace Selector

/-- A selector describes an element, with regard to the element that a query starts at. -/
def accepts (selector : Selector) (document : Document) (scope : Option Nat) (place : Nat) :
    Bool :=
  anyHolds ⟨document, scope, none⟩ place selector.alternatives

/-- The places of the elements of a whole document that a selector describes, in the order in which
the elements were made. -/
def inDocument (selector : Selector) (document : Document) : List Nat :=
  document.placesByRank.filter (selector.accepts document none)

/-- The places of the elements inside another one that a selector describes, in the order of the
document. -/
def inElement (selector : Selector) (document : Document) (outer : Nat) : List Nat :=
  document.places.filter fun place =>
    document.isInside place outer && selector.accepts document (some outer) place

end Selector

end ConsentBanner
