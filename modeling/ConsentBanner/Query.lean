import ConsentBanner.Filter

/-!
# Element queries

A query is a selector with filters that can only narrow what it selects.  A matcher looks for the
matches of a target query, optionally inside each match of a parent query; it is also what a child
filter asks for below an element.
-/

set_option autoImplicit false

namespace ConsentBanner

open Json (Decoder Held DecodeError)
open Json.Decode

mutual

/-- One level of an element lookup. -/
structure ElementQuery where
  selector : String
  textFilter : Option TextFilter
  styleFilters : List StyleFilter
  /-- Whether the element must, or must not, take up height. -/
  displayFilter : Option Bool
  /-- Whether the document must be a nested frame, or the top one. -/
  iframeFilter : Option Bool
  /-- What the element must contain. -/
  childFilter : Option Matcher

/-- A target query, searched inside each match of a parent query if there is one. -/
structure Matcher where
  target : ElementQuery
  parent : Option ElementQuery

end

def ElementQuery.css (selector : String) : ElementQuery := ⟨selector, none, [], none, none, none⟩

def Matcher.css (selector : String) : Matcher := ⟨.css selector, none⟩

def Matcher.within (matcher : Matcher) (parent : ElementQuery) : Matcher :=
  ⟨matcher.target, some parent⟩

/-- What a presence matcher asks of the element it finds. -/
inductive Presence where
  /-- The element is there. -/
  | css
  /-- The element is there and checked. -/
  | checkbox
  deriving DecidableEq, Repr

/-- A matcher that answers yes or no. -/
structure PresenceMatcher where
  kind : Presence
  matcher : Matcher

mutual

/-- A query, decoded with a bound on the nesting of child filters. -/
def ElementQuery.decodeWith : Nat → Decoder ElementQuery
  | 0 => fun _ value => mismatch "struct ElementQuery" value
  | fuel + 1 =>
    record "struct ElementQuery"
      (fun held given => do
        let child ← memberOr given "childFilter" none (option (Matcher.decodeWith fuel)) held
        let display ← memberOr given "displayFilter" none (option bool) held
        let iframe ← memberOr given "iframeFilter" none (option bool) held
        let selector ← memberOr given "selector" "" string held
        let styles ← memberOr given "styleFilters" [] (list StyleFilter.decode) held
        let text ← memberOr given "textFilter" none (option TextFilter.decode) held
        return ⟨selector, text, styles, display, iframe, child⟩)
      (fun held => do
        let selector ← nextOr "" string held
        let text ← nextOr none (option TextFilter.decode) held
        let styles ← nextOr [] (list StyleFilter.decode) held
        let display ← nextOr none (option bool) held
        let iframe ← nextOr none (option bool) held
        let child ← nextOr none (option (Matcher.decodeWith fuel)) held
        return ⟨selector, text, styles, display, iframe, child⟩)

/-- The members of a matcher, decoded with a bound on the nesting of child filters. -/
def Matcher.membersWith : Nat → Held → Keyed String Json → Except DecodeError Matcher
  | 0, _, _ => .error (.missingField "target")
  | fuel + 1, held, given => do
    let parent ← memberOr given "parent" none (option (ElementQuery.decodeWith fuel)) held
    let target ← member? given "target" (ElementQuery.decodeWith fuel) held
    return ⟨← required "target" target, parent⟩

/-- A matcher, decoded with a bound on the nesting of child filters. -/
def Matcher.decodeWith : Nat → Decoder Matcher
  | 0 => fun _ value => mismatch "struct Matcher" value
  | fuel + 1 =>
    record "struct Matcher" (Matcher.membersWith fuel)
      (fun held => do
        let target ← next "struct Matcher with 2 elements" (ElementQuery.decodeWith fuel) held
        let parent ← nextOr none (option (ElementQuery.decodeWith fuel)) held
        return ⟨target, parent⟩)

end

/-- A bound on the calls that decoding a value of this kind can nest. -/
def queryFuel (value : Json) : Nat := 2 * value.height + 2

def ElementQuery.decode : Decoder ElementQuery := fun held value =>
  ElementQuery.decodeWith (queryFuel value) held value

def Matcher.decode : Decoder Matcher := fun held value =>
  Matcher.decodeWith (queryFuel value) held value

def Matcher.ofMembers (given : Keyed String Json) : Except DecodeError Matcher :=
  Matcher.membersWith (queryFuel (.object given)) .back given

def Presence.decode : Decoder Presence := constant [("css", .css), ("checkbox", .checkbox)]

def PresenceMatcher.decode : Decoder PresenceMatcher :=
  membersOnly "struct PresenceMatcher" fun held given => do
    let kind ← memberOr given "type" .css Presence.decode held
    return ⟨kind, ← Matcher.ofMembers given⟩

end ConsentBanner
