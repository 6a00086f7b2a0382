import ConsentBanner.Pattern.CharSet

/-!
# Patterns and their matches

A pattern describes stretches of a text.  `Pattern.ends` lists where a match that starts at a given
place can end; a text matches when some place in it starts a match.  A place carries the character
before it, which anchors and word boundaries look at.
-/

set_option autoImplicit false

namespace ConsentBanner

namespace Pattern

/-- What an anchor asks of a place. -/
inductive Anchor where
  | textStart
  | textEnd
  | lineStart (crlf : Bool)
  | lineEnd (crlf : Bool)
  | wordEdge (ascii : Bool)
  | noWordEdge (ascii : Bool)
  | wordStart (ascii : Bool)
  | wordEnd (ascii : Bool)
  | wordStartHalf (ascii : Bool)
  | wordEndHalf (ascii : Bool)
  deriving DecidableEq, Repr

/-- A place in a text. -/
structure Place where
  before : Option Char
  rest : List Char

end Pattern

/-- A description of stretches of text. -/
inductive Pattern where
  | empty
  | one (set : Pattern.CharSet)
  | anchor (a : Pattern.Anchor)
  | seq (first second : Pattern)
  | alt (first second : Pattern)
  /-- At least `min` and at most `max` times; without `max` any number of times. -/
  | repeated (inner : Pattern) (min : Nat) (max : Option Nat)

namespace Pattern

/-- The number of single steps in a pattern once its counted repetitions are written out.  What
takes no character is written out once only. -/
def size : Pattern → Nat
  | .empty => 0
  | .one _ => 1
  | .anchor _ => 0
  | .seq first second => first.size + second.size
  | .alt first second => first.size + second.size
  | .repeated inner min max => inner.size * (max.getD (min + 1))

/-- The greatest size of a pattern that is accepted. -/
def longest : Nat := 10 * Nat.pow 2 20 / 32

/-- A character counts as part of a word for an anchor. -/
def inWord (ascii : Bool) (c : Option Char) : Bool :=
  match c with
  | none => false
  | some c => if ascii then c.isAlphanum || c = '_' else isWordChar c

def Anchor.holds (anchor : Anchor) (place : Place) : Bool :=
  let behind (ascii : Bool) := inWord ascii place.before
  let ahead (ascii : Bool) := inWord ascii place.rest.head?
  match anchor with
  | .textStart => place.before.isNone
  | .textEnd => place.rest.isEmpty
  | .lineStart false => place.before.isNone || place.before == some '\n'
  | .lineStart true =>
    place.before.isNone || place.before == some '\n' ||
      (place.before == some '\r' && place.rest.head? != some '\n')
  | .lineEnd false => place.rest.isEmpty || place.rest.head? == some '\n'
  | .lineEnd true =>
    place.rest.isEmpty || place.rest.head? == some '\r' ||
      (place.rest.head? == some '\n' && place.before != some '\r')
  | .wordEdge ascii => behind ascii != ahead ascii
  | .noWordEdge ascii => behind ascii == ahead ascii
  | .wordStart ascii => !behind ascii && ahead ascii
  | .wordEnd ascii => behind ascii && !ahead ascii
  | .wordStartHalf ascii => !behind ascii
  | .wordEndHalf ascii => !ahead ascii

/-- Adds places to others, each place once. -/
def merge (known more : List Place) : List Place :=
  more.foldl
    (fun places place =>
      if places.any fun p => p.rest.length = place.rest.length then places else places ++ [place])
    known

def stepAll (step : Place → List Place) (places : List Place) : List Place :=
  places.foldl (fun reached place => merge reached (step place)) []

/-- All places reached by any number of steps, up to a bound. -/
def closure (step : Place → List Place) : Nat → List Place → List Place
  | 0, places => places
  | fuel + 1, places =>
    let more := merge places (stepAll step places)
    if more.length = places.length then places else closure step fuel more

/-- The places reached by exactly so many steps. -/
def iterate (step : Place → List Place) : Nat → List Place → List Place
  | 0, places => places
  | _ + 1, [] => []
  | n + 1, places => iterate step n (stepAll step places)

def upTo (step : Place → List Place) : Nat → List Place → List Place
  | 0, places => places
  | n + 1, places =>
    let more := merge places (stepAll step places)
    if more.length = places.length then places else upTo step n more

/-- Where a match that starts at a place can end. -/
def ends : Pattern → Place → List Place
  | .empty, place => [place]
  | .one set, place =>
    match place.rest with
    | [] => []
    | c :: rest => if set.has c then [⟨some c, rest⟩] else []
  | .anchor a, place => if a.holds place then [place] else []
  | .seq first second, place => stepAll second.ends (first.ends place)
  | .alt first second, place => merge (first.ends place) (second.ends place)
  | .repeated inner min max, place =>
    let start := iterate inner.ends (if inner.size = 0 then Nat.min min 1 else min) [place]
    match max with
    | none => closure inner.ends (place.rest.length + 1) start
    | some max => upTo inner.ends (max - min) start

/-- A match starts at one of the places from here on. -/
def matchesFrom (pattern : Pattern) : Option Char → List Char → Bool
  | before, [] => !(pattern.ends ⟨before, []⟩).isEmpty
  | before, c :: rest =>
    !(pattern.ends ⟨before, c :: rest⟩).isEmpty || matchesFrom pattern (some c) rest

def occursIn (pattern : Pattern) (text : String) : Bool := matchesFrom pattern none text.toList

end Pattern

end ConsentBanner
