import ConsentBanner.Json.Decode

/-!
# Elements and pointer events

Elements are named by numbers.  A rectangle is where an element stands in the window, and pointer
events are aimed at its centre.
-/

set_option autoImplicit false

namespace ConsentBanner

open Json (Decoder Held DecodeError)
open Json.Decode

/-- The name of an element of a page. -/
abbrev NodeId : Type := Nat

namespace NodeId

def display (node : NodeId) : String := "#" ++ toString node

def decode : Decoder NodeId := nat64

def encode (node : NodeId) : Json := .nat node

end NodeId

/-- Where a lookup starts. -/
inductive Scope where
  | document
  | node (id : NodeId)
  deriving DecidableEq, Repr

/-- The element at which a lookup starts, if it is one. -/
def Scope.node? : Scope → Option NodeId
  | .document => none
  | .node id => some id

/-- Where an element stands in the window. -/
structure Rect where
  left : Float
  top : Float
  width : Float
  height : Float
  deriving Repr

namespace Rect

def center (rect : Rect) : Float × Float :=
  (rect.left + rect.width / 2.0, rect.top + rect.height / 2.0)

def decode : Decoder Rect :=
  record "struct Rect"
    (fun held given => do
      let height ← member? given "height" float held
      let left ← member? given "left" float held
      let top ← member? given "top" float held
      let width ← member? given "width" float held
      let left ← required "left" left
      let top ← required "top" top
      let width ← required "width" width
      return ⟨left, top, width, ← required "height" height⟩)
    (fun held => do
      let sized := "struct Rect with 4 elements"
      let left ← next sized float held
      let top ← next sized float held
      let width ← next sized float held
      let height ← next sized float held
      return ⟨left, top, width, height⟩)

def encode (rect : Rect) : Json :=
  .object
    [("height", .float rect.height), ("left", .float rect.left), ("top", .float rect.top),
     ("width", .float rect.width)]

end Rect

/-- A pointer event. -/
inductive MouseKind where
  | down
  | move
  | up
  deriving DecidableEq, Repr

namespace MouseKind

def text : MouseKind → String
  | .down => "mousedown"
  | .move => "mousemove"
  | .up => "mouseup"

def decode : Decoder MouseKind :=
  constant [("mousedown", .down), ("mousemove", .move), ("mouseup", .up)]

def encode (kind : MouseKind) : Json := .string kind.text

end MouseKind

end ConsentBanner
