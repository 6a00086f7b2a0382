import ConsentBanner.Error
import ConsentBanner.Page.Pointer

/-!
# Calls to a page

All that can be asked of a page or done to it, each call with the type of its reply.
-/

set_option autoImplicit false

namespace ConsentBanner

/-- A call to a page that is replied to with a value of the given type, or fails. -/
inductive PageCall : Type → Type where
  /-- The address. -/
  | location : PageCall String
  /-- The page is in the top frame. -/
  | isTopFrame : PageCall Bool
  /-- How far the page has loaded. -/
  | readyState : PageCall String
  | cookie : PageCall String
  /-- The elements that a selector describes. -/
  | queryAll (scope : Scope) (selector : String) : PageCall (List NodeId)
  /-- All text in an element. -/
  | textContent (node : NodeId) : PageCall String
  /-- The value of a style property, if it has one. -/
  | computedStyle (node : NodeId) (property : String) : PageCall (Option String)
  | offsetHeight (node : NodeId) : PageCall Float
  | isVisible (node : NodeId) : PageCall Bool
  | isChecked (node : NodeId) : PageCall Bool
  | click (node : NodeId) : PageCall Unit
  | addClass (node : NodeId) (name : String) : PageCall Unit
  | boundingRect (node : NodeId) : PageCall Rect
  | dispatchMouse (node : NodeId) (kind : MouseKind) (x y : Float) : PageCall Unit
  /-- Adds to the text of a style element. -/
  | appendStyle (id css : String) : PageCall Unit
  /-- Removes a style element; replies whether there was one. -/
  | removeStyle (id : String) : PageCall Bool
  /-- The value of page script. -/
  | evaluate (code : String) : PageCall Json
  /-- Closes the window. -/
  | close : PageCall Unit

def PageCall.name {α : Type} : PageCall α → String
  | .location => "location"
  | .isTopFrame => "is_top_frame"
  | .readyState => "ready_state"
  | .cookie => "cookie"
  | .queryAll _ _ => "query_all"
  | .textContent _ => "text_content"
  | .computedStyle _ _ => "computed_style"
  | .offsetHeight _ => "offset_height"
  | .isVisible _ => "is_visible"
  | .isChecked _ => "is_checked"
  | .click _ => "click"
  | .addClass _ _ => "add_class"
  | .boundingRect _ => "bounding_rect"
  | .dispatchMouse _ _ _ _ => "dispatch_mouse"
  | .appendStyle _ _ => "append_style"
  | .removeStyle _ => "remove_style"
  | .evaluate _ => "evaluate"
  | .close => "close"

end ConsentBanner
