import ConsentBanner.Markup.Rules.Foreign
import ConsentBanner.Markup.Rules.Outline
import ConsentBanner.Markup.Rules.Select
import ConsentBanner.Markup.Rules.Table

/-!
# What a token does

`Rules.byMode` applies the rules of a mode, `Rules.token` chooses between those of the present mode
and those of foreign content.  Rules refer to each other with one step of fuel less.
-/

set_option autoImplicit false

namespace ConsentBanner.Markup.Rules

open Build

def byMode (again : Again) (mode : Mode) (token : Token) : Build Unit :=
  match mode with
  | .initial => beforeAll again token
  | .beforeHtml => beforeHtml again token
  | .beforeHead => beforeHead again token
  | .inHead => inHead again token
  | .afterHead => afterHead again token
  | .inBody => body again token
  | .text => text again token
  | .inTable => table again token
  | .inTableText => tableText again token
  | .inCaption => caption again token
  | .inColumnGroup => columnGroup again token
  | .inTableBody => tableBody again token
  | .inRow => row again token
  | .inCell => cell again token
  | .inSelect => select again token
  | .inSelectInTable => selectInTable again token
  | .inTemplate => template again token
  | .afterBody => afterBody again token
  | .inFrameset => frameset again token
  | .afterFrameset => afterFrameset again token
  | .afterAfterBody => afterAll again token
  | .afterAfterFrameset => afterAllFrames again token

def byState (again : Again) (token : Token) : Build Unit := do
  let b ← get
  if isForeign b token then foreign again token
  else
    match token with
    | .comment => if b.mode = .inTableText then byMode again b.mode token
    | .doctype given =>
      if b.mode = .inTableText then byMode again b.mode token else doctype given
    | _ => byMode again b.mode token

/-- Rules that refer to each other, with a bound on how deep. -/
def again : Nat → Again
  | 0 => ⟨fun _ _ => pure (), fun _ => pure ()⟩
  | fuel + 1 => ⟨byMode (again fuel), byState (again fuel)⟩

/-- What a token does.  A line feed right behind some tags does nothing. -/
def token (given : Token) : Build Unit := do
  let b ← get
  set { b with skipLineFeed := false }
  let skipped :=
    match given with
    | .char c => b.skipLineFeed && c == '\n'
    | _ => false
  if !skipped then byState (again (8 * b.stack.length + 64)) given

def tokens : List Token → Build Unit
  | [] => pure ()
  | first :: rest => do
    token first
    tokens rest

end ConsentBanner.Markup.Rules
