import ConsentBanner.Markup.Rules.Body

/-!
# Rules for selects

Inside a select only its options count; most other tags have no effect.
-/

set_option autoImplicit false

namespace ConsentBanner.Markup.Rules

open Build

def closeOptions : Build Unit := do
  if (← get).currentIs "option" then pop
  if (← get).currentIs "optgroup" then pop

def select (again : Again) (token : Token) : Build Unit := do
  let b ← get
  match token with
  | .char c => if c.toNat ≠ 0 then putChar c
  | .startTag name attributes _ =>
    let tag : Tag := ⟨name, attributes⟩
    if name = "html" then again.byRules .inBody token
    else if name = "option" then
      if b.currentIs "option" then pop
      let _ ← insert tag
    else if name = "optgroup" then
      closeOptions
      let _ ← insert tag
    else if name = "hr" then
      closeOptions
      insertClosed tag
    else if name = "select" then
      if b.inScope .select "select" then
        close "select"
        resetMode
    else if ["input", "keygen", "textarea"].contains name then
      if b.inScope .select "select" then
        close "select"
        resetMode
        again.token token
    else if name = "script" ∨ name = "template" then again.byRules .inHead token
  | .endTag name =>
    if name = "optgroup" then
      match b.stack with
      | first :: second :: _ =>
        if b.tree.isNamed "option" first && b.tree.isNamed "optgroup" second then pop
      | _ => pure ()
      if (← get).currentIs "optgroup" then pop
    else if name = "option" then
      if b.currentIs "option" then pop
    else if name = "select" then
      if b.inScope .select "select" then
        close "select"
        resetMode
    else if name = "template" then again.byRules .inHead token
  | .eof => again.byRules .inBody token
  | _ => pure ()

def selectInTable (again : Again) (token : Token) : Build Unit := do
  let b ← get
  let parts := ["caption", "table", "tbody", "tfoot", "thead", "tr", "td", "th"]
  let leave : Build Unit := do
    close "select"
    resetMode
    again.token token
  match token with
  | .startTag name _ _ =>
    if parts.contains name then leave else again.byRules .inSelect token
  | .endTag name =>
    if parts.contains name then
      if b.inScope .table name then leave
    else again.byRules .inSelect token
  | _ => again.byRules .inSelect token

end ConsentBanner.Markup.Rules
