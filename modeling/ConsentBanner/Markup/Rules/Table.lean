import ConsentBanner.Markup.Rules.Body

/-!
# Rules for tables

What a token does inside a table, its groups, rows, cells and caption.  Content that does not belong
between cells is put before the table.
-/

set_option autoImplicit false

namespace ConsentBanner.Markup.Rules

open Build

/-- What does not belong into a table goes before it, by the rules of the body. -/
def foster (again : Again) (token : Token) : Build Unit := do
  modify fun b => { b with fostering := true }
  again.byRules .inBody token
  modify fun b => { b with fostering := false }

def startPart (bounds : List String) (tag : Tag) (mode : Mode) : Build Unit := do
  popUntil bounds
  let _ ← insert tag
  enter mode

def table (again : Again) (token : Token) : Build Unit := do
  let b ← get
  let whole := ["table", "template", "html"]
  match token with
  | .char _ =>
    if b.currentIsOneOf tableParts then
      modify fun b => { b with laterMode := b.mode }
      again.inMode .inTableText token
    else foster again token
  | .startTag name attributes selfClosing =>
    let tag : Tag := ⟨name, attributes⟩
    if name = "caption" then
      popUntil whole
      addMarker
      let _ ← insert tag
      enter .inCaption
    else if name = "colgroup" then startPart whole tag .inColumnGroup
    else if name = "col" then
      startPart whole ⟨"colgroup", []⟩ .inColumnGroup
      again.token token
    else if rowGroups.contains name then startPart whole tag .inTableBody
    else if ["td", "th", "tr"].contains name then
      startPart whole ⟨"tbody", []⟩ .inTableBody
      again.token token
    else if name = "table" then
      if b.inScope .table "table" then
        close "table"
        resetMode
        again.token token
    else if ["style", "script", "template"].contains name then again.byRules .inHead token
    else if name = "input" ∧ isHiddenInput attributes then insertClosed tag
    else if name = "form" then
      if b.form.isNone && !b.hasOpen "template" then
        let number ← insert tag
        pop
        modify fun b => { b with form := some number }
    else foster again (.startTag name attributes selfClosing)
  | .endTag name =>
    if name = "table" then
      if b.inScope .table "table" then
        close "table"
        resetMode
    else if ["body", "caption", "col", "colgroup", "html", "tbody", "td", "tfoot", "th", "thead",
        "tr"].contains name then pure ()
    else if name = "template" then again.byRules .inHead token
    else foster again token
  | .eof => again.byRules .inBody token
  | _ => pure ()

/-- Text of a table that is not all blank goes before the table as a whole. -/
def fosterChars (again : Again) : List Char → Build Unit
  | [] => pure ()
  | c :: rest => do
    foster again (.char c)
    fosterChars again rest

/-- Puts characters where the next vertex goes. -/
def putChars : List Char → Build Unit
  | [] => pure ()
  | c :: rest => do
    putChar c
    putChars rest

def tableText (again : Again) (token : Token) : Build Unit := do
  match token with
  | .char c =>
    if c.toNat ≠ 0 then modify fun b => { b with tableText := b.tableText ++ [c] }
  | _ => do
    let chars := (← get).tableText
    modify fun b => { b with tableText := [] }
    if chars.all Lexer.isSpace then putChars chars else fosterChars again chars
    again.inMode (← get).laterMode token

def partNames : List String :=
  ["caption", "col", "colgroup", "tbody", "td", "tfoot", "th", "thead", "tr"]

def caption (again : Again) (token : Token) : Build Unit := do
  let b ← get
  let leave : Build Bool := do
    if b.inScope .table "caption" then
      closeImplied none
      close "caption"
      clearToMarker
      enter .inTable
      return true
    else return false
  match token with
  | .startTag name _ _ =>
    if partNames.contains name then
      if ← leave then again.token token
    else again.byRules .inBody token
  | .endTag name =>
    if name = "caption" then
      let _ ← leave
    else if name = "table" then
      if ← leave then again.token token
    else if ["body", "col", "colgroup", "html", "tbody", "td", "tfoot", "th", "thead",
        "tr"].contains name then pure ()
    else again.byRules .inBody token
  | _ => again.byRules .inBody token

def columnGroup (again : Again) (token : Token) : Build Unit := do
  let b ← get
  let leave : Build Unit := do
    if b.currentIs "colgroup" then
      pop
      again.inMode .inTable token
  match token with
  | .char c => if Lexer.isSpace c then putChar c else leave
  | .startTag name attributes _ =>
    if name = "html" then again.byRules .inBody token
    else if name = "col" then insertClosed ⟨name, attributes⟩
    else if name = "template" then again.byRules .inHead token
    else leave
  | .endTag name =>
    if name = "colgroup" then
      if b.currentIs "colgroup" then
        pop
        enter .inTable
    else if name = "col" then pure ()
    else if name = "template" then again.byRules .inHead token
    else leave
  | .eof => again.byRules .inBody token
  | _ => pure ()

/-- A token right in a group of rows. -/
def tableBody (again : Again) (token : Token) : Build Unit := do
  let b ← get
  let whole := ["tbody", "tfoot", "thead", "template", "html"]
  let leave : Build Unit := do
    if b.inScopeWhere .table (b.tree.isOneOf rowGroups) then
      popUntil whole
      pop
      again.inMode .inTable token
  match token with
  | .startTag name attributes _ =>
    if name = "tr" then startPart whole ⟨name, attributes⟩ .inRow
    else if name = "th" ∨ name = "td" then
      startPart whole ⟨"tr", []⟩ .inRow
      again.token token
    else if ["caption", "col", "colgroup", "tbody", "tfoot", "thead"].contains name then leave
    else again.byRules .inTable token
  | .endTag name =>
    if rowGroups.contains name then
      if b.inScope .table name then
        popUntil whole
        pop
        enter .inTable
    else if name = "table" then leave
    else if ["body", "caption", "col", "colgroup", "html", "td", "th", "tr"].contains name then
      pure ()
    else again.byRules .inTable token
  | _ => again.byRules .inTable token

def row (again : Again) (token : Token) : Build Unit := do
  let b ← get
  let whole := ["tr", "template", "html"]
  let leave (then_ : Build Unit) : Build Unit := do
    if b.inScope .table "tr" then
      popUntil whole
      pop
      enter .inTableBody
      then_
  match token with
  | .startTag name attributes _ =>
    if name = "th" ∨ name = "td" then
      startPart whole ⟨name, attributes⟩ .inCell
      addMarker
    else if ["caption", "col", "colgroup", "tbody", "tfoot", "thead", "tr"].contains name then
      leave (again.token token)
    else again.byRules .inTable token
  | .endTag name =>
    if name = "tr" then leave (pure ())
    else if name = "table" then leave (again.token token)
    else if rowGroups.contains name then
      if b.inScope .table name then leave (again.token token)
    else if ["body", "caption", "col", "colgroup", "html", "td", "th"].contains name then pure ()
    else again.byRules .inTable token
  | _ => again.byRules .inTable token

def closeCell : Build Unit := do
  closeImplied none
  popThrough fun tree => tree.isOneOf ["td", "th"]
  clearToMarker
  enter .inRow

def cell (again : Again) (token : Token) : Build Unit := do
  let b ← get
  match token with
  | .startTag name _ _ =>
    if partNames.contains name then
      if b.inScopeWhere .table (b.tree.isOneOf ["td", "th"]) then
        closeCell
        again.token token
    else again.byRules .inBody token
  | .endTag name =>
    if name = "td" ∨ name = "th" then
      if b.inScope .table name then
        closeImplied none
        close name
        clearToMarker
        enter .inRow
    else if ["body", "caption", "col", "colgroup", "html"].contains name then pure ()
    else if tableParts.contains name then
      if b.inScope .table name then
        closeCell
        again.token token
    else again.byRules .inBody token
  | _ => again.byRules .inBody token

end ConsentBanner.Markup.Rules
