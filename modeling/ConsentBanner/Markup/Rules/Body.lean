import ConsentBanner.Markup.Builder

/-!
# Rules for the body of a page

What a token does inside the body, which is also what it does in any other place that has no rule of
its own for it.
-/

set_option autoImplicit false

namespace ConsentBanner.Markup

/-- How rules refer to others. -/
structure Again where
  /-- What a token does by the rules of a mode. -/
  byRules : Mode → Token → Build Unit
  /-- What a token does now, after the mode or the open elements have changed. -/
  token : Token → Build Unit

def Again.inMode (again : Again) (mode : Mode) (token : Token) : Build Unit := do
  Build.enter mode
  again.token token

namespace Rules

open Build

def isBlankText : Token → Bool
  | .char c => Lexer.isSpace c
  | _ => false

def attribute? (attributes : List Attribute) (name : String) : Option String :=
  (attributes.find? fun entry => entry.1 = name).map Prod.snd

def isHiddenInput (attributes : List Attribute) : Bool :=
  (attribute? attributes "type").any fun kind => kind.toLower = "hidden"

def bodyChar (c : Char) : Build Unit := do
  if c.toNat = 0 then return
  reconstruct
  if !Lexer.isSpace c then noFrames
  putChar c

def startItem (tag : Tag) (names : List String) : Build Unit := do
  noFrames
  let b ← get
  let rec earlier : List Nat → Option String
    | [] => none
    | number :: rest =>
      match b.tree.name? number with
      | some (space, name) =>
        if space = .html ∧ names.contains name then some name
        else if isSpecial (space, name) && !b.tree.isOneOf ["address", "div", "p"] number then none
        else earlier rest
      | none => earlier rest
  match earlier b.stack with
  | some name => do
    closeImplied (some name)
    close name
  | none => pure ()
  endParagraph
  let _ ← insert tag

def endLink : Build Unit := do
  let b ← get
  match (withinReach b.formatting).find? fun entry => entry.2.name = "a" with
  | none => pure ()
  | some (number, _) => do
    closeFormatting "a"
    forget number
    removeOpen number

def startFrameset (tag : Tag) : Build Unit := do
  let b ← get
  if b.framesetOk then
    match b.body? with
    | none => pure ()
    | some body =>
      onTree fun tree => tree.detach body
      modify fun b => { b with stack := b.stack.drop (b.stack.length - 1) }
      let _ ← insert tag
      enter .inFrameset

/-- An element without content. -/
def insertVoid (tag : Tag) : Build Unit := do
  reconstruct
  insertClosed tag
  if !(tag.name = "input" ∧ isHiddenInput tag.attributes) then noFrames

def startSelect (tag : Tag) : Build Unit := do
  reconstruct
  let _ ← insert tag
  noFrames
  let b ← get
  let inTable := [Mode.inTable, .inCaption, .inTableBody, .inRow, .inCell].contains b.mode
  enter (if inTable then .inSelectInTable else .inSelect)

def startForm (tag : Tag) : Build Unit := do
  let b ← get
  if b.form.isNone || b.hasOpen "template" then
    endParagraph
    let number ← insert tag
    if !(← get).hasOpen "template" then modify fun b => { b with form := some number }

def voidNames : List String := ["area", "br", "embed", "img", "input", "keygen", "wbr"]

def bodyStart (again : Again) (tag : Tag) (selfClosing : Bool) : Build Unit := do
  let b ← get
  let name := tag.name
  let plain : Build Unit := do
    reconstruct
    let _ ← insert tag
  let block : Build Unit := do
    endParagraph
    let _ ← insert tag
  if name = "html" then
    if !b.hasOpen "template" then
      match b.top? with
      | some top => addAttributes top tag.attributes
      | none => pure ()
  else if headNames.contains name then
    again.byRules .inHead (.startTag name tag.attributes selfClosing)
  else if name = "body" then
    match b.body? with
    | some body =>
      if !b.hasOpen "template" then
        noFrames
        addAttributes body tag.attributes
    | none => pure ()
  else if name = "frameset" then startFrameset tag
  else if blockNames.contains name then block
  else if headings.contains name then
    endParagraph
    if (← get).currentIsOneOf headings then pop
    let _ ← insert tag
  else if name = "pre" ∨ name = "listing" then
    block
    modify fun b => { b with skipLineFeed := true, framesetOk := false }
  else if name = "form" then startForm tag
  else if name = "li" then startItem tag ["li"]
  else if name = "dd" ∨ name = "dt" then startItem tag ["dd", "dt"]
  else if name = "plaintext" then
    block
    modify fun b => { b with content := .plaintext }
  else if name = "button" then
    if b.inScope .usual "button" then
      closeImplied none
      close "button"
    plain
    noFrames
  else if name = "a" then
    endLink
    reconstruct
    insertFormatting tag
  else if name = "nobr" then
    reconstruct
    if (← get).inScope .usual "nobr" then
      closeFormatting "nobr"
      reconstruct
    insertFormatting tag
  else if formattingNames.contains name then
    reconstruct
    insertFormatting tag
  else if ["applet", "marquee", "object"].contains name then
    plain
    addMarker
    noFrames
  else if name = "table" then
    if !b.isOld then endParagraph
    let _ ← insert tag
    noFrames
    enter .inTable
  else if voidNames.contains name then insertVoid tag
  else if ["param", "source", "track"].contains name then insertClosed tag
  else if name = "hr" then
    endParagraph
    insertClosed tag
    noFrames
  else if name = "image" then
    again.byRules .inBody (.startTag "img" tag.attributes selfClosing)
  else if name = "textarea" then
    modify fun b => { b with skipLineFeed := true, framesetOk := false }
    insertText tag (.rcdata name)
  else if name = "xmp" then
    endParagraph
    reconstruct
    noFrames
    insertText tag (.rawtext name)
  else if name = "iframe" then
    noFrames
    insertText tag (.rawtext name)
  else if name = "noembed" ∨ name = "noscript" then insertText tag (.rawtext name)
  else if name = "select" then startSelect tag
  else if name = "optgroup" ∨ name = "option" then
    if b.currentIs "option" then pop
    plain
  else if name = "rb" ∨ name = "rtc" then
    if b.inScope .usual "ruby" then closeImplied none
    let _ ← insert tag
  else if name = "rp" ∨ name = "rt" then
    if b.inScope .usual "ruby" then closeImplied (some "rtc")
    let _ ← insert tag
  else if name = "math" then
    reconstruct
    insertForeign .mathml tag selfClosing
  else if name = "svg" then
    reconstruct
    insertForeign .svg tag selfClosing
  else if ["caption", "col", "colgroup", "frame", "head", "tbody", "td", "tfoot", "th", "thead",
      "tr"].contains name then pure ()
  else plain

def endForm : Build Unit := do
  let b ← get
  if b.hasOpen "template" then
    if b.inScope .usual "form" then
      closeImplied none
      close "form"
  else
    modify fun b => { b with form := none }
    match b.form with
    | none => pure ()
    | some form =>
      if b.inScopeWhere .usual (· == form) then
        closeImplied none
        removeOpen form

def bodyEnd (again : Again) (name : String) : Build Unit := do
  let b ← get
  let closeIn (bound : Bound) (excepted : Option String) : Build Unit := do
    if b.inScope bound name then
      closeImplied excepted
      close name
  if name = "template" then again.byRules .inHead (.endTag name)
  else if name = "body" then
    if b.inScope .usual "body" then enter .afterBody
  else if name = "html" then
    if b.inScope .usual "body" then again.inMode .afterBody (.endTag name)
  else if closedBlockNames.contains name then closeIn .usual none
  else if name = "form" then endForm
  else if name = "p" then
    if !b.inScope .button "p" then
      let _ ← insertPhantom "p"
    closeParagraph
  else if name = "li" then closeIn .listItem (some name)
  else if name = "dd" ∨ name = "dt" then closeIn .usual (some name)
  else if headings.contains name then
    if b.inScopeWhere .usual (b.tree.isOneOf headings) then
      closeImplied none
      popThrough fun tree => tree.isOneOf headings
  else if formattingNames.contains name then closeFormatting name
  else if ["applet", "marquee", "object"].contains name then
    if b.inScope .usual name then
      closeImplied none
      close name
      clearToMarker
  else if name = "br" then again.byRules .inBody (.startTag "br" [] false)
  else closeOrdinary name

def body (again : Again) (token : Token) : Build Unit := do
  match token with
  | .char c => bodyChar c
  | .startTag name attributes selfClosing => bodyStart again ⟨name, attributes⟩ selfClosing
  | .endTag name => bodyEnd again name
  | .eof =>
    if !(← get).templateModes.isEmpty then again.byRules .inTemplate token
  | _ => pure ()

end Rules

end ConsentBanner.Markup
