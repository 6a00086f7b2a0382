import ConsentBanner.Markup.Rules.Body

/-!
# Rules for the outline of a page

What a token does before, between and behind head and body, in the head itself, in templates and in
pages of frames.  Whatever the markup leaves out of the outline is supplied.
-/

set_option autoImplicit false

namespace ConsentBanner.Markup.Rules

open Build

/-- Identifiers of document types of old pages, in lower case. -/
def oldDoctypes : List String :=
  ["-//w3o//dtd w3 html strict 3.0//en//", "-/w3c/dtd html 4.0 transitional/en", "html"]

/-- How identifiers of document types of old pages start, in lower case. -/
def oldDoctypeStarts : List String :=
  ["-//ietf//dtd html", "-//w3c//dtd html 3 1995-03-24//", "-//w3c//dtd html 3.2 draft//",
   "-//w3c//dtd html 3.2 final//", "-//w3c//dtd html 3.2//", "-//w3c//dtd html 3.2s draft//",
   "-//w3c//dtd html 4.0 frameset//", "-//w3c//dtd html 4.0 transitional//",
   "-//w3c//dtd html experimental 19960712//", "-//w3c//dtd html experimental 970421//",
   "-//w3c//dtd w3 html//", "-//w3o//dtd w3 html 3.0//"]

def oldBareStarts : List String :=
  ["-//w3c//dtd html 4.01 frameset//", "-//w3c//dtd html 4.01 transitional//"]

/-- The document type asks for the rules of old pages. -/
def isOldDoctype (doctype : Doctype) : Bool :=
  let publicId := (doctype.publicId.getD "").toLower
  let starts (entries : List String) : Bool :=
    doctype.publicId.isSome && entries.any fun s => s.toList.isPrefixOf publicId.toList
  doctype.forceQuirks || doctype.name != some "html" ||
    (doctype.publicId.isSome && oldDoctypes.contains publicId) || starts oldDoctypeStarts ||
    (doctype.systemId.isNone && starts oldBareStarts)

/-- A document type, which counts at the start only. -/
def doctype (given : Doctype) : Build Unit := do
  if (← get).mode = .initial then
    modify fun b => { b with isOld := isOldDoctype given, mode := .beforeHtml }

/-- A token before everything else. -/
def beforeAll (again : Again) (token : Token) : Build Unit := do
  if !isBlankText token then
    modify fun b => { b with isOld := true }
    again.inMode .beforeHtml token

/-- End tags that supply what is missing before them. -/
def supplyingEnds : List String := ["head", "body", "html", "br"]

/-- A token before the outermost element. -/
def beforeHtml (again : Again) (token : Token) : Build Unit := do
  let supply : Build Unit := do
    createRoot []
    again.inMode .beforeHead token
  match token with
  | .startTag name attributes _ =>
    if name = "html" then
      createRoot attributes
      enter .beforeHead
    else supply
  | .endTag name => if supplyingEnds.contains name then supply
  | _ => if !isBlankText token then supply

def beforeHead (again : Again) (token : Token) : Build Unit := do
  let open_ (tag : Tag) : Build Unit := do
    let number ← insert tag
    modify fun b => { b with head := some number }
  let supply : Build Unit := do
    open_ ⟨"head", []⟩
    again.inMode .inHead token
  match token with
  | .startTag name attributes _ =>
    if name = "html" then again.byRules .inBody token
    else if name = "head" then
      open_ ⟨name, attributes⟩
      enter .inHead
    else supply
  | .endTag name => if supplyingEnds.contains name then supply
  | _ => if !isBlankText token then supply

def startTemplate (tag : Tag) : Build Unit := do
  let _ ← insert tag
  addMarker
  noFrames
  modify fun b =>
    { b with mode := .inTemplate, templateModes := .inTemplate :: b.templateModes }

def endTemplate : Build Unit := do
  if (← get).hasOpen "template" then
    closeThoroughly
    close "template"
    clearToMarker
    modify fun b => { b with templateModes := b.templateModes.drop 1 }
    resetMode

def inHead (again : Again) (token : Token) : Build Unit := do
  let leave : Build Unit := do
    pop
    again.inMode .afterHead token
  match token with
  | .char c => if Lexer.isSpace c then putChar c else leave
  | .startTag name attributes _ =>
    let tag : Tag := ⟨name, attributes⟩
    if name = "html" then again.byRules .inBody token
    else if ["base", "basefont", "bgsound", "link", "meta"].contains name then insertClosed tag
    else if name = "title" then insertText tag (.rcdata name)
    else if ["noframes", "style", "noscript"].contains name then insertText tag (.rawtext name)
    else if name = "script" then insertText tag .script
    else if name = "template" then startTemplate tag
    else if name = "head" then pure ()
    else leave
  | .endTag name =>
    if name = "head" then
      pop
      enter .afterHead
    else if ["body", "html", "br"].contains name then leave
    else if name = "template" then endTemplate
  | .eof => leave
  | _ => pure ()

def afterHead (again : Again) (token : Token) : Build Unit := do
  let supply : Build Unit := do
    let _ ← insertPhantom "body"
    again.inMode .inBody token
  match token with
  | .char c => if Lexer.isSpace c then putChar c else supply
  | .startTag name attributes _ =>
    let tag : Tag := ⟨name, attributes⟩
    if name = "html" then again.byRules .inBody token
    else if name = "body" then
      let _ ← insert tag
      noFrames
      enter .inBody
    else if name = "frameset" then
      let _ ← insert tag
      enter .inFrameset
    else if headNames.contains name then
      match (← get).head with
      | some head =>
        push head
        again.byRules .inHead token
        removeOpen head
      | none => again.byRules .inHead token
    else if name = "head" then pure ()
    else supply
  | .endTag name =>
    if name = "template" then again.byRules .inHead token
    else if ["body", "html", "br"].contains name then supply
  | .eof => supply
  | _ => pure ()

def text (again : Again) (token : Token) : Build Unit := do
  match token with
  | .char c => putChar c
  | .eof =>
    pop
    again.inMode (← get).laterMode token
  | .endTag _ =>
    pop
    enter (← get).laterMode
  | _ => pure ()

def template (again : Again) (token : Token) : Build Unit := do
  let b ← get
  let switch (mode : Mode) : Build Unit := do
    modify fun b => { b with templateModes := mode :: b.templateModes.drop 1 }
    again.inMode mode token
  match token with
  | .char _ => again.byRules .inBody token
  | .startTag name _ _ =>
    if headNames.contains name then again.byRules .inHead token
    else if ["caption", "colgroup", "tbody", "tfoot", "thead"].contains name then switch .inTable
    else if name = "col" then switch .inColumnGroup
    else if name = "tr" then switch .inTableBody
    else if name = "td" ∨ name = "th" then switch .inRow
    else switch .inBody
  | .endTag name => if name = "template" then again.byRules .inHead token
  | .eof =>
    if b.hasOpen "template" then
      close "template"
      clearToMarker
      modify fun b => { b with templateModes := b.templateModes.drop 1 }
      resetMode
      again.token token
  | _ => pure ()

def afterBody (again : Again) (token : Token) : Build Unit := do
  match token with
  | .endTag "html" => enter .afterAfterBody
  | .startTag "html" _ _ => again.byRules .inBody token
  | .eof => pure ()
  | .comment => pure ()
  | _ => if isBlankText token then again.byRules .inBody token else again.inMode .inBody token

def frameset (again : Again) (token : Token) : Build Unit := do
  let b ← get
  match token with
  | .char c => if Lexer.isSpace c then putChar c
  | .startTag name attributes _ =>
    let tag : Tag := ⟨name, attributes⟩
    if name = "html" then again.byRules .inBody token
    else if name = "frameset" then
      let _ ← insert tag
    else if name = "frame" then insertClosed tag
    else if name = "noframes" then again.byRules .inHead token
  | .endTag "frameset" =>
    if b.stack.length ≠ 1 then
      pop
      if !(← get).currentIs "frameset" then enter .afterFrameset
  | _ => pure ()

def afterFrameset (again : Again) (token : Token) : Build Unit := do
  match token with
  | .char c => if Lexer.isSpace c then putChar c
  | .startTag "html" _ _ => again.byRules .inBody token
  | .startTag "noframes" _ _ => again.byRules .inHead token
  | .endTag "html" => enter .afterAfterFrameset
  | _ => pure ()

/-- A token behind everything. -/
def afterAll (again : Again) (token : Token) : Build Unit := do
  match token with
  | .startTag "html" _ _ => again.byRules .inBody token
  | .eof => pure ()
  | _ => if isBlankText token then again.byRules .inBody token else again.inMode .inBody token

/-- A token behind everything in a page of frames. -/
def afterAllFrames (again : Again) (token : Token) : Build Unit := do
  match token with
  | .startTag "html" _ _ => again.byRules .inBody token
  | .startTag "noframes" _ _ => again.byRules .inHead token
  | _ => if isBlankText token then again.byRules .inBody token

end ConsentBanner.Markup.Rules
