import ConsentBanner.Markup.Rules.Body

/-!
# Rules for drawings and formulas

What a token does inside foreign content, and which tokens are subject to these rules at all.
-/

set_option autoImplicit false

namespace ConsentBanner.Markup.Rules

open Build

def isFormulaText : Space × String → Bool
  | (.mathml, name) => formulaText.contains name
  | _ => false

/-- A place in a drawing that holds ordinary content. -/
def isDrawingText : Space × String → Bool
  | (.svg, name) => drawingText.contains name
  | _ => false

def isOrdinaryAnnotation (tree : Tree) (number : Nat) : Bool :=
  (tree.properties number).any fun p =>
    p.name = "encoding" && ["text/html", "application/xhtml+xml"].contains p.value.toLower

def inForeign (builder : Builder) : Bool :=
  match builder.current? with
  | none => false
  | some number => (builder.tree.name? number).any fun element => element.1 != .html

/-- A token is subject to the rules of foreign content. -/
def isForeign (builder : Builder) (token : Token) : Bool :=
  match builder.current? with
  | none => false
  | some number =>
    match builder.tree.name? number with
    | none => false
    | some element =>
      element.1 != .html &&
        match token with
        | .eof => false
        | .char _ =>
          !(isFormulaText element || isDrawingText element ||
            (element == (.mathml, "annotation-xml") && isOrdinaryAnnotation builder.tree number))
        | .startTag name _ _ =>
          !((isFormulaText element && name != "mglyph" && name != "malignmark") ||
            isDrawingText element ||
            (element == (.mathml, "annotation-xml") &&
              (name == "svg" || isOrdinaryAnnotation builder.tree number)))
        | _ => true

/-- Leaves foreign content for a tag that cannot stand in it. -/
def breakOut (again : Again) (token : Token) : Build Unit := do
  modify fun b =>
    { b with
      stack := b.stack.dropWhile fun n =>
        !(b.tree.name? n).any fun element =>
          element.1 == .html || isFormulaText element || isDrawingText element }
  again.byRules (← get).mode token

/-- What an end tag in foreign content closes. -/
inductive Closing where
  | nothing
  /-- Elements, so that these stay open. -/
  | leaving (stack : List Nat)
  /-- What the rules of the page say. -/
  | ordinary

/-- Looks outwards for the foreign element that an end tag closes. -/
def closingIn (tree : Tree) (name : String) (first : Bool) : List Nat → Closing
  | [] => .nothing
  | [_] => .nothing
  | number :: rest =>
    match tree.name? number with
    | none => .nothing
    | some (space, found) =>
      if !first && space == .html then .ordinary
      else if found.toLower = name then .leaving rest
      else closingIn tree name false rest

/-- The space of the innermost element. -/
def currentSpace (builder : Builder) : Space :=
  match builder.current? with
  | none => .html
  | some number =>
    match builder.tree.name? number with
    | some (space, _) => space
    | none => .html

def foreign (again : Again) (token : Token) : Build Unit := do
  let b ← get
  match token with
  | .char c =>
    if c.toNat = 0 then putChar replacement
    else
      if !Lexer.isSpace c then noFrames
      putChar c
  | .startTag name attributes selfClosing =>
    let isBreakout := breakoutNames.contains name ||
      (name == "font" && attributes.any fun entry => ["color", "face", "size"].contains entry.1)
    if isBreakout then breakOut again token
    else insertForeign (currentSpace b) ⟨name, attributes⟩ selfClosing
  | .endTag name =>
    if name = "br" ∨ name = "p" then breakOut again token
    else
      match closingIn b.tree name true b.stack with
      | .nothing => pure ()
      | .leaving stack => set { b with stack := stack }
      | .ordinary => again.byRules b.mode token
  | _ => pure ()

end ConsentBanner.Markup.Rules
