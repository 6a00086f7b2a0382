import ConsentBanner.Markup.Tree

/-!
# Classes of elements

Sets of names that the rules of construction speak of: what ends with its surroundings, what bounds
the search for an open element, and what may not be closed from inside.
-/

set_option autoImplicit false

namespace ConsentBanner.Markup

/-- Elements of formulas that hold ordinary content. -/
def formulaText : List String := ["mi", "mo", "mn", "ms", "mtext"]

/-- Elements of drawings that hold ordinary content. -/
def drawingText : List String := ["foreignObject", "desc", "title"]

def isForeignBound : Space × String → Bool
  | (.mathml, name) => formulaText.contains name || name == "annotation-xml"
  | (.svg, name) => drawingText.contains name
  | (.html, _) => false

/-- The sets of elements that bound the search for an open element. -/
inductive Bound where
  | usual
  | listItem
  | button
  | table
  | select
  deriving DecidableEq

def usualBounds : List String :=
  ["applet", "caption", "html", "table", "td", "th", "marquee", "object", "template"]

def Bound.holds (bound : Bound) (element : Space × String) : Bool :=
  match bound with
  | .usual => isUsual element
  | .listItem => isUsual element || element == (.html, "ol") || element == (.html, "ul")
  | .button => isUsual element || element == (.html, "button")
  | .table => element.1 == .html && ["html", "table", "template"].contains element.2
  | .select => !(element.1 == .html && ["optgroup", "option"].contains element.2)
where
  isUsual (element : Space × String) : Bool :=
    isForeignBound element || (element.1 == .html && usualBounds.contains element.2)

/-- Elements that end with what surrounds them. -/
def impliedEnds : List String :=
  ["dd", "dt", "li", "option", "optgroup", "p", "rb", "rp", "rt", "rtc"]

/-- Elements that end with a template. -/
def thoroughEnds : List String :=
  impliedEnds ++ ["caption", "colgroup", "tbody", "td", "tfoot", "th", "thead", "tr"]

/-- Names of elements that are not closed by an end tag of another name. -/
def specialNames : List String :=
  ["address", "applet", "area", "article", "aside", "base", "basefont", "bgsound", "blockquote",
   "body", "br", "button", "caption", "center", "col", "colgroup", "dd", "details", "dir", "div",
   "dl", "dt", "embed", "fieldset", "figcaption", "figure", "footer", "form", "frame", "frameset",
   "h1", "h2", "h3", "h4", "h5", "h6", "head", "header", "hgroup", "hr", "html", "iframe", "img",
   "input", "isindex", "li", "link", "listing", "main", "marquee", "menu", "meta", "nav",
   "noembed", "noframes", "noscript", "object", "ol", "p", "param", "plaintext", "pre", "script",
   "search", "section", "select", "source", "style", "summary", "table", "tbody", "td", "template",
   "textarea", "tfoot", "th", "thead", "title", "tr", "track", "ul", "wbr", "xmp"]

def isSpecial (element : Space × String) : Bool :=
  isForeignBound element || (element.1 == .html && specialNames.contains element.2)

def headings : List String := ["h1", "h2", "h3", "h4", "h5", "h6"]

/-- Elements that stand in a table and send what does not belong there out of it. -/
def tableParts : List String := ["table", "tbody", "tfoot", "thead", "tr"]

def rowGroups : List String := ["tbody", "tfoot", "thead"]

/-- Elements that mark up words and are opened again in the next block. -/
def formattingNames : List String :=
  ["a", "b", "big", "code", "em", "font", "i", "nobr", "s", "small", "strike", "strong", "tt", "u"]

/-- Elements that stand in the head of a page. -/
def headNames : List String :=
  ["base", "basefont", "bgsound", "link", "meta", "noframes", "script", "style", "template",
   "title"]

/-- Blocks that end a paragraph. -/
def blockNames : List String :=
  ["address", "article", "aside", "blockquote", "center", "details", "dialog", "dir", "div", "dl",
   "fieldset", "figcaption", "figure", "footer", "header", "hgroup", "main", "menu", "nav", "ol",
   "p", "search", "section", "summary", "ul"]

/-- Elements whose end tag ends all that is implied inside them. -/
def closedBlockNames : List String :=
  ["address", "article", "aside", "blockquote", "button", "center", "details", "dialog", "dir",
   "div", "dl", "fieldset", "figcaption", "figure", "footer", "header", "hgroup", "listing",
   "main", "menu", "nav", "ol", "pre", "search", "section", "summary", "ul"]

/-- Start tags that end foreign content. -/
def breakoutNames : List String :=
  ["b", "big", "blockquote", "body", "br", "center", "code", "dd", "div", "dl", "dt", "em",
   "embed", "h1", "h2", "h3", "h4", "h5", "h6", "head", "hr", "i", "img", "li", "listing", "menu",
   "meta", "nobr", "ol", "p", "pre", "ruby", "s", "small", "span", "strong", "strike", "sub",
   "sup", "table", "tt", "u", "ul", "var"]

end ConsentBanner.Markup
