import ConsentBanner.Markup.Token
import ConsentBanner.Markup.Tree

/-!
# Names in foreign content

Tags are read in lower case.  In drawings some names of elements and attributes get their capitals
back, in formulas one does, and a few attributes belong to a namespace of their own.
-/

set_option autoImplicit false

namespace ConsentBanner.Markup

/-- Names of drawings with capitals. -/
def drawingElements : List String :=
  ["altGlyph", "altGlyphDef", "altGlyphItem", "animateColor", "animateMotion", "animateTransform",
   "clipPath", "feBlend", "feColorMatrix", "feComponentTransfer", "feComposite",
   "feConvolveMatrix", "feDiffuseLighting", "feDisplacementMap", "feDistantLight", "feDropShadow",
   "feFlood", "feFuncA", "feFuncB", "feFuncG", "feFuncR", "feGaussianBlur", "feImage", "feMerge",
   "feMergeNode", "feMorphology", "feOffset", "fePointLight", "feSpecularLighting", "feSpotLight",
   "feTile", "feTurbulence", "foreignObject", "glyphRef", "linearGradient", "radialGradient",
   "textPath"]

def drawingAttributes : List String :=
  ["attributeName", "attributeType", "baseFrequency", "baseProfile", "calcMode", "clipPathUnits",
   "diffuseConstant", "edgeMode", "filterUnits", "glyphRef", "gradientTransform", "gradientUnits",
   "kernelMatrix", "kernelUnitLength", "keyPoints", "keySplines", "keyTimes", "lengthAdjust",
   "limitingConeAngle", "markerHeight", "markerUnits", "markerWidth", "maskContentUnits",
   "maskUnits", "numOctaves", "pathLength", "patternContentUnits", "patternTransform",
   "patternUnits", "pointsAtX", "pointsAtY", "pointsAtZ", "preserveAlpha", "preserveAspectRatio",
   "primitiveUnits", "refX", "refY", "repeatCount", "repeatDur", "requiredExtensions",
   "requiredFeatures", "specularConstant", "specularExponent", "spreadMethod", "startOffset",
   "stdDeviation", "stitchTiles", "surfaceScale", "systemLanguage", "tableValues", "targetX",
   "targetY", "textLength", "viewBox", "viewTarget", "xChannelSelector", "yChannelSelector",
   "zoomAndPan"]

/-- The name among these that differs from the given one in its capitals at most. -/
def withCapitals (names : List String) (name : String) : String :=
  match names.find? fun n => n.toLower = name with
  | some other => other
  | none => name

/-- Attributes that belong to a namespace, with their names there. -/
def spacedAttributes : List (String × String) :=
  [("xlink:actuate", "actuate"), ("xlink:arcrole", "arcrole"), ("xlink:href", "href"),
   ("xlink:role", "role"), ("xlink:show", "show"), ("xlink:title", "title"),
   ("xlink:type", "type"), ("xml:lang", "lang"), ("xml:space", "space"), ("xmlns", "xmlns"),
   ("xmlns:xlink", "xlink")]

def plainProperty (given : Attribute) : Property := ⟨given.1, given.2, true⟩

def foreignProperty (space : Space) (given : Attribute) : Property :=
  let name :=
    match space with
    | .svg => withCapitals drawingAttributes given.1
    | .mathml => if given.1 = "definitionurl" then "definitionURL" else given.1
    | .html => given.1
  match spacedAttributes.find? fun entry => entry.1 = name with
  | some (_, inSpace) => ⟨inSpace, given.2, false⟩
  | none => ⟨name, given.2, true⟩

def foreignName (space : Space) (name : String) : String :=
  match space with
  | .svg => withCapitals drawingElements name
  | _ => name

end ConsentBanner.Markup
