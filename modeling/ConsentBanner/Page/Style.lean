import ConsentBanner.Decimal.Reading
import ConsentBanner.Text.Blank

/-!
# Inline styles

The declarations of a `style` attribute.  Of several with one property the last counts.
-/

set_option autoImplicit false

namespace ConsentBanner

/-- Properties with their values, in order. -/
structure InlineStyle where
  declarations : List (String × String)
  deriving DecidableEq, Repr

namespace InlineStyle

/-- The declaration that a part of the text stands for: a property that is not empty, in lower case,
a colon and a value, less what marks it as important. -/
def declaration? (part : List Char) : Option (String × String) :=
  match part.dropWhile (· ≠ ':') with
  | [] => none
  | _ :: value =>
    let property := (Text.trimChars (part.takeWhile (· ≠ ':'))).map Char.toLower
    let value := Text.trim (Text.trimEndMatches "!important" (String.ofList (Text.trimChars value)))
    if property.isEmpty then none else some (String.ofList property, value)

def ofText (text : String) : InlineStyle :=
  ⟨(Text.splitBy (· = ';') text.toList).filterMap declaration?⟩

def get? (style : InlineStyle) (property : String) : Option String :=
  (style.declarations.reverse.find? fun entry => entry.1 = property).map Prod.snd

/-- The number of pixels that a property is set to, with or without the unit. -/
def pixels? (style : InlineStyle) (property : String) : Option Float :=
  (style.get? property).bind fun value =>
    Decimal.readFloat? (Text.trim (Text.trimEndMatches "px" value))

end InlineStyle

end ConsentBanner
