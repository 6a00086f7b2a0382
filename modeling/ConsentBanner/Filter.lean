import ConsentBanner.Json.Decode
import ConsentBanner.Text.Blank
import ConsentBanner.Text.Lowercase

/-!
# Filters on text and style

A text filter looks for one of several needles in the text of an element, letter case aside.  A
style filter compares the computed value of one property.
-/

set_option autoImplicit false

namespace ConsentBanner

open Json (Decoder Held DecodeError)
open Json.Decode

inductive TextFilter where
  | one (needle : String)
  | anyOf (needles : List String)
  deriving DecidableEq, Repr

namespace TextFilter

/-- One of the needles occurs in the text, both in lower case. -/
def accepts (filter : TextFilter) (text : String) : Bool :=
  let lowered := Text.lower text
  match filter with
  | .one needle => Text.contains lowered (Text.lower needle)
  | .anyOf needles => needles.any fun needle => Text.contains lowered (Text.lower needle)

/-- A filter is written as one needle or as a list of them. -/
def decode : Decoder TextFilter :=
  untagged "TextFilter"
    [fun held value => (string held value).map .one,
     fun held value => (list string held value).map .anyOf]

end TextFilter

structure StyleFilter where
  property : String
  value : String
  negated : Bool
  deriving DecidableEq, Repr

namespace StyleFilter

/-- The value is the wanted one, or is not if the filter is negated.  A property without a value
has no wanted one. -/
def accepts (filter : StyleFilter) (actual : Option String) : Bool :=
  (actual == some filter.value) != filter.negated

/-- The property may be given as `property` or as `option`. -/
def decode : Decoder StyleFilter :=
  record "struct StyleFilter"
    (fun held given => do
      let negated ← memberOr given "negated" false bool held
      let first ← member? given "option" string held
      let property ← memberAgain? first "property" given "property" string held
      let value ← member? given "value" string held
      return ⟨← required "property" property, ← required "value" value, negated⟩)
    (fun held => do
      let expected := "struct StyleFilter with 3 elements"
      let property ← next expected string held
      let value ← next expected string held
      let negated ← nextOr false bool held
      return ⟨property, value, negated⟩)

end StyleFilter

end ConsentBanner
