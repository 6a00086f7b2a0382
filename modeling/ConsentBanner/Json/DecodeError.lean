import ConsentBanner.Json.Writer
import ConsentBanner.Text.Quoted

/-!
# Why a value has the wrong shape

`DecodeError` lists the causes, `DecodeError.message` is their wording.  A found value is described
by `Found`: its kind, and its content where it is a single word.
-/

set_option autoImplicit false

namespace ConsentBanner.Json

/-- What stood where something else was expected. -/
inductive Found where
  | bool (value : Bool)
  | whole (value : Int)
  | float (value : Float)
  | string (value : String)
  | null
  | sequence
  | map
  | unitVariant
  | newtypeVariant
  | tupleVariant
  | structVariant

def Found.text : Found → String
  | .bool b => "boolean `" ++ (if b then "true" else "false") ++ "`"
  | .whole n => "integer `" ++ toString n ++ "`"
  | .float x => "floating point `" ++ Decimal.Layout.json.float x ++ "`"
  | .string s => "string " ++ Text.quoted s
  | .null => "null"
  | .sequence => "sequence"
  | .map => "map"
  | .unitVariant => "unit variant"
  | .newtypeVariant => "newtype variant"
  | .tupleVariant => "tuple variant"
  | .structVariant => "struct variant"

inductive DecodeError where
  | invalidType (found : Found) (expected : String)
  | invalidValue (found : Found) (expected : String)
  | invalidLength (length : Nat) (expected : String)
  | unknownVariant (name : String) (known : List String)
  | missingField (name : String)
  | duplicateField (name : String)
  | custom (text : String)

/-- The names of variants in an error: quoted, two joined by `or`, more listed after `one of`. -/
def alternatives : List String → String
  | [] => ""
  | [only] => "`" ++ only ++ "`"
  | [first, second] => "`" ++ first ++ "` or `" ++ second ++ "`"
  | many => "one of " ++ ", ".intercalate (many.map fun name => "`" ++ name ++ "`")

def DecodeError.message : DecodeError → String
  | .invalidType found expected => "invalid type: " ++ found.text ++ ", expected " ++ expected
  | .invalidValue found expected => "invalid value: " ++ found.text ++ ", expected " ++ expected
  | .invalidLength length expected =>
    "invalid length " ++ toString length ++ ", expected " ++ expected
  | .unknownVariant name [] => "unknown variant `" ++ name ++ "`, there are no variants"
  | .unknownVariant name known =>
    "unknown variant `" ++ name ++ "`, expected " ++ alternatives known
  | .missingField name => "missing field `" ++ name ++ "`"
  | .duplicateField name => "duplicate field `" ++ name ++ "`"
  | .custom text => text

end ConsentBanner.Json
