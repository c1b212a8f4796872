import WebhookSync.Decimal
import WebhookSync.Text.Quoted

/-!
# Faults of structured text

A text is at fault because it is not well formed, because it ends too early, or because a value in
it is not what is expected there.  A fault is reported where it is met, so a mismatch in front of a
malformed place wins over it.
-/

namespace WebhookSync.Json

/-- What stands in the place of an expected value. -/
inductive Found where
  | null
  | bool (value : Bool)
  | integer (value : Int)
  | float (value : Float)
  | string (value : String)
  | array
  | object

/-- The text that names a found value. -/
def Found.show : Found → String
  | null => "null"
  | bool value => "boolean `" ++ toString value ++ "`"
  | integer value => "integer `" ++ toString value ++ "`"
  | float value => "floating point `" ++ Decimal.bounded.render value ++ "`"
  | string value => "string " ++ Text.quoted value
  | array => "sequence"
  | object => "map"

/-- How a well formed value differs from what is expected. -/
inductive Mismatch where
  | wrongType (found : Found) (expected : String)
  | outOfRange (value : Int) (expected : String)
  | wrongLength (length : Nat) (expected : String)
  | missingField (name : String)
  | duplicateField (name : String)
  | unknownVariant (name : String) (known : List String)

/-- The text of a mismatch. -/
def Mismatch.message : Mismatch → String
  | wrongType found expected => "invalid type: " ++ found.show ++ ", expected " ++ expected
  | outOfRange value expected =>
      "invalid value: " ++ (Found.integer value).show ++ ", expected " ++ expected
  | wrongLength length expected =>
      "invalid length " ++ toString length ++ ", expected " ++ expected
  | missingField name => "missing field `" ++ name ++ "`"
  | duplicateField name => "duplicate field `" ++ name ++ "`"
  | unknownVariant name known =>
      "unknown variant `" ++ name ++ "`, expected one of " ++
        String.intercalate ", " (known.map fun choice => "`" ++ choice ++ "`")

/-- Why a text cannot be read. -/
inductive Fault where
  /-- the text cannot be continued to a well formed one -/
  | malformed
  /-- the text ends before the value does -/
  | truncated
  | mismatch (cause : Mismatch)

/-- The text of a fault. -/
def Fault.message : Fault → String
  | malformed => "malformed value"
  | truncated => "unexpected end of text"
  | mismatch cause => cause.message

end WebhookSync.Json
