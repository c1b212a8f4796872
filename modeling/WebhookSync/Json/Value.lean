/-!
# Structured values

What the program prints in a structured format, and what it sends to a server, is first built as a
value of this type.  Members of an object keep the order in which they were put there.
-/

namespace WebhookSync

/-- A structured value as it is written. -/
inductive Json where
  | null
  | bool (value : Bool)
  | integer (value : Int)
  | string (value : String)
  | array (items : List Json)
  | object (members : List (String × Json))

namespace Json

/-- A list of strings. -/
def strings (values : List String) : Json :=
  .array (values.map .string)

/-- A value or the null value. -/
def optional {α : Type} (write : α → Json) : Option α → Json
  | none => .null
  | some value => write value

end Json

end WebhookSync
