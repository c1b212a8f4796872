import WebhookSync.Json.Printer
import WebhookSync.Yaml.Scalar

/-!
# Structured values in block text

Items and members stand on lines of their own.  The items of an array inside an object are not
indented further than the object; the members of an object inside an array begin on the line of its
dash.
-/

namespace WebhookSync.Yaml

/-- A value that takes one line, with the end of the line. -/
def writeScalar (indent : Nat) : Json → List Char
  | .null => "null\n".toList
  | .bool value => (toString value).toList ++ ['\n']
  | .integer value => Json.writeInt value ++ ['\n']
  | .string value => writeText indent value.toList
  | .array _ => "[]\n".toList
  | .object _ => "\x7b\x7d\n".toList

mutual

/-- A value at the end of a line with a key; `level` is where the key stands. -/
def writeBehindKey (level : Nat) : Json → List Char
  | .array (item :: rest) => '\n' :: blanks level ++ writeItems level (item :: rest)
  | .object (member :: rest) =>
      '\n' :: blanks (level + 2) ++ writeMembers (level + 2) (member :: rest)
  | value => ' ' :: writeScalar (level + 2) value

/-- A value behind a dash; `level` is where the dash stands. -/
def writeBehindDash (level : Nat) : Json → List Char
  | .array (item :: rest) => ' ' :: writeItems (level + 2) (item :: rest)
  | .object (member :: rest) => ' ' :: writeMembers (level + 2) (member :: rest)
  | value => ' ' :: writeScalar (level + 2) value

/-- Items, the first of them where the line has come to. -/
def writeItems (level : Nat) : List Json → List Char
  | [] => []
  | [item] => '-' :: writeBehindDash level item
  | item :: rest => '-' :: writeBehindDash level item ++ blanks level ++ writeItems level rest

/-- Members, the first of them where the line has come to. -/
def writeMembers (level : Nat) : List (String × Json) → List Char
  | [] => []
  | [(key, value)] => key.toList ++ ':' :: writeBehindKey level value
  | (key, value) :: rest =>
      key.toList ++ ':' :: writeBehindKey level value ++ blanks level ++ writeMembers level rest

end

/-- A value as a document.  The keys of its objects have to be plain words. -/
def document : Json → String
  | .array (item :: rest) => String.ofList (writeItems 0 (item :: rest))
  | .object (member :: rest) => String.ofList (writeMembers 0 (member :: rest))
  | value => String.ofList (writeScalar 2 value)

end WebhookSync.Yaml
