import WebhookSync.Json.Value
import WebhookSync.Text.Digits

/-!
# Written structured values

The two layouts of a structured value: compact, without any blank, and indented by two blanks a
level.  In both, a string is written between quotes; a quote, a backslash and the control
characters below U+0020 are escaped, every other character stands for itself.
-/

namespace WebhookSync.Json

/-- The letter that stands for a character behind a backslash. -/
def shortEscape? : Char → Option Char
  | '"' => some '"'
  | '\\' => some '\\'
  | '\x08' => some 'b'
  | '\x0c' => some 'f'
  | '\n' => some 'n'
  | '\r' => some 'r'
  | '\t' => some 't'
  | _ => none

/-- A character inside a string. -/
def escapeChar (c : Char) : List Char :=
  match shortEscape? c with
  | some letter => ['\\', letter]
  | none =>
      if c.toNat < 0x20 then
        ['\\', 'u', '0', '0', Text.hexDigit (c.toNat / 16), Text.hexDigit (c.toNat % 16)]
      else [c]

/-- A string between quotes. -/
def quote (value : String) : List Char :=
  '"' :: value.toList.flatMap escapeChar ++ ['"']

/-- An integer in base ten, with a sign in front of a negative one. -/
def writeInt (n : Int) : List Char :=
  if n < 0 then '-' :: Nat.toDigits 10 n.natAbs else Nat.toDigits 10 n.natAbs

mutual

/-- The compact layout. -/
def compactChars : Json → List Char
  | .null => ['n', 'u', 'l', 'l']
  | .bool true => ['t', 'r', 'u', 'e']
  | .bool false => ['f', 'a', 'l', 's', 'e']
  | .integer n => writeInt n
  | .string s => quote s
  | .array items => '[' :: compactItems items ++ [']']
  | .object members => '{' :: compactMembers members ++ ['}']

/-- Items with commas between them. -/
def compactItems : List Json → List Char
  | [] => []
  | [item] => compactChars item
  | item :: rest => compactChars item ++ ',' :: compactItems rest

/-- Members with commas between them. -/
def compactMembers : List (String × Json) → List Char
  | [] => []
  | [(key, value)] => quote key ++ ':' :: compactChars value
  | (key, value) :: rest => quote key ++ ':' :: compactChars value ++ ',' :: compactMembers rest

end

/-- The value in the compact layout. -/
def compact (value : Json) : String :=
  String.ofList (compactChars value)

/-- A new line at a level of nesting. -/
def newLine (level : Nat) : List Char :=
  '\n' :: List.replicate (2 * level) ' '

mutual

/-- The indented layout of a value that stands at a level of nesting.  Empty arrays and objects
stay on one line. -/
def prettyChars (level : Nat) : Json → List Char
  | .null => ['n', 'u', 'l', 'l']
  | .bool true => ['t', 'r', 'u', 'e']
  | .bool false => ['f', 'a', 'l', 's', 'e']
  | .integer n => writeInt n
  | .string s => quote s
  | .array [] => ['[', ']']
  | .array (item :: rest) =>
      '[' :: newLine (level + 1) ++ prettyItems (level + 1) (item :: rest) ++ newLine level ++ [']']
  | .object [] => ['{', '}']
  | .object (member :: rest) =>
      '{' :: newLine (level + 1) ++ prettyMembers (level + 1) (member :: rest) ++
        newLine level ++ ['}']

/-- Items on lines of their own. -/
def prettyItems (level : Nat) : List Json → List Char
  | [] => []
  | [item] => prettyChars level item
  | item :: rest => prettyChars level item ++ ',' :: newLine level ++ prettyItems level rest

/-- Members on lines of their own. -/
def prettyMembers (level : Nat) : List (String × Json) → List Char
  | [] => []
  | [(key, value)] => quote key ++ ':' :: ' ' :: prettyChars level value
  | (key, value) :: rest =>
      quote key ++ ':' :: ' ' :: prettyChars level value ++ ',' :: newLine level ++
        prettyMembers level rest

end

/-- The value in the indented layout. -/
def pretty (value : Json) : String :=
  String.ofList (prettyChars 0 value)

end WebhookSync.Json
