import WebhookSync.Text.Digits

/-!
# Percent encoding

A character that would be misread in its place of an address is written as its UTF-8 bytes, each
behind a percent sign and in base sixteen.  Every place has its own set of characters that stand
for themselves; no character outside ASCII does.
-/

namespace WebhookSync.Url

/-- A byte behind a percent sign. -/
def encodeByte (b : UInt8) : List Char :=
  ['%', Text.hexCapital (b.toNat / 16), Text.hexCapital (b.toNat % 16)]

/-- A character, encoded unless it stands for itself. -/
def encodeChar (keeps : Char → Bool) (c : Char) : List Char :=
  if c.toNat < 0x80 && keeps c then [c] else (String.utf8EncodeChar c).flatMap encodeByte

/-- A text with its characters encoded, except those that stand for themselves. -/
def encode (keeps : Char → Bool) (text : List Char) : List Char :=
  text.flatMap (encodeChar keeps)

/-- The bytes that a text of an address stands for.  A percent sign without two digits behind it
stands for itself. -/
def decodeBytes : List Char → List UInt8
  | '%' :: high :: low :: rest =>
      match Text.hexValue? high, Text.hexValue? low with
      | some high, some low => UInt8.ofNat (high * 16 + low) :: decodeBytes rest
      | _, _ => 0x25 :: decodeBytes (high :: low :: rest)
  | c :: rest => String.utf8EncodeChar c ++ decodeBytes rest
  | [] => []

/-! ## The places of an address -/

/-- Characters other than the control characters. -/
def keepsControlFree (c : Char) : Bool :=
  0x20 ≤ c.toNat && c.toNat < 0x7F

/-- What stands for itself in a fragment. -/
def keepsInFragment (c : Char) : Bool :=
  keepsControlFree c && !(c == ' ' || c == '"' || c == '<' || c == '>' || c == '\x60')

/-- What stands for itself in a path. -/
def keepsInPath (c : Char) : Bool :=
  keepsInFragment c && !(c == '#' || c == '?' || c == '^' || c == '\x7b' || c == '\x7d')

/-- What stands for itself in a path segment of its own. -/
def keepsInSegment (special : Bool) (c : Char) : Bool :=
  keepsInPath c && !(c == '/' || c == '%' || special && c == '\\')

/-- What stands for itself in a user name and a password. -/
def keepsInUserInfo (c : Char) : Bool :=
  keepsInPath c && !(c == '/' || c == ':' || c == ';' || c == '=' || c == '@' || c == '[' ||
    c == '\\' || c == ']' || c == '|')

/-- What stands for itself in a query. -/
def keepsInQuery (special : Bool) (c : Char) : Bool :=
  keepsControlFree c && !(c == ' ' || c == '"' || c == '#' || c == '<' || c == '>' ||
    special && c == '\'')

/-- What stands for itself in the form of names and values. -/
def keepsInForm (c : Char) : Bool :=
  c.isAlphanum || c == '*' || c == '-' || c == '.' || c == '_'

/-- A name or a value in a form: blanks are written as plus signs. -/
def encodeForm (text : List Char) : List Char :=
  text.flatMap fun c => if c = ' ' then ['+'] else encodeChar keepsInForm c

end WebhookSync.Url
