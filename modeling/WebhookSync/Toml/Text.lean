import WebhookSync.Text.Digits

/-!
# Texts of a configuration document

Quoted texts come in four kinds: with escapes or literal, on one line or on several.  Line ends
inside a text of several lines count as one character, however they are written.
-/

namespace WebhookSync.Toml

/-- A step that takes a value from the front of a text. -/
abbrev Reader (α : Type) := List Char → Option (α × List Char)

/-- A blank inside a line. -/
def isBlank (c : Char) : Bool :=
  c == ' ' || c == '\t'

/-- A character that texts and comments can have. -/
def isTextChar (c : Char) : Bool :=
  c == '\t' || 0x20 ≤ c.toNat && c.toNat ≠ 0x7F

/-- The text behind a line end. -/
def newLine? : List Char → Option (List Char)
  | '\n' :: rest | '\r' :: '\n' :: rest => some rest
  | _ => none

/-- The character of a code point written with digits in base sixteen. -/
def codePoint? (digits : List Char) : Option Char :=
  let n := Text.ofDigits 16 digits
  if Text.hasDigits 16 digits && (n < 0xD800 || 0xDFFF < n && n ≤ 0x10FFFF) then some (Char.ofNat n)
  else none

/-- The character that a letter behind a backslash stands for. -/
def unescape? : Char → Option Char
  | 'b' => some '\x08'
  | 't' => some '\t'
  | 'n' => some '\n'
  | 'f' => some '\x0c'
  | 'r' => some '\r'
  | '"' => some '"'
  | '\\' => some '\\'
  | _ => none

/-- The text with a character in front. -/
def prepend (c : Char) (found : Option (List Char × List Char)) : Option (List Char × List Char) :=
  found.map fun found => (c :: found.1, found.2)

/-- A text with escapes on one line, behind its opening quote. -/
def basicBody : List Char → Option (List Char × List Char)
  | [] => none
  | '"' :: rest => some ([], rest)
  | '\\' :: 'u' :: a :: b :: c :: d :: rest => do
      prepend (← codePoint? [a, b, c, d]) (basicBody rest)
  | '\\' :: 'U' :: a :: b :: c :: d :: e :: f :: g :: h :: rest => do
      prepend (← codePoint? [a, b, c, d, e, f, g, h]) (basicBody rest)
  | '\\' :: letter :: rest => do prepend (← unescape? letter) (basicBody rest)
  | c :: rest => if c != '\\' && isTextChar c then prepend c (basicBody rest) else none

/-- A literal text on one line, behind its opening quote. -/
def literalBody : List Char → Option (List Char × List Char)
  | [] => none
  | '\'' :: rest => some ([], rest)
  | c :: rest => if isTextChar c then prepend c (literalBody rest) else none

/-- Whether only blanks stand in front of the next line end. -/
def endsLine (text : List Char) : Bool :=
  (newLine? (text.dropWhile isBlank)).isSome

/-- A text with escapes on several lines, behind its opening quotes.  Behind a backslash at the end
of a line, blanks and line ends are passed over; the first argument tells whether that is going
on. -/
def multiBasicBody : Bool → List Char → Option (List Char × List Char)
  | _, [] => none
  | _, '"' :: '"' :: '"' :: '"' :: '"' :: rest => some (['"', '"'], rest)
  | _, '"' :: '"' :: '"' :: '"' :: rest => some (['"'], rest)
  | _, '"' :: '"' :: '"' :: rest => some ([], rest)
  | _, '\\' :: 'u' :: a :: b :: c :: d :: rest => do
      prepend (← codePoint? [a, b, c, d]) (multiBasicBody false rest)
  | _, '\\' :: 'U' :: a :: b :: c :: d :: e :: f :: g :: h :: rest => do
      prepend (← codePoint? [a, b, c, d, e, f, g, h]) (multiBasicBody false rest)
  | _, '\\' :: c :: rest =>
      match unescape? c with
      | some found => prepend found (multiBasicBody false rest)
      | none => if endsLine (c :: rest) then multiBasicBody true (c :: rest) else none
  | skipping, '\r' :: '\n' :: rest =>
      if skipping then multiBasicBody true rest else prepend '\n' (multiBasicBody false rest)
  | skipping, c :: rest =>
      if skipping && (isBlank c || c == '\n') then multiBasicBody true rest
      else if c != '\\' && (c == '\n' || isTextChar c) then prepend c (multiBasicBody false rest)
      else none

/-- A literal text on several lines, behind its opening quotes. -/
def multiLiteralBody : List Char → Option (List Char × List Char)
  | [] => none
  | '\'' :: '\'' :: '\'' :: '\'' :: '\'' :: rest => some (['\'', '\''], rest)
  | '\'' :: '\'' :: '\'' :: '\'' :: rest => some (['\''], rest)
  | '\'' :: '\'' :: '\'' :: rest => some ([], rest)
  | '\r' :: '\n' :: rest => prepend '\n' (multiLiteralBody rest)
  | c :: rest =>
      if c == '\n' || isTextChar c then prepend c (multiLiteralBody rest) else none

/-- The text without a line end in front. -/
def dropNewLine (text : List Char) : List Char :=
  (newLine? text).getD text

/-- A quoted text on one line. -/
def quoted? : Reader (List Char)
  | '"' :: rest => basicBody rest
  | '\'' :: rest => literalBody rest
  | _ => none

/-- A quoted text of any kind. -/
def text? : Reader (List Char)
  | '"' :: '"' :: '"' :: rest => multiBasicBody false (dropNewLine rest)
  | '\'' :: '\'' :: '\'' :: rest => multiLiteralBody (dropNewLine rest)
  | text => quoted? text

end WebhookSync.Toml
