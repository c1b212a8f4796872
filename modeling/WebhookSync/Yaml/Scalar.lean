import WebhookSync.Decimal
import WebhookSync.Text.Digits

/-!
# Scalars of block text

A text is written in one of four styles: plain, between single quotes, between double quotes with
escapes, or literally on lines of its own.  A text that would be read back as something else than a
text is never plain, and a style is used only where the text comes back unchanged from it.
-/

namespace WebhookSync.Yaml

/-! ## Texts that look like other values -/

/-- A zero at the front of further digits, which no number has. -/
def hasLeadingZero (text : List Char) : Bool :=
  match text with
  | '0' :: digit :: rest => (digit :: rest).all Char.isDigit
  | _ => false

/-- The text without a sign in front. -/
def dropSign : List Char → List Char
  | '-' :: rest | '+' :: rest => rest
  | text => text

/-- Whether a text has digits of a base, at least one, and as a number is at most the bound. -/
def isNumeral (base bound : Nat) (digits : List Char) : Bool :=
  !digits.isEmpty && Text.hasDigits base digits && Text.ofDigits base digits ≤ bound

/-- Whether a text without a sign is an integer of one of the bases. -/
def isMagnitude (bound : Nat) : List Char → Bool
  | '0' :: 'x' :: digits => isNumeral 16 bound digits
  | '0' :: 'o' :: digits => isNumeral 8 bound digits
  | '0' :: 'b' :: digits => isNumeral 2 bound digits
  | digits => isNumeral 10 bound digits

/-- Whether a text is read as an integer of 128 bits. -/
def looksLikeInteger : List Char → Bool
  | '-' :: rest => isMagnitude (Nat.pow 2 127) rest
  | '+' :: rest => isMagnitude (Nat.pow 2 128 - 1) rest
  | text => isMagnitude (Nat.pow 2 128 - 1) text

/-- The exponent that a text writes, with an optional sign. -/
def exponent? (text : List Char) : Option Int :=
  let digits := dropSign text
  if digits.isEmpty || !digits.all Char.isDigit then none
  else
    let n := Int.ofNat (Text.ofDigits 10 digits)
    some (if text.head? = some '-' then -n else n)

/-- The finite number that digits, an optional fraction and an optional exponent write. -/
def finite? (text : List Char) : Option Float := do
  let isMark (c : Char) : Bool := c == 'e' || c == 'E'
  let mantissa := text.takeWhile fun c => !isMark c
  let exponent ← match text.dropWhile fun c => !isMark c with
    | [] => some 0
    | _ :: rest => exponent? rest
  let whole := mantissa.takeWhile (· != '.')
  let fraction := (mantissa.dropWhile (· != '.')).drop 1
  let digits := whole ++ fraction
  if digits.isEmpty || !digits.all Char.isDigit then none
  else
    let value := Decimal.toFloat (Text.ofDigits 10 digits) (exponent - fraction.length)
    if value.isInf then none else some value

/-- Whether a text is read as a floating point value. -/
def looksLikeFloat (text : List Char) : Bool :=
  let positive := if text.head? = some '+' then text.drop 1 else text
  [".inf", ".Inf", ".INF"].contains (String.ofList positive) ||
    ["-.inf", "-.Inf", "-.INF", ".nan", ".NaN", ".NAN"].contains (String.ofList text) ||
    (finite? (dropSign text)).isSome

/-- Whether a text would be read back as something else, or looks like a number that it is not. -/
def isAmbiguous (text : List Char) : Bool :=
  ["", "~", "null", "Null", "NULL", "true", "True", "TRUE", "false", "False", "FALSE"].contains
      (String.ofList text) ||
    looksLikeInteger text || looksLikeFloat text || hasLeadingZero (dropSign text)

/-! ## Styles -/

/-- A character that ends a line. -/
def isBreak (c : Char) : Bool :=
  c == '\n' || c == '\r' || c == '\u0085' || c == '\u2028' || c == '\u2029'

/-- A character between two words or lines. -/
def isGap (c : Char) : Bool :=
  c == ' ' || c == '\t' || c == '\x00' || isBreak c

/-- A character that can stand for itself. -/
def isPrintable (c : Char) : Bool :=
  let n := c.toNat
  n = 0x0A || 0x20 ≤ n && n ≤ 0x7E || 0xA0 ≤ n && n ≠ 0xFEFF && n ≠ 0xFFFE && n ≠ 0xFFFF

/-- Whether two characters of the given kinds follow each other somewhere. -/
def hasPair (first second : Char → Bool) : List Char → Bool
  | a :: b :: rest => first a && second b || hasPair first second (b :: rest)
  | _ => false

/-- Whether a gap or the end follows. -/
def gapFollows : List Char → Bool
  | [] => true
  | c :: _ => isGap c

/-- A character that means something at the beginning of a scalar. -/
def isIndicator (c : Char) : Bool :=
  ['#', ',', '[', ']', '\x7b', '\x7d', '&', '*', '!', '|', '>', '\'', '"', '%', '@',
    '\x60'].contains c

/-- Whether a colon in front of a gap, or a hash sign behind one, occurs behind the first
character. -/
def hasInnerIndicator (text : List Char) : Bool :=
  hasPair isGap (· == '#') text || hasPair (· == ':') isGap text ||
    (1 < text.length && text.getLast? = some ':')

/-- Whether a part of the text would be taken for punctuation. -/
def hasIndicators (text : List Char) : Bool :=
  match text with
  | [] => false
  | first :: rest =>
      ['-', '-', '-'].isPrefixOf text || ['.', '.', '.'].isPrefixOf text || isIndicator first ||
        (first == '?' || first == ':' || first == '-') && gapFollows rest || hasInnerIndicator text

/-- How a scalar is written. -/
inductive Style where
  | plain
  | singleQuoted
  | doubleQuoted
  | literal
deriving DecidableEq, Repr

/-- Whether single quotes give the text back: every character stands for itself, and no blank
stands at the end of a line or behind it. -/
def allowsSingle (text : List Char) : Bool :=
  text.all isPrintable && !hasPair (· == ' ') isBreak text && !hasPair isBreak (· == ' ') text

/-- Whether a plain scalar gives the text back. -/
def allowsPlain (text : List Char) : Bool :=
  allowsSingle text && !text.any isBreak && !hasIndicators text && text.head? ≠ some ' ' &&
    text.getLast? ≠ some ' '

/-- Whether the literal style gives the text back. -/
def allowsLiteral (text : List Char) : Bool :=
  !text.isEmpty && text.all isPrintable && !hasPair (· == ' ') isBreak text &&
    text.getLast? ≠ some ' '

/-- The style of a text.  A text of several lines is literal where that can be. -/
def styleOf (text : List Char) : Style :=
  if text.contains '\n' then
    if allowsLiteral text then .literal else .doubleQuoted
  else if !isAmbiguous text && allowsPlain text then .plain
  else if allowsSingle text then .singleQuoted
  else .doubleQuoted

/-! ## Writing -/

/-- A number of blanks. -/
def blanks (n : Nat) : List Char :=
  List.replicate n ' '

/-- The characters with blanks in front of each line but those without characters.  The first
argument tells whether a line begins. -/
def indentLines (indent : Nat) (double : Char → List Char) : Bool → List Char → List Char
  | _, [] => []
  | atStart, c :: rest =>
      if isBreak c then c :: indentLines indent double true rest
      else (if atStart then blanks indent else []) ++ double c ++
        indentLines indent double false rest

/-- Digits in base sixteen, in upper case, of a fixed number. -/
def hexDigits (width n : Nat) : List Char :=
  (List.range width).reverse.map fun i => Text.hexCapital (n / Nat.pow 16 i % 16)

/-- A character that cannot stand for itself between double quotes. -/
def escape (c : Char) : List Char :=
  let n := c.toNat
  '\\' ::
    if n = 0x00 then ['0']
    else if n = 0x07 then ['a']
    else if n = 0x08 then ['b']
    else if n = 0x09 then ['t']
    else if n = 0x0A then ['n']
    else if n = 0x0B then ['v']
    else if n = 0x0C then ['f']
    else if n = 0x0D then ['r']
    else if n = 0x1B then ['e']
    else if n = 0x22 then ['"']
    else if n = 0x5C then ['\\']
    else if n = 0x85 then ['N']
    else if n = 0x2028 then ['L']
    else if n = 0x2029 then ['P']
    else if n ≤ 0xFF then 'x' :: hexDigits 2 n
    else 'u' :: hexDigits 4 n

/-- A character between double quotes. -/
def doubleQuotedChar (c : Char) : List Char :=
  if isPrintable c && !isBreak c && c != '"' && c != '\\' then [c] else escape c

/-- The text between double quotes. -/
def doubleQuoted (text : List Char) : List Char :=
  '"' :: text.flatMap doubleQuotedChar ++ ['"']

/-- The text between single quotes; a quote is written twice. -/
def singleQuoted (indent : Nat) (text : List Char) : List Char :=
  let double (c : Char) : List Char := if c = '\'' then ['\'', '\''] else [c]
  let ending := if (text.getLast?.map isBreak).getD false then blanks indent else []
  '\'' :: indentLines indent double false text ++ ending ++ ['\'']

/-- What follows the sign of a literal text: the indentation, where the text begins with a blank,
and what its end is. -/
def literalHints (text : List Char) : List Char :=
  let begins := match text with
    | c :: _ => if c == ' ' || isBreak c then ['2'] else []
    | [] => []
  let ends := match text.reverse with
    | last :: before =>
        if !isBreak last then ['-']
        else
          match before with
          | [] => ['+']
          | c :: _ => if isBreak c then ['+'] else []
    | [] => ['-']
  begins ++ ends

/-- The text on lines of its own. -/
def literal (indent : Nat) (text : List Char) : List Char :=
  '|' :: literalHints text ++ '\n' :: indentLines indent (fun c => [c]) true text

/-- A text as a scalar with the end of its line. -/
def writeText (indent : Nat) (text : List Char) : List Char :=
  match styleOf text with
  | .plain => text ++ ['\n']
  | .singleQuoted => singleQuoted indent text ++ ['\n']
  | .doubleQuoted => doubleQuoted text ++ ['\n']
  | .literal =>
      literal indent text ++ if (text.getLast?.map isBreak).getD false then [] else ['\n']

end WebhookSync.Yaml
