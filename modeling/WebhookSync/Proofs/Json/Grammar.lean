import WebhookSync.Json.Printer

/-!
# Structured text as it may be written

The written form of a value is not unique: there may be blanks between its words, and a character of
a string may be escaped in several ways.  `Spells` tells which texts stand for a value.  It is about
text alone; what a reader makes of such a text is another matter.
-/

namespace WebhookSync.Json

/-- A value that a text stands for.  Numbers are kept as they are written. -/
inductive Document where
  | null
  | bool (value : Bool)
  | number (numeral : List Char)
  | string (value : String)
  | array (items : List Document)
  | object (members : List (String × Document))

/-! ## Words -/

/-- The characters that may stand between words. -/
def blanks : List Char :=
  [' ', '\n', '\t', '\r']

/-- There is nothing but blanks. -/
def IsBlank (text : List Char) : Prop :=
  ∀ c ∈ text, c ∈ blanks

/-- At least one digit. -/
def IsDigits (text : List Char) : Prop :=
  text ≠ [] ∧ ∀ c ∈ text, c.isDigit = true

/-- A whole number without superfluous zeros. -/
def IsWhole (text : List Char) : Prop :=
  IsDigits text ∧ (text.head? = some '0' → text = ['0'])

/-- The part of a number behind its point, with the point. -/
inductive IsFraction : List Char → Prop where
  | absent : IsFraction []
  | digits {text : List Char} (isDigits : IsDigits text) : IsFraction ('.' :: text)

/-- The exponent of a number, with its letter. -/
inductive IsExponent : List Char → Prop where
  | absent : IsExponent []
  | digits {letter : Char} {sign text : List Char} (isLetter : letter = 'e' ∨ letter = 'E')
      (isSign : sign = [] ∨ sign = ['+'] ∨ sign = ['-']) (isDigits : IsDigits text) :
      IsExponent (letter :: (sign ++ text))

/-- A number without a sign. -/
inductive IsUnsigned : List Char → Prop where
  | parts {whole fraction exponent : List Char} (isWhole : IsWhole whole)
      (isFraction : IsFraction fraction) (isExponent : IsExponent exponent) :
      IsUnsigned (whole ++ (fraction ++ exponent))

/-- A number. -/
inductive IsNumber : List Char → Prop where
  | positive {text : List Char} (isUnsigned : IsUnsigned text) : IsNumber text
  | negative {text : List Char} (isUnsigned : IsUnsigned text) : IsNumber ('-' :: text)

/-! ## Strings -/

/-- Letters that stand behind a backslash, and the characters that they stand for. -/
def escapes : List (Char × Char) :=
  [('"', '"'), ('\\', '\\'), ('/', '/'), ('b', '\x08'), ('f', '\x0c'), ('n', '\n'), ('r', '\r'),
    ('t', '\t')]

/-- The digits of base sixteen. -/
def hexDigits : List Char :=
  ['0', '1', '2', '3', '4', '5', '6', '7', '8', '9', 'a', 'b', 'c', 'd', 'e', 'f']

/-- A digit of base sixteen, in either case. -/
def IsHexDigit (value : Nat) (c : Char) : Prop :=
  hexDigits[value]? = some c.toLower

/-- Sixteen bits, written with four digits. -/
inductive SpellsUnit : Nat → List Char → Prop where
  | digits {p q r s : Nat} {a b c d : Char} (first : IsHexDigit p a) (second : IsHexDigit q b)
      (third : IsHexDigit r c) (fourth : IsHexDigit s d) :
      SpellsUnit (((p * 16 + q) * 16 + r) * 16 + s) ['\\', 'u', a, b, c, d]

/-- The text between the quotes of a string. -/
inductive SpellsChars : List Char → List Char → Prop where
  | nil : SpellsChars [] []
  | plain {c : Char} {chars text : List Char} (printable : ' ' ≤ c) (notQuote : c ≠ '"')
      (notBackslash : c ≠ '\\') (rest : SpellsChars chars text) :
      SpellsChars (c :: chars) (c :: text)
  | escape {c letter : Char} {chars text : List Char} (known : (letter, c) ∈ escapes)
      (rest : SpellsChars chars text) : SpellsChars (c :: chars) ('\\' :: letter :: text)
  | unit {c : Char} {chars unit text : List Char} (isUnit : SpellsUnit c.toNat unit)
      (rest : SpellsChars chars text) : SpellsChars (c :: chars) (unit ++ text)
  /-- a character beyond U+FFFF, by two units -/
  | pair {c : Char} {chars high low text : List Char} (beyond : 0x10000 ≤ c.toNat)
      (isHigh : SpellsUnit (0xD800 + (c.toNat - 0x10000) / 0x400) high)
      (isLow : SpellsUnit (0xDC00 + (c.toNat - 0x10000) % 0x400) low)
      (rest : SpellsChars chars text) : SpellsChars (c :: chars) (high ++ (low ++ text))

/-! ## Values -/

section Series

variable {α : Type} (spells : α → List Char → Prop) (close : Char)

/-- Parts with commas between them and blanks around each, up to the closing bracket. -/
inductive SeriesFrom : List α → List Char → Prop where
  | last {part : α} {before text after : List Char} (blankBefore : IsBlank before)
      (spelled : spells part text) (blankAfter : IsBlank after) :
      SeriesFrom [part] (before ++ (text ++ (after ++ [close])))
  | next {part : α} {parts : List α} {before text after more : List Char}
      (blankBefore : IsBlank before) (spelled : spells part text) (blankAfter : IsBlank after)
      (onward : SeriesFrom parts more) :
      SeriesFrom (part :: parts) (before ++ (text ++ (after ++ ',' :: more)))

/-- Any number of parts, behind the opening bracket. -/
inductive Series : List α → List Char → Prop where
  | none {blank : List Char} (isBlank : IsBlank blank) : Series [] (blank ++ [close])
  | some {parts : List α} {text : List Char} (series : SeriesFrom spells close parts text) :
      Series parts text

/-- A key, a colon and a value, with blanks around the colon. -/
inductive Member : String × α → List Char → Prop where
  | pair {key : String} {value : α} {chars before after text : List Char}
      (spelledKey : SpellsChars key.toList chars) (blankBefore : IsBlank before)
      (blankAfter : IsBlank after) (spelled : spells value text) :
      Member (key, value) ('"' :: (chars ++ '"' :: (before ++ ':' :: (after ++ text))))

end Series

/-- The text stands for the value. -/
inductive Spells : Document → List Char → Prop where
  | null : Spells .null ['n', 'u', 'l', 'l']
  | yes : Spells (.bool true) ['t', 'r', 'u', 'e']
  | no : Spells (.bool false) ['f', 'a', 'l', 's', 'e']
  | number {numeral : List Char} (isNumber : IsNumber numeral) : Spells (.number numeral) numeral
  | string {value : String} {chars : List Char} (spelled : SpellsChars value.toList chars) :
      Spells (.string value) ('"' :: (chars ++ ['"']))
  | array {items : List Document} {text : List Char} (spelled : Series Spells ']' items text) :
      Spells (.array items) ('[' :: text)
  | object {members : List (String × Document)} {text : List Char}
      (spelled : Series (Member Spells) '}' members text) : Spells (.object members) ('{' :: text)

/-- The text stands for the value, with blanks around it. -/
def SpellsWhole (document : Document) (text : String) : Prop :=
  ∃ before middle after, text.toList = before ++ middle ++ after ∧ IsBlank before ∧
    IsBlank after ∧ Spells document middle

end WebhookSync.Json
