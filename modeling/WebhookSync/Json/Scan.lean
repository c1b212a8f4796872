import WebhookSync.Json.Number
import WebhookSync.Text.Digits

/-!
# Scanning structured text

The words of structured text and the way in which they nest.  Strings and numbers come in two
strengths: a value that is kept must have a meaning, one that is passed over need only be well
formed (`skip`).
-/

namespace WebhookSync.Json

open Text (Decoded)

/-- A step that takes a value from the front of a text. -/
abbrev Reader (α : Type) := Decoded → Except Fault (α × Decoded)

/-- The text without the blanks in front. -/
def skipBlank : Decoded → Decoded
  | some c :: rest =>
      if c == ' ' || c == '\n' || c == '\t' || c == '\r' then skipBlank rest else some c :: rest
  | text => text

/-- The rest of a word, given by its characters. -/
def word : List Char → Reader Unit
  | [], text => .ok ((), text)
  | _ :: _, [] => .error .truncated
  | expected :: more, found :: rest =>
      if found = some expected then word more rest else .error .malformed

/-! ## Strings -/

/-- A piece of a string. -/
inductive Piece where
  | char (c : Char)
  /-- bytes that hold no character -/
  | gap
  /-- a sixteen-bit unit, written with four digits in base sixteen -/
  | unit (value : Nat)

/-- The value of four digits in base sixteen. -/
def fourDigits? (a b c d : Option Char) : Option Nat := do
  let a ← Text.hexValue? (← a)
  let b ← Text.hexValue? (← b)
  let c ← Text.hexValue? (← c)
  let d ← Text.hexValue? (← d)
  return ((a * 16 + b) * 16 + c) * 16 + d

/-- The character that a letter behind a backslash stands for. -/
def unescape? : Char → Option Char
  | '"' => some '"'
  | '\\' => some '\\'
  | '/' => some '/'
  | 'b' => some '\x08'
  | 'f' => some '\x0c'
  | 'n' => some '\n'
  | 'r' => some '\r'
  | 't' => some '\t'
  | _ => none

/-- How many bytes a text takes up, a gap counted as one. -/
def byteCount (text : Decoded) : Nat :=
  text.foldl (fun count c => count + (c.map Char.utf8Size).getD 1) 0

/-- The pieces of a string up to its closing quote or its first fault, and the text behind the
quote or the fault. -/
def scanString : Decoded → List Piece × Except Fault Decoded
  | [] => ([], .error .truncated)
  | none :: rest =>
      let found := scanString rest
      (.gap :: found.1, found.2)
  | some c :: rest =>
      if c = '"' then ([], .ok rest)
      else if c = '\\' then
        match rest with
        | [] => ([], .error .truncated)
        | some 'u' :: a :: b :: c :: d :: rest =>
            match fourDigits? a b c d with
            | some value =>
                let found := scanString rest
                (.unit value :: found.1, found.2)
            | none => ([], .error .malformed)
        | some 'u' :: rest =>
            ([], .error (if byteCount rest < 4 then .truncated else .malformed))
        | some letter :: rest =>
            match unescape? letter with
            | some c =>
                let found := scanString rest
                (.char c :: found.1, found.2)
            | none => ([], .error .malformed)
        | none :: _ => ([], .error .malformed)
      else if c < ' ' then ([], .error .malformed)
      else
        let found := scanString rest
        (.char c :: found.1, found.2)

/-- The characters of pieces, with the units of a pair joined.  Gaps are kept; of a unit that has
no partner, the fault depends on what ended the pieces. -/
def joinPieces (ending : Except Fault Decoded) : List Piece → Except Fault Decoded
  | [] => ending.map fun _ => []
  | .char c :: rest => (joinPieces ending rest).map (some c :: ·)
  | .gap :: rest => (joinPieces ending rest).map (none :: ·)
  | .unit first :: rest =>
      if first < 0xD800 || 0xDFFF < first then
        (joinPieces ending rest).map (some (Char.ofNat first) :: ·)
      else if 0xDC00 ≤ first then .error .malformed
      else
        match rest with
        | .unit second :: rest =>
            if 0xDC00 ≤ second && second ≤ 0xDFFF then
              let code := 0x10000 + (first - 0xD800) * 0x400 + (second - 0xDC00)
              (joinPieces ending rest).map (some (Char.ofNat code) :: ·)
            else .error .malformed
        | [] =>
            match ending with
            | .error fault => .error fault
            | .ok _ => .error .malformed
        | _ :: _ => .error .malformed

/-- The characters without gaps, if there are no gaps. -/
def gapless? : Decoded → Option (List Char)
  | [] => some []
  | none :: _ => none
  | some c :: rest => (gapless? rest).map (c :: ·)

/-- The content of a string, behind its opening quote. -/
def stringBody : Reader String := fun text =>
  let found := scanString text
  match joinPieces found.2 found.1, found.2 with
  | .error fault, _ | _, .error fault => .error fault
  | .ok chars, .ok rest =>
      match gapless? chars with
      | some chars => .ok (String.ofList chars, rest)
      | none => .error .malformed

/-- Pass over the content of a string. -/
def skipString : Reader Unit := fun text =>
  (scanString text).2.map fun rest => ((), rest)

/-- A number whose first digit, or whose minus sign, comes next. -/
def number : Reader Number
  | some '-' :: rest => do
      let (written, rest) ← scanNumber .truncated rest
      return (← written.value true, rest)
  | text => do
      let (written, rest) ← scanNumber .truncated text
      return (← written.value false, rest)

/-! ## Nesting -/

/-- Items from one that must come next to the closing bracket.  The bound is at least the number
of items. -/
def itemsFrom {α : Type} (item : Reader α) : Nat → Reader (List α)
  | 0, _ => .error .truncated
  | bound + 1, text => do
      let (first, text) ← item text
      match skipBlank text with
      | [] => .error .truncated
      | some ']' :: rest => return ([first], rest)
      | some ',' :: rest => do
          let (others, rest) ← itemsFrom item bound rest
          return (first :: others, rest)
      | _ :: _ => .error .malformed

/-- The items of an array, behind its opening bracket. -/
def items {α : Type} (item : Reader α) : Reader (List α) := fun text =>
  match skipBlank text with
  | [] => .error .truncated
  | some ']' :: rest => .ok ([], rest)
  | text => itemsFrom item text.length text

/-- The quoted key of a member and the colon behind it. -/
def memberKey {κ : Type} (key : Reader κ) : Reader κ := fun text =>
  match skipBlank text with
  | [] => .error .truncated
  | some '"' :: rest => do
      let (found, rest) ← key rest
      match skipBlank rest with
      | [] => .error .truncated
      | some ':' :: rest => return (found, rest)
      | _ :: _ => .error .malformed
  | _ :: _ => .error .malformed

/-- Members from one that must come next to the closing brace.  Each member carries on a state;
the bound is at least the number of members. -/
def membersFrom {κ σ : Type} (key : Reader κ) (member : σ → κ → Reader σ) :
    Nat → σ → Reader σ
  | 0, _, _ => .error .truncated
  | bound + 1, state, text => do
      let (found, text) ← memberKey key text
      let (state, text) ← member state found text
      match skipBlank text with
      | [] => .error .truncated
      | some '}' :: rest => return (state, rest)
      | some ',' :: rest => membersFrom key member bound state rest
      | _ :: _ => .error .malformed

/-- The members of an object, behind its opening brace. -/
def members {κ σ : Type} (key : Reader κ) (member : σ → κ → Reader σ) (start : σ) : Reader σ :=
  fun text =>
    match skipBlank text with
    | [] => .error .truncated
    | some '}' :: rest => .ok (start, rest)
    | text => membersFrom key member text.length start text

/-- Pass over a value that is nested no deeper than the bound. -/
def skipNested : Nat → Reader Unit
  | 0, _ => .error .truncated
  | bound + 1, text =>
      match skipBlank text with
      | [] => .error .truncated
      | some 'n' :: rest => word ['u', 'l', 'l'] rest
      | some 't' :: rest => word ['r', 'u', 'e'] rest
      | some 'f' :: rest => word ['a', 'l', 's', 'e'] rest
      | some '"' :: rest => skipString rest
      | some '-' :: rest => (scanNumber .malformed rest).map fun found => ((), found.2)
      | some '[' :: rest => (items (skipNested bound) rest).map fun found => ((), found.2)
      | some '{' :: rest => members skipString (fun _ _ => skipNested bound) () rest
      | some c :: rest =>
          if '0' ≤ c && c ≤ '9' then
            (scanNumber .malformed (some c :: rest)).map fun found => ((), found.2)
          else .error .malformed
      | none :: _ => .error .malformed

/-- Pass over a value. -/
def skip : Reader Unit := fun text =>
  skipNested (text.length + 1) text

/-- What value comes next.  An array or an object is known by its opening bracket. -/
def found (text : Decoded) : Except Fault Found :=
  match skipBlank text with
  | [] => .error .truncated
  | some 'n' :: rest => (word ['u', 'l', 'l'] rest).map fun _ => .null
  | some 't' :: rest => (word ['r', 'u', 'e'] rest).map fun _ => .bool true
  | some 'f' :: rest => (word ['a', 'l', 's', 'e'] rest).map fun _ => .bool false
  | some '"' :: rest => (stringBody rest).map fun result => .string result.1
  | some '[' :: _ => .ok .array
  | some '{' :: _ => .ok .object
  | some c :: rest =>
      if c == '-' || '0' ≤ c && c ≤ '9' then
        (number (some c :: rest)).map fun result => result.1.found
      else .error .malformed
  | none :: _ => .error .malformed

/-- The fault of a value that is not what is expected. -/
def unexpected (expected : String) (text : Decoded) : Fault :=
  match found text with
  | .error fault => fault
  | .ok value => .mismatch (.wrongType value expected)

end WebhookSync.Json
