import WebhookSync.Text.Lowercase
import WebhookSync.Text.Parts
import WebhookSync.Text.Utf8
import WebhookSync.Url.Fault
import WebhookSync.Url.Percent
import WebhookSync.Url.Punycode

/-!
# Hosts

The host of an address is a name or a number: four bytes, or eight pieces of sixteen bits between
brackets.  A name whose last label is a number has to be a number of four bytes as a whole.

Names of ASCII characters are read exactly.  For other names the tables approximate UTS 46: of its
compatibility mapping there are only the forms of different width and what has no width, characters
are not composed (NFC), and the rule for names from right to left (Bidi) is not checked.
-/

namespace WebhookSync.Url

/-- The host of an address. -/
inductive Host where
  | name (text : String)
  /-- four bytes as one number -/
  | ipv4 (address : Nat)
  /-- eight pieces of sixteen bits -/
  | ipv6 (pieces : List Nat)
deriving DecidableEq, Repr

/-! ## Four bytes -/

/-- The number of a part: in base sixteen behind `0x`, in base eight behind another zero.  No
digits at all behind these signs are a zero. -/
def ipv4Number? (part : List Char) : Option Nat :=
  match part with
  | [] => none
  | '0' :: 'x' :: digits | '0' :: 'X' :: digits =>
      if Text.hasDigits 16 digits then some (Text.ofDigits 16 digits) else none
  | '0' :: digit :: digits =>
      if Text.hasDigits 8 (digit :: digits) then some (Text.ofDigits 8 (digit :: digits)) else none
  | digits => if Text.hasDigits 10 digits then some (Text.ofDigits 10 digits) else none

/-- The parts of a name, without an empty one at the end. -/
def nameParts (name : List Char) : List (List Char) :=
  let parts := Text.splitOn '.' name
  if 1 < parts.length && parts.getLast? = some [] then parts.dropLast else parts

/-- Whether the last part of a name is a number. -/
def endsInNumber (name : List Char) : Bool :=
  match (nameParts name).getLast? with
  | none => false
  | some part => !part.isEmpty && part.all Char.isDigit || (ipv4Number? part).isSome

/-- The address that the parts of a name write: the last part fills all bytes that are left. -/
def ipv4OfParts (parts : List (List Char)) : Except Fault Nat :=
  match parts.mapM ipv4Number? with
  | none => .error .invalidIpv4
  | some numbers =>
      match numbers.reverse with
      | [] => .error .invalidIpv4
      | last :: front =>
          let room := Nat.pow 256 (4 - front.length)
          if 3 < front.length || room ≤ last || front.any (255 < ·) then .error .invalidIpv4
          else .ok (front.reverse.foldl (fun sum byte => sum * 256 + byte) 0 * room + last)

/-- Four decimal numbers with points between them. -/
def showIpv4 (address : Nat) : List Char :=
  Text.joinWith '.' ([24, 16, 8, 0].map fun shift =>
    Nat.toDigits 10 (address / Nat.pow 2 shift % 256))

/-! ## Eight pieces -/

/-- A piece of one to four digits. -/
def piece? (text : List Char) : Option Nat :=
  if !text.isEmpty && text.length ≤ 4 && Text.hasDigits 16 text then some (Text.ofDigits 16 text)
  else none

/-- A decimal byte without superfluous zeros. -/
def byte? (text : List Char) : Option Nat :=
  if !text.isEmpty && text.length ≤ 3 && Text.hasDigits 10 text &&
      (text = ['0'] || text.head? ≠ some '0') && Text.ofDigits 10 text ≤ 255 then
    some (Text.ofDigits 10 text)
  else none

/-- The last piece, or the two last ones in the form of four bytes. -/
def lastPieces? (text : List Char) : Option (List Nat) :=
  match Text.splitOn '.' text with
  | [a, b, c, d] => do
      let a ← byte? a
      let b ← byte? b
      let c ← byte? c
      let d ← byte? d
      return [a * 256 + b, c * 256 + d]
  | _ => (piece? text).map ([·])

/-- Pieces with colons between them; the last may stand for two. -/
def pieces? (last : List Char → Option (List Nat)) : List (List Char) → Option (List Nat)
  | [] => some []
  | [text] => last text
  | text :: others => do return (← piece? text) :: (← pieces? last others)

/-- The text in front of the first double colon and the text behind it. -/
def splitDouble : List Char → Option (List Char × List Char)
  | ':' :: ':' :: rest => some ([], rest)
  | c :: rest => (splitDouble rest).map fun found => (c :: found.1, found.2)
  | [] => none

/-- The eight pieces that a text writes.  A double colon stands for one or more zeros. -/
def ipv6? (text : List Char) : Option (List Nat) :=
  let groups (text : List Char) : List (List Char) :=
    if text.isEmpty then [] else Text.splitOn ':' text
  match splitDouble text with
  | none => (pieces? lastPieces? (groups text)).filter (·.length = 8)
  | some (front, back) => do
      let front ← pieces? (fun text => (piece? text).map ([·])) (groups front)
      let back ← pieces? lastPieces? (groups back)
      if front.length + back.length ≤ 7 then
        return front ++ List.replicate (8 - front.length - back.length) 0 ++ back
      else none

/-- The run of zeros at the front. -/
def zerosAtFront (pieces : List Nat) : Nat :=
  (pieces.takeWhile (· = 0)).length

/-- The first one of the longest runs of two or more zeros: where it begins and how long it is. -/
def longestZeros (pieces : List Nat) : Option (Nat × Nat) :=
  let runs := (List.range pieces.length).map fun i => (i, zerosAtFront (pieces.drop i))
  let longest := runs.foldl (fun best run => if best.2 < run.2 then run else best) (0, 0)
  if 2 ≤ longest.2 then some longest else none

/-- The pieces in base sixteen with colons between them. -/
def showPieces (pieces : List Nat) : List Char :=
  Text.joinWith ':' (pieces.map (Nat.toDigits 16))

/-- The pieces, the longest run of zeros left out. -/
def showIpv6 (pieces : List Nat) : List Char :=
  match longestZeros pieces with
  | none => showPieces pieces
  | some (start, length) =>
      showPieces (pieces.take start) ++ ':' :: ':' :: showPieces (pieces.drop (start + length))

/-- The pieces in a message: an address that stands for four bytes shows them. -/
def showIpv6InMessage (pieces : List Nat) : List Char :=
  match pieces with
  | [0, 0, 0, 0, 0, 0xFFFF, high, low] =>
      "::ffff:".toList ++ showIpv4 (high * 0x10000 + low)
  | pieces => showIpv6 pieces

/-! ## Names -/

/-- A character that no name may have. -/
def isForbidden (c : Char) : Bool :=
  c.toNat ≤ 0x20 || c.toNat = 0x7F ||
    ['#', '%', '/', ':', '<', '>', '?', '@', '[', '\\', ']', '^', '|'].contains c

/-- A character of a name in its plain form: small letters, the narrow forms of wide characters
and a point for every full stop; characters that have no width are left out.  Beyond ASCII this is
a part of the mapping of UTS 46. -/
def plainForm (c : Char) : List Char :=
  let n := c.toNat
  if n = 0xAD || n = 0x200B || n = 0x2060 || n = 0xFEFF || 0xFE00 ≤ n && n ≤ 0xFE0F then []
  else if n = 0x3002 || n = 0xFF61 then ['.']
  else if 0xFF01 ≤ n && n ≤ 0xFF5E then Text.lowerChars (Char.ofNat (n - 0xFEE0))
  else Text.lowerChars c

/-- Closed ranges of characters beyond ASCII that no label may have: controls, blanks, joiners,
marks of direction, characters of private use and those that stand for no text at all. -/
def speechlessRanges : List (Nat × Nat) :=
  [(0x80, 0xA0), (0x1680, 0x1680), (0x2000, 0x200A), (0x200C, 0x200F), (0x2028, 0x202F),
   (0x205F, 0x205F), (0x2061, 0x2063), (0x2066, 0x206F), (0x3000, 0x3000), (0xE000, 0xF8FF),
   (0xFFF9, 0xFFFF), (0xE0000, 0xE00FF), (0xE01F0, 0x10FFFF)]

/-- Whether a label beyond ASCII has only characters that a label may have, in their plain form,
and does not begin with an accent.  UTS 46 asks for more, such as composed characters. -/
def isSpeakable (label : List Char) : Bool :=
  label.all (fun c => plainForm c = [c] && !Text.inRanges speechlessRanges c.toNat) &&
    (label.head?.all fun c => !Text.inRanges [(0x300, 0x36F)] c.toNat)

/-- The written form of a label, if it is well formed. -/
def asciiLabel? (label : List Char) : Option (List Char) :=
  let isAscii (label : List Char) : Bool := label.all fun c => c.toNat < 0x80
  match label with
  | 'x' :: 'n' :: '-' :: '-' :: written => do
      let decoded ← Punycode.decode written
      if !isAscii decoded && isSpeakable decoded && Punycode.encode decoded = written then
        return label
      else none
  | label =>
      if isAscii label then some label
      else if isSpeakable label then some ('x' :: 'n' :: '-' :: '-' :: Punycode.encode label)
      else none

/-- The ASCII form of a name that is given by its bytes. -/
def asciiName? (bytes : List UInt8) : Option (List Char) := do
  let text ← (Text.decode bytes).mapM id
  let labels ← (Text.splitOn '.' (text.flatMap plainForm)).mapM asciiLabel?
  let name := Text.joinWith '.' labels
  if name.any isForbidden then none else return name

/-! ## Reading and writing -/

/-- An address between brackets. -/
def bracketed? (text : List Char) : Option (Except Fault Host) :=
  match text with
  | '[' :: rest =>
      if rest.getLast? = some ']' then
        match ipv6? rest.dropLast with
        | some pieces => some (.ok (.ipv6 pieces))
        | none => some (.error .invalidIpv6)
      else some (.error .invalidIpv6)
  | _ => none

/-- The host of an address with a special scheme. -/
def Host.parse (text : List Char) : Except Fault Host :=
  match bracketed? text with
  | some result => result
  | none =>
      match asciiName? (decodeBytes text) with
      | none => .error .invalidInternationalName
      | some [] => .error .emptyHost
      | some ascii =>
          if endsInNumber ascii then (ipv4OfParts (nameParts ascii)).map .ipv4
          else .ok (.name (String.ofList ascii))

/-- A character that no host may have. -/
def isForbiddenInHost (c : Char) : Bool :=
  ['\x00', '\t', '\n', '\r', ' ', '#', '/', ':', '<', '>', '?', '@', '[', '\\', ']', '^',
    '|'].contains c

/-- The host of an address with any other scheme; it is not looked into. -/
def Host.parseOpaque (text : List Char) : Except Fault Host :=
  match bracketed? text with
  | some result => result
  | none =>
      if text.any isForbiddenInHost then .error .invalidHostCharacter
      else .ok (.name (String.ofList (encode keepsControlFree text)))

/-- The host as a part of an address. -/
def Host.write : Host → List Char
  | name text => text.toList
  | ipv4 address => showIpv4 address
  | ipv6 pieces => '[' :: showIpv6 pieces ++ [']']

end WebhookSync.Url
