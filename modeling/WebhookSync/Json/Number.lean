import WebhookSync.Json.Fault
import WebhookSync.Text.Utf8

/-!
# Numbers in structured text

A number is a whole part without superfluous zeros, an optional fraction and an optional exponent.
Whole numbers that fit 64 bits are integers; every other number, and a zero with a minus sign, is a
floating point value.  Such a value is worked out from the leading digits, as far as they fit 64
bits, by one multiplication or division with a power of ten, so its last bit can differ from that
of the nearest value.
-/

namespace WebhookSync.Json

open Text (Decoded)

/-- The value of a number. -/
inductive Number where
  | integer (value : Int)
  | float (value : Float)

/-- What a message calls the number. -/
def Number.found : Number → Found
  | integer value => .integer value
  | float value => .float value

/-- The digits at the beginning of a text, and the text behind them. -/
def takeDigits : Decoded → List Nat × Decoded
  | some c :: rest =>
      if '0' ≤ c && c ≤ '9' then
        ((c.toNat - 48) :: (takeDigits rest).1, (takeDigits rest).2)
      else ([], some c :: rest)
  | text => ([], text)

/-- The parts of a written number without its minus sign. -/
structure NumberText where
  whole : List Nat
  /-- the digits behind the point, none without a point -/
  fraction : List Nat
  /-- whether the exponent has a minus sign, and its digits -/
  exponent : Option (Bool × List Nat)

/-- At least one digit.  The fault for a missing digit at the end of the text is given. -/
def needDigits (atEnd : Fault) (text : Decoded) : Except Fault (List Nat × Decoded) :=
  match takeDigits text with
  | ([], []) => .error atEnd
  | ([], _) => .error .malformed
  | found => .ok found

/-- The exponent of a number, behind its letter. -/
def scanExponent (atEnd : Fault) (text : Decoded) : Except Fault ((Bool × List Nat) × Decoded) :=
  match text with
  | some '-' :: rest => (needDigits atEnd rest).map fun found => ((true, found.1), found.2)
  | some '+' :: rest => (needDigits atEnd rest).map fun found => ((false, found.1), found.2)
  | text => (needDigits atEnd text).map fun found => ((false, found.1), found.2)

/-- The exponent, if one follows. -/
def scanOptionalExponent (atEnd : Fault) (whole fraction : List Nat) (text : Decoded) :
    Except Fault (NumberText × Decoded) :=
  match text with
  | some 'e' :: rest | some 'E' :: rest =>
      (scanExponent atEnd rest).map fun found => (⟨whole, fraction, some found.1⟩, found.2)
  | text => .ok (⟨whole, fraction, none⟩, text)

/-- A number without its minus sign.  The fault for a missing digit at the end of the text is
given. -/
def scanNumber (atEnd : Fault) (text : Decoded) : Except Fault (NumberText × Decoded) :=
  match needDigits atEnd text with
  | .error fault => .error fault
  | .ok (0 :: _ :: _, _) => .error .malformed
  | .ok (whole, some '.' :: rest) =>
      match needDigits atEnd rest with
      | .error fault => .error fault
      | .ok (fraction, rest) => scanOptionalExponent atEnd whole fraction rest
  | .ok (whole, rest) => scanOptionalExponent atEnd whole [] rest

/-- Put digits behind a significand as long as it fits 64 bits; the number of digits that are left
over comes with it. -/
def absorb (significand : Nat) : List Nat → Nat × Nat
  | [] => (significand, 0)
  | digit :: rest =>
      if significand * 10 + digit < UInt64.size then absorb (significand * 10 + digit) rest
      else (significand, rest.length + 1)

/-- The number that a list of digits writes. -/
def ofDigits (digits : List Nat) : Nat :=
  digits.foldl (fun n digit => n * 10 + digit) 0

/-- A value times a power of ten, in steps within the range of powers.  None when the product is
out of range. -/
def scale (x : Float) (exponent : Int) : Option Float :=
  if 308 < exponent then if x == 0 then some x else none
  else if 0 ≤ exponent then
    let product := x * Decimal.toFloat 1 exponent
    if product.isInf then none else some product
  else if -308 ≤ exponent then some (x / Decimal.toFloat 1 (-exponent))
  else if x == 0 then some x
  else scale (x / Decimal.toFloat 1 308) (exponent + 308)
termination_by (-exponent).toNat
decreasing_by omega

/-- The floating point value of a significand and an exponent of ten. -/
def floatOf (negative : Bool) (significand : Nat) (exponent : Int) : Except Fault Number :=
  match scale significand.toUInt64.toFloat exponent with
  | none => .error .malformed
  | some x => .ok (.float (if negative then -x else x))

/-- The value of a written number. -/
def NumberText.value (text : NumberText) (negative : Bool) : Except Fault Number :=
  let whole := absorb 0 text.whole
  let all := absorb whole.1 text.fraction
  let places := Int.ofNat whole.2 - Int.ofNat (text.fraction.length - all.2)
  match text.exponent with
  | some (true, digits) => floatOf negative all.1 (places - ofDigits digits)
  | some (false, digits) => floatOf negative all.1 (places + ofDigits digits)
  | none =>
      if !text.fraction.isEmpty || whole.2 != 0 then floatOf negative all.1 places
      else if !negative then .ok (.integer whole.1)
      else if 0 < whole.1 && whole.1 ≤ Nat.pow 2 63 then .ok (.integer (-Int.ofNat whole.1))
      else floatOf negative whole.1 0

end WebhookSync.Json
