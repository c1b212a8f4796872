/-!
# Digits

Numbers written in a base of at most sixteen, with letters in either case.
-/

namespace WebhookSync.Text

/-- The value of a digit in base sixteen. -/
def hexValue? (c : Char) : Option Nat :=
  if '0' ≤ c && c ≤ '9' then some (c.toNat - 48)
  else if 'a' ≤ c && c ≤ 'f' then some (c.toNat - 87)
  else if 'A' ≤ c && c ≤ 'F' then some (c.toNat - 55)
  else none

/-- A digit in base sixteen, in lower case. -/
def hexDigit (n : Nat) : Char :=
  if n < 10 then Char.ofNat (48 + n) else Char.ofNat (87 + n)

/-- A digit in base sixteen, in upper case. -/
def hexCapital (n : Nat) : Char :=
  if n < 10 then Char.ofNat (48 + n) else Char.ofNat (55 + n)

/-- Whether a text has digits of a base only. -/
def hasDigits (base : Nat) (text : List Char) : Bool :=
  text.all fun c => (hexValue? c).any (· < base)

/-- The number that digits write in a base. -/
def ofDigits (base : Nat) (text : List Char) : Nat :=
  text.foldl (fun n c => n * base + (hexValue? c).getD 0) 0

end WebhookSync.Text
