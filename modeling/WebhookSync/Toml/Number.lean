import WebhookSync.Decimal
import WebhookSync.Toml.Text

/-!
# Numbers and times of a configuration document

Words that are no texts: integers in four bases, floating point values and times.  Underscores may
stand between digits.  A time is kept as a text in its usual form.
-/

namespace WebhookSync.Toml

/-- A sign in front of a word, and the rest of the word. -/
def splitSign : List Char → Bool × List Char
  | '-' :: rest => (true, rest)
  | '+' :: rest => (false, rest)
  | text => (false, text)

/-- The digits of a word with single underscores between them. -/
def digits? (isDigit : Char → Bool) : List Char → Option (List Char)
  | [] => none
  | [c] => if isDigit c then some [c] else none
  | c :: '_' :: rest => if isDigit c then (digits? isDigit rest).map (c :: ·) else none
  | c :: rest => if isDigit c then (digits? isDigit rest).map (c :: ·) else none

/-- Whether a character is a digit of a base. -/
def isDigitOf (base : Nat) (c : Char) : Bool :=
  Text.hasDigits base [c]

/-- The digits of a whole number in base ten, which has no zero in front of further digits. -/
def whole? (word : List Char) : Option (List Char) := do
  let digits ← digits? Char.isDigit word
  if 1 < digits.length && digits.head? = some '0' then none else return digits

/-- An integer of 64 bits in another base than ten. -/
def basedInteger? (base : Nat) (word : List Char) : Option Int := do
  let n := Text.ofDigits base (← digits? (isDigitOf base) word)
  if n < Nat.pow 2 63 then return Int.ofNat n else none

/-- An integer of 64 bits. -/
def integer? : List Char → Option Int
  | '0' :: 'x' :: rest => basedInteger? 16 rest
  | '0' :: 'o' :: rest => basedInteger? 8 rest
  | '0' :: 'b' :: rest => basedInteger? 2 rest
  | word => do
      let (negative, word) := splitSign word
      let n := Text.ofDigits 10 (← whole? word)
      if negative then if n ≤ Nat.pow 2 63 then return -Int.ofNat n else none
      else if n < Nat.pow 2 63 then return Int.ofNat n
      else none

/-- The exponent behind its letter. -/
def exponent? (word : List Char) : Option Int := do
  let (negative, word) := splitSign word
  let n := Int.ofNat (Text.ofDigits 10 (← digits? Char.isDigit word))
  return if negative then -n else n

/-- A floating point value without its sign: a whole part and a fraction, an exponent or both. -/
def magnitude? (word : List Char) : Option Float := do
  let isMark (c : Char) : Bool := c == 'e' || c == 'E'
  let mantissa := word.takeWhile fun c => !isMark c
  let marked := word.dropWhile fun c => !isMark c
  let exponent ← if marked.isEmpty then some 0 else exponent? (marked.drop 1)
  let whole ← whole? (mantissa.takeWhile (· != '.'))
  let pointed := mantissa.dropWhile (· != '.')
  let fraction ← if pointed.isEmpty then some [] else digits? Char.isDigit (pointed.drop 1)
  if marked.isEmpty && pointed.isEmpty then none
  else
    return Decimal.toFloat (Text.ofDigits 10 (whole ++ fraction))
      (exponent - Int.ofNat fraction.length)

/-- A floating point value.  A word for a value beyond the greatest is none. -/
def float? (word : List Char) : Option Float :=
  let (negative, rest) := splitSign word
  let sign (x : Float) : Float := if negative then -x else x
  if rest = ['i', 'n', 'f'] then some (sign (1.0 / 0.0))
  else if rest = ['n', 'a', 'n'] then some (0.0 / 0.0)
  else (magnitude? rest).bind fun x => if x.isInf && !negative then none else some (sign x)

/-! ## Times -/

/-- A number of exactly so many digits at the front of a word, no greater than a bound. -/
def field? (width bound : Nat) (word : List Char) : Option (List Char × List Char) :=
  let digits := word.take width
  if digits.length = width && digits.all Char.isDigit && Text.ofDigits 10 digits ≤ bound then
    some (digits, word.drop width)
  else none

/-- How many days a month has. -/
def daysIn (year month : Nat) : Nat :=
  if month = 2 then
    if year % 4 = 0 && (year % 100 ≠ 0 || year % 400 = 0) then 29 else 28
  else if month = 4 || month = 6 || month = 9 || month = 11 then 30
  else 31

/-- A day at the front of a word. -/
def day? (word : List Char) : Option (List Char × List Char) := do
  let (year, rest) ← field? 4 9999 word
  let '-' :: rest := rest | none
  let (month, rest) ← field? 2 12 rest
  let '-' :: rest := rest | none
  let (day, rest) ← field? 2 (daysIn (Text.ofDigits 10 year) (Text.ofDigits 10 month)) rest
  if month = ['0', '0'] || day = ['0', '0'] then none
  else return (year ++ '-' :: month ++ '-' :: day, rest)

/-- A time of day at the front of a word.  Of a fraction nine digits count, without zeros at the
end. -/
def clock? (word : List Char) : Option (List Char × List Char) := do
  let (hour, rest) ← field? 2 23 word
  let ':' :: rest := rest | none
  let (minute, rest) ← field? 2 59 rest
  let ':' :: rest := rest | none
  let (second, rest) ← field? 2 60 rest
  let time := hour ++ ':' :: minute ++ ':' :: second
  match rest with
  | '.' :: rest =>
      let digits := rest.takeWhile Char.isDigit
      if digits.isEmpty then none
      else
        let kept := ((digits.take 9).reverse.dropWhile (· == '0')).reverse
        return (time ++ (if kept.isEmpty then [] else '.' :: kept), rest.dropWhile Char.isDigit)
  | rest => return (time, rest)

/-- The distance from universal time that ends a word.  A distance of nothing gets a plus sign. -/
def offset? : List Char → Option (List Char)
  | [] => some []
  | ['Z'] | ['z'] => some ['Z']
  | sign :: rest =>
      if sign == '+' || sign == '-' then do
        let (hour, rest) ← field? 2 23 rest
        let ':' :: rest := rest | none
        let (minute, rest) ← field? 2 59 rest
        let sign := if (hour ++ minute).all (· == '0') then '+' else sign
        if rest.isEmpty then return sign :: hour ++ ':' :: minute else none
      else none

/-- A time of day behind a day, with its distance from universal time. -/
def clockAndOffset? (word : List Char) : Option (List Char) := do
  let (time, rest) ← clock? word
  return time ++ (← offset? rest)

/-- A day, a time of day or both, in the usual form. -/
def time? (word : List Char) : Option (List Char) :=
  match day? word with
  | some (day, []) => some day
  | some (day, mark :: rest) =>
      if mark == 'T' || mark == 't' || mark == ' ' then
        (clockAndOffset? rest).map fun time => day ++ 'T' :: time
      else none
  | none =>
      match clock? word with
      | some (time, []) => some time
      | _ => none

end WebhookSync.Toml
