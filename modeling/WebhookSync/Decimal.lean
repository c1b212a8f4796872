/-!
# Decimal forms of floating point values

A finite binary value `m · 2^q` is written with the fewest decimal digits that read back to it:
those of the first decimal grid, from the coarsest on, on which a neighbour of the value lies
inside the interval of reals that round to the value.  How the digits are laid out is a matter of
the message that shows them and is given by a `Layout`.
-/

namespace WebhookSync.Decimal

/-- A finite value without its sign, `significand · 2^exponent`. -/
structure Binary where
  significand : Nat
  exponent : Int
  /-- the next value below is half as far away as the next one above -/
  narrowBelow : Bool

/-- The value of the bits of a finite number. -/
def Binary.ofBits (bits : UInt64) : Binary :=
  let exponent := ((bits >>> 52) &&& 0x7FF).toNat
  let fraction := (bits &&& 0xFFFFFFFFFFFFF).toNat
  if exponent = 0 then ⟨fraction, -1074, false⟩
  else ⟨Nat.pow 2 52 + fraction, (exponent : Int) - 1075, fraction == 0 && exponent > 1⟩

/-- A decimal, `digits · 10^exponent`. -/
structure Numeral where
  digits : Nat
  exponent : Int
deriving DecidableEq, Repr

/-- Compare `a · 10^i` with `b · 2^j`, exactly. -/
def compareScaled (a : Nat) (i : Int) (b : Nat) (j : Int) : Ordering :=
  compare (a * Nat.pow 10 i.toNat * Nat.pow 2 (-j).toNat)
    (b * Nat.pow 2 j.toNat * Nat.pow 10 (-i).toNat)

/-- Whether a decimal lies among the reals that round to the value, to nearest and ties to even:
between the middles of the gaps at both sides, the middles included for an even significand. -/
def Binary.readsBack (x : Binary) (d : Numeral) : Bool :=
  let lower := if x.narrowBelow then 4 * x.significand - 1 else 4 * x.significand - 2
  let upper := 4 * x.significand + 2
  let closed := x.significand % 2 == 0
  let fromLower := compareScaled d.digits d.exponent lower (x.exponent - 2)
  let fromUpper := compareScaled d.digits d.exponent upper (x.exponent - 2)
  (fromLower == .gt || closed && fromLower == .eq) &&
    (fromUpper == .lt || closed && fromUpper == .eq)

/-- Which of two equally close decimals is taken. -/
inductive Tie where
  | toEven
  | upward
deriving DecidableEq

/-- The least power of ten above the value, near an estimate from its binary length. -/
def Binary.scale (x : Binary) : Int :=
  let estimate : Int := (Int.ofNat x.significand.log2 + x.exponent) * 30103 / 100000
  let candidates := (List.range 6).map fun i => estimate - 2 + Int.ofNat i
  (candidates.find? fun k => compareScaled 1 k x.significand x.exponent == .gt).getD (estimate + 4)

/-- The greatest point of the grid `10^exponent` that is not above the value. -/
def Binary.floorOn (x : Binary) (exponent : Int) : Nat :=
  (x.significand * Nat.pow 2 x.exponent.toNat * Nat.pow 10 (-exponent).toNat) /
    (Nat.pow 10 exponent.toNat * Nat.pow 2 (-x.exponent).toNat)

/-- The neighbour of the value on a grid that reads back, the closer one if both do. -/
def Binary.pick? (x : Binary) (tie : Tie) (exponent : Int) : Option Numeral :=
  let below : Numeral := ⟨x.floorOn exponent, exponent⟩
  let above : Numeral := ⟨below.digits + 1, exponent⟩
  match x.readsBack below, x.readsBack above with
  | true, false => some below
  | false, true => some above
  | false, false => none
  | true, true =>
      match compareScaled (2 * below.digits + 1) exponent (2 * x.significand) x.exponent with
      | .gt => some below
      | .lt => some above
      | .eq => if tie = .toEven && below.digits % 2 == 0 then some below else some above

/-- The decimal without zeros at its end. -/
def Numeral.strip (d : Numeral) : Numeral :=
  let kept := (Nat.toDigits 10 d.digits).reverse.dropWhile (· == '0')
  let dropped := (Nat.toDigits 10 d.digits).length - kept.length
  ⟨d.digits / Nat.pow 10 dropped, d.exponent + dropped⟩

/-- The fewest digits that read back to a value other than zero. -/
def Binary.shortest (x : Binary) (tie : Tie) : Numeral :=
  let k := x.scale
  let grids := (List.range 17).map fun n => k - 1 - Int.ofNat n
  ((grids.findSome? (x.pick? tie)).getD
    ⟨x.significand * Nat.pow 2 x.exponent.toNat * Nat.pow 5 (-x.exponent).toNat,
      if x.exponent < 0 then x.exponent else 0⟩).strip

/-- How a decimal is laid out. -/
structure Layout where
  /-- exponents of the leading digit that are written without an exponent part -/
  positional : Int → Bool
  /-- a whole number still shows a point and a zero -/
  showsPoint : Bool
  tie : Tie

/-- Digits with a point after the first `whole` of them, filled up with zeros where needed. -/
def Layout.point (layout : Layout) (digits : List Char) (whole : Int) : List Char :=
  let n := Int.ofNat digits.length
  if n ≤ whole then
    digits ++ List.replicate (whole - n).toNat '0' ++ if layout.showsPoint then ['.', '0'] else []
  else if whole ≤ 0 then '0' :: '.' :: List.replicate (-whole).toNat '0' ++ digits
  else digits.take whole.toNat ++ '.' :: digits.drop whole.toNat

/-- Digits with a point after the first and a signed exponent of ten. -/
def scientific (digits : List Char) (leading : Int) : List Char :=
  let fraction := if digits.length ≤ 1 then [] else '.' :: digits.drop 1
  let power := Nat.toDigits 10 leading.natAbs
  digits.take 1 ++ fraction ++ 'e' :: (if leading < 0 then '-' else '+') :: power

/-- The text of a decimal. -/
def Layout.write (layout : Layout) (d : Numeral) : List Char :=
  let digits := Nat.toDigits 10 d.digits
  let leading := d.exponent + Int.ofNat digits.length - 1
  if layout.positional leading then layout.point digits (leading + 1)
  else scientific digits leading

/-- The text of a floating point value. -/
def Layout.render (layout : Layout) (x : Float) : String :=
  if x.isNaN then "NaN"
  else
    let sign := if x.toBits >>> 63 == 1 then "-" else ""
    if x.isInf then sign ++ "inf"
    else
      let binary := Binary.ofBits (x.toBits &&& 0x7FFFFFFFFFFFFFFF)
      let decimal := if binary.significand = 0 then ⟨0, 0⟩ else binary.shortest layout.tie
      sign ++ String.ofList (layout.write decimal)

/-- Digits without any exponent, whole numbers without a point. -/
def plain : Layout :=
  ⟨fun _ => true, false, .upward⟩

/-- Digits without any exponent, whole numbers with a point and a zero. -/
def plainWithPoint : Layout :=
  ⟨fun _ => true, true, .upward⟩

/-- Digits with an exponent from `10^16` on and below `10^-5`, whole numbers with a point and a
zero. -/
def bounded : Layout :=
  ⟨fun leading => -5 ≤ leading && leading < 16, true, .toEven⟩

/-- The floating point value nearest to `digits · 10^exponent`.  Powers far outside the range are
not worked out: the value is infinite, or zero. -/
def toFloat (digits : Nat) (exponent : Int) : Float :=
  let leading := exponent + Int.ofNat (Nat.toDigits 10 digits).length
  if digits = 0 || leading < -400 then 0
  else if 400 < leading then Float.ofBits 0x7FF0000000000000
  else Float.ofScientific digits (exponent < 0) exponent.natAbs

end WebhookSync.Decimal
