/-!
# Letters of host names

A label of a host name that has characters outside ASCII is written with ASCII letters and digits:
first its ASCII characters, then, in ascending order, where each other character is put in, as
differences in a number system of mixed base whose thresholds follow the size of the differences.
-/

namespace WebhookSync.Url.Punycode

/-- A digit: the letters from zero on, then the decimal digits. -/
def digit (n : Nat) : Char :=
  if n < 26 then Char.ofNat (97 + n) else Char.ofNat (22 + n)

/-- The value of a digit. -/
def digitValue? (c : Char) : Option Nat :=
  if 'a' ≤ c && c ≤ 'z' then some (c.toNat - 97)
  else if 'A' ≤ c && c ≤ 'Z' then some (c.toNat - 65)
  else if '0' ≤ c && c ≤ '9' then some (c.toNat - 22)
  else none

/-- The threshold at a position, which advances in steps of 36. -/
def threshold (bias position : Nat) : Nat :=
  if position ≤ bias then 1 else if bias + 26 ≤ position then 26 else position - bias

/-- Divide a difference until it is small, and count the positions. -/
def reduce (delta position : Nat) : Nat × Nat :=
  if 455 < delta then reduce (delta / 35) (position + 36) else (delta, position)
termination_by delta
decreasing_by omega

/-- The bias for the next difference. -/
def adapt (delta count : Nat) (isFirst : Bool) : Nat :=
  let delta := if isFirst then delta / 700 else delta / 2
  let reduced := reduce (delta + delta / count) 0
  reduced.2 + 36 * reduced.1 / (reduced.1 + 38)

theorem threshold_pos (bias position : Nat) : 0 < threshold bias position := by
  unfold threshold
  split
  · exact Nat.one_pos
  · split <;> omega

/-- The digits of a difference, least first. -/
def digits (bias position n : Nat) : List Char :=
  if threshold bias position ≤ n then
    digit (threshold bias position +
        (n - threshold bias position) % (36 - threshold bias position)) ::
      digits bias (position + 36)
        ((n - threshold bias position) / (36 - threshold bias position))
  else [digit n]
termination_by n
decreasing_by
  have := Nat.div_le_self (n - threshold bias position) (36 - threshold bias position)
  have := threshold_pos bias position
  omega

/-- What the writing of a label has come to. -/
structure Progress where
  written : List Char
  delta : Nat
  bias : Nat
  /-- how many characters are accounted for -/
  handled : Nat

/-- Go over one character of the label while the characters of a code point are put in. -/
def Progress.step (basic codePoint : Nat) (progress : Progress) (c : Char) : Progress :=
  if c.toNat < codePoint then { progress with delta := progress.delta + 1 }
  else if c.toNat = codePoint then
    { written := progress.written ++ digits progress.bias 36 progress.delta
      delta := 0
      bias := adapt progress.delta (progress.handled + 1) (progress.handled == basic)
      handled := progress.handled + 1 }
  else progress

/-- Put in the code points of a list, ascending, from a code point on. -/
def Progress.putIn (label : List Char) (basic : Nat) : List Nat → Nat → Progress → Progress
  | [], _, progress => progress
  | codePoint :: rest, start, progress =>
      let grown :=
        { progress with delta := progress.delta + (codePoint - start) * (progress.handled + 1) }
      let done := label.foldl (step basic codePoint) grown
      putIn label basic rest (codePoint + 1) { done with delta := done.delta + 1 }

/-- The written form of a label. -/
def encode (label : List Char) : List Char :=
  let basic := label.filter fun c => c.toNat < 0x80
  let others := (label.map Char.toNat).filter (0x80 ≤ ·)
  let start : Progress := ⟨[], 0, 72, basic.length⟩
  basic ++ (if basic.isEmpty then [] else ['-']) ++
    (Progress.putIn label basic.length (others.mergeSort (· ≤ ·)).eraseDups 0x80 start).written

/-- A difference at the front of digits, added to a position with a weight. -/
def readDifference (bias : Nat) : List Char → Nat → Nat → Nat → Option (Nat × List Char)
  | [], _, _, _ => none
  | c :: rest, position, weight, sum => do
      let n ← digitValue? c
      let sum := sum + n * weight
      if n < threshold bias position then some (sum, rest)
      else readDifference bias rest (position + 36) (weight * (36 - threshold bias position)) sum

/-- Put characters into a label as the differences tell.  Every difference takes a digit, so the
bound is the number of digits. -/
def readDifferences : Nat → List Char → List Char → Nat → Nat → Nat → Option (List Char)
  | _, [], label, _, _, _ => some label
  | 0, _ :: _, _, _, _, _ => none
  | bound + 1, source, label, codePoint, place, bias => do
      let (reached, rest) ← readDifference bias source 36 1 place
      let count := label.length + 1
      let codePoint := codePoint + reached / count
      let next := reached % count
      if codePoint < 0x80 || 0x10FFFF < codePoint || 0xD800 ≤ codePoint && codePoint < 0xE000 then
        none
      else
        readDifferences bound rest (label.take next ++ Char.ofNat codePoint :: label.drop next)
          codePoint (next + 1) (adapt (reached - place) count (place == 0))

/-- The label of a written form: what stands in front of the last hyphen is taken as it is. -/
def decode (written : List Char) : Option (List Char) :=
  let source := (written.reverse.takeWhile (· != '-')).reverse
  let basic := (written.take (written.length - source.length)).dropLast
  if basic.all fun c => c.toNat < 0x80 then readDifferences source.length source basic 0x80 0 72
  else none

end WebhookSync.Url.Punycode
