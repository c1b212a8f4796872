import WebhookSync.Text.Blank

/-!
# Lower case

Keys and the names of formats and levels are compared in lower case.  The map covers the letters
of the Latin alphabet with those of its first two extensions, Greek, Cyrillic, the wide forms of
the Latin letters and the Kelvin and Ångström signs.  It is not all of Unicode: every other
character stays as it is, such as the capitals of Armenian, Georgian and Cherokee and the later
extensions of Latin and Cyrillic, and a sigma at the end of a word is mapped like any other.

What is left out has no small form in ASCII, and the names that are looked for are ASCII: whether a
text in lower case is one of them does not depend on it.
-/

namespace WebhookSync.Text

/-- Closed ranges of capital letters with the distance to their small letters. -/
def capitalRanges : List ((Nat × Nat) × Nat) :=
  [((0x41, 0x5A), 32), ((0xC0, 0xD6), 32), ((0xD8, 0xDE), 32), ((0x386, 0x386), 38),
   ((0x388, 0x38A), 37), ((0x38C, 0x38C), 64), ((0x38E, 0x38F), 63), ((0x391, 0x3A1), 32),
   ((0x3A3, 0x3AB), 32), ((0x400, 0x40F), 80), ((0x410, 0x42F), 32), ((0xFF21, 0xFF3A), 32)]

/-- Closed ranges in which a capital letter, at an even code point, stands before its small
letter. -/
def evenCapitalRanges : List (Nat × Nat) :=
  [(0x100, 0x12F), (0x132, 0x137), (0x14A, 0x177), (0x460, 0x481), (0x48A, 0x4BF)]

/-- Closed ranges in which a capital letter, at an odd code point, stands before its small
letter. -/
def oddCapitalRanges : List (Nat × Nat) :=
  [(0x139, 0x148), (0x179, 0x17E)]

/-- The small form of a character. -/
def lowerChars (c : Char) : List Char :=
  let n := c.toNat
  if n = 0x130 then ['i', '\u0307']
  else if n = 0x178 then ['\u00ff']
  else if n = 0x212A then ['k']
  else if n = 0x212B then ['\u00e5']
  else
    match capitalRanges.find? fun range => range.1.1 ≤ n && n ≤ range.1.2 with
    | some range => [Char.ofNat (n + range.2)]
    | none =>
        if inRanges evenCapitalRanges n && n % 2 == 0 then [Char.ofNat (n + 1)]
        else if inRanges oddCapitalRanges n && n % 2 == 1 then [Char.ofNat (n + 1)]
        else [c]

/-- The text in lower case. -/
def lowercase (s : String) : String :=
  String.ofList (s.toList.flatMap lowerChars)

end WebhookSync.Text
