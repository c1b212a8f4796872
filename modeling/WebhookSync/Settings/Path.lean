import WebhookSync.Settings.Value

/-!
# Paths of settings

A key names a place in the tree of settings: words with points between them lead through tables,
positions between brackets lead into lists.  A value is put to its place even where the tables and
lists on the way are not there yet.
-/

namespace WebhookSync.Settings

/-- A step from a place to a place inside it. -/
inductive Step where
  | key (name : String)
  /-- a position, counted from the end if it is negative -/
  | index (position : Int)
deriving DecidableEq, Repr

/-- A place in the tree of settings. -/
structure Path where
  first : String
  steps : List Step
deriving DecidableEq, Repr

namespace Path

/-- A character of a word. -/
def isWordChar (c : Char) : Bool :=
  c.isAlphanum || c == ' ' || c == '_' || c == '-'

/-- A blank around a position. -/
def isPad (c : Char) : Bool :=
  c == ' ' || c == '\t'

/-- The position at the front of a text, behind its bracket, and the text behind it.  Positions are
integers of 64 bits. -/
def position? (text : List Char) : Option (Int × List Char) :=
  let text := text.dropWhile isPad
  let (negative, text) : Bool × List Char :=
    match text with
    | '-' :: rest => (true, rest)
    | text => (false, text)
  let digits := text.takeWhile Char.isDigit
  let n := digits.foldl (fun n c => n * 10 + (c.toNat - 48)) 0
  match (text.dropWhile Char.isDigit).dropWhile isPad with
  | ']' :: rest =>
      let bound := if negative then Nat.pow 2 63 else Nat.pow 2 63 - 1
      if digits.isEmpty || bound < n then none
      else some (if negative then -Int.ofNat n else n, rest)
  | _ => none

/-- The steps that a text writes.  Every step takes characters, so the bound is the length of the
text. -/
def steps? : Nat → List Char → Option (List Step)
  | _, [] => some []
  | bound + 1, '.' :: rest =>
      let word := rest.takeWhile isWordChar
      if word.isEmpty then none
      else (steps? bound (rest.dropWhile isWordChar)).map (.key (String.ofList word) :: ·)
  | bound + 1, '[' :: rest => do
      let (position, rest) ← position? rest
      return .index position :: (← steps? bound rest)
  | _, _ :: _ => none

/-- The path that a key writes. -/
def parse? (key : String) : Option Path :=
  let text := key.toList
  let word := text.takeWhile isWordChar
  if word.isEmpty then none
  else
    (steps? text.length (text.dropWhile isWordChar)).map fun steps =>
      ⟨String.ofList word, steps⟩

/-- The items of a list; anything else gives way to an empty list. -/
def itemsOf : Setting → Option String × List Setting
  | .list origin items => (origin, items)
  | _ => (none, [])

/-- The place of a position in a list of some length, unless it lies in front of the list. -/
def place? (position : Int) (length : Nat) : Option Nat :=
  if 0 ≤ position then some position.toNat
  else if position.natAbs ≤ length then some (length - position.natAbs)
  else none

/-- The list with an item replaced, filled up where it is too short.  Memory is not modelled: there
are also lists that no machine could hold. -/
def setItem (items : List Setting) (place : Nat) (value : Setting) : List Setting :=
  (items ++ List.replicate (place + 1 - items.length) Setting.null).set place value

/-- Put a value to the place that steps lead to.  There is none if a position lies in front of a
list. -/
def assignSteps (value : Setting) : List Step → Setting → Option Setting
  | [], _ => some value
  | [.key name], setting => some (setting.lay (Text.lowercase name) value)
  | .key name :: rest, setting => do
      let name := Text.lowercase name
      let inner ← assignSteps value rest ((setting.get? name).getD .null)
      return setting.store name inner
  | .index position :: rest, setting => do
      let (origin, items) := itemsOf setting
      let place ← place? position items.length
      let inner ← assignSteps value rest (items.getD place .null)
      return .list origin (setItem items place inner)

/-- Put a value to a path. -/
def assign (root : Setting) (path : Path) (value : Setting) : Option Setting :=
  if path.steps.isEmpty then some (root.lay path.first value)
  else do
    let inner ← assignSteps value path.steps ((root.get? path.first).getD .null)
    return root.store path.first inner

end Path

/-- Put values to the places that their keys name, one after the other.  A key that writes no path
is taken as it is. -/
def assignAll (root : Setting) (values : List (String × Setting)) : Option Setting :=
  values.foldlM (fun root entry =>
    match Path.parse? entry.1 with
    | some path => path.assign root entry.2
    | none => some (root.lay entry.1 entry.2)) root

end WebhookSync.Settings
