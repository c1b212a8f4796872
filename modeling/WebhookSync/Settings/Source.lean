import WebhookSync.Json.Read
import WebhookSync.Settings.Path
import WebhookSync.Text.Parts
import WebhookSync.Toml.Document

/-!
# Sources of settings

Settings come from a file, in a format that its name tells, and from variables of the environment,
whose names begin with a word of the program's own and lead to places in the tree.  Files in two of
the formats are read here, those in the others by libraries.
-/

namespace WebhookSync.Settings

open Text (Decoded)

/-! ## Files -/

/-- A value of structured text as a setting; values can be nested as deep as the bound. -/
def jsonSetting (origin : Option String) : Nat → Json.Reader Setting
  | 0, _ => .error .malformed
  | depth + 1, text =>
      let simple (value : Scalar) (found : Except Json.Fault (Unit × Decoded)) :
          Except Json.Fault (Setting × Decoded) :=
        found.map fun found => (.scalar origin value, found.2)
      match Json.skipBlank text with
      | [] => .error .truncated
      | some 'n' :: rest => simple .null (Json.word ['u', 'l', 'l'] rest)
      | some 't' :: rest => simple (.bool true) (Json.word ['r', 'u', 'e'] rest)
      | some 'f' :: rest => simple (.bool false) (Json.word ['a', 'l', 's', 'e'] rest)
      | some '"' :: rest =>
          (Json.stringBody rest).map fun found => (.scalar origin (.text found.1), found.2)
      | some '[' :: rest =>
          if depth = 0 then .error .malformed
          else
            (Json.items (jsonSetting origin depth) rest).map fun found =>
              (.list origin found.1, found.2)
      | some '\x7b' :: rest =>
          if depth = 0 then .error .malformed
          else
            (Json.members Json.stringBody
              (fun entries key text =>
                (jsonSetting origin depth text).map fun found =>
                  (Setting.replaceEntry key found.1 entries, found.2))
              [] rest).map fun found => (.table origin found.1, found.2)
      | some c :: rest =>
          if c == '-' || '0' ≤ c && c ≤ '9' then
            (Json.number (some c :: rest)).map fun found =>
              match found.1 with
              | .integer value =>
                  if value ≤ Int64.maxValue.toInt then (.scalar origin (.integer value), found.2)
                  else (.scalar origin (.float value.toNat.toUInt64.toFloat), found.2)
              | .float value => (.scalar origin (.float value), found.2)
          else .error .malformed
      | none :: _ => .error .malformed

/-- The entries of a document of structured text. -/
def jsonDocument? (origin : Option String) (text : String) : Option (List (String × Setting)) :=
  match (jsonSetting origin 128 : Json.Reader Setting).whole (Decoded.ofString text) with
  | .ok (.table _ entries) => some entries
  | _ => none

/-- A format of files that is read by a library. -/
inductive LibraryFormat where
  | yaml
  | ini
  | ron
  | json5
deriving DecidableEq, Repr

/-- The format of a file. -/
inductive FileFormat where
  | toml
  | json
  | library (format : LibraryFormat)
deriving DecidableEq, Repr

namespace FileFormat

/-- Every format. -/
def all : List FileFormat :=
  [toml, json, library .yaml, library .ini, library .ron, library .json5]

@[simp]
theorem mem_all (format : FileFormat) : format ∈ all := by
  cases format with
  | toml => decide
  | json => decide
  | library format => cases format <;> decide

/-- How the names of files of a format end, behind a point. -/
def endings : FileFormat → List String
  | toml => ["toml"]
  | json => ["json"]
  | library .yaml => ["yaml", "yml"]
  | library .ini => ["ini"]
  | library .ron => ["ron"]
  | library .json5 => ["json5"]

end FileFormat

/-- What libraries decide about files.  They are no part of this project: whatever is said of
settings holds for all of them. -/
class Libraries where
  /-- the entries of a file's text, unless it is not well formed; the file's name is their origin -/
  document? : LibraryFormat → (origin text : String) → Option (List (String × Setting))
  /-- the formats in the order in which they are tried on a path without an ending -/
  order : List FileFormat
  mem_order (format : FileFormat) : format ∈ order

/-- Without libraries no file in one of their formats can be read. -/
instance : Libraries where
  document? := fun _ _ _ => none
  order := FileFormat.all
  mem_order := FileFormat.mem_all

namespace FileFormat

/-- The part of a name behind its last point; a point at the beginning does not count. -/
def extension (name : List Char) : List Char :=
  let behind := (name.reverse.takeWhile (· != '.')).reverse
  if name.contains '.' && behind.length + 1 < name.length then behind else []

/-- The format that the name of a file tells. -/
def ofName? (name : String) : Option FileFormat :=
  let ending := String.ofList (extension (name.toList.reverse.takeWhile (· != '/')).reverse)
  all.find? fun format => format.endings.contains ending

/-- The entries of a file's text.  A mark of the byte order at its beginning does not count. -/
def document? [Libraries] (format : FileFormat) (origin text : String) :
    Option (List (String × Setting)) :=
  let text :=
    match text.toList with
    | '\ufeff' :: rest => String.ofList rest
    | _ => text
  match format with
  | toml => Toml.document? (some origin) text
  | json => jsonDocument? (some origin) text
  | library format => Libraries.document? format origin text

end FileFormat

/-- A file: its name and its text. -/
structure SourceFile where
  name : String
  text : String

/-- The name of a file without the parts of its path that stand for their own place. -/
def plainName (path : String) : String :=
  let path := path.toList
  let parts := (Text.splitOn '/' path).filter fun part => part ≠ [] && part ≠ ['.']
  String.ofList ((if path.head? = some '/' then ['/'] else []) ++ Text.joinWith '/' parts)

/-- The file of a path and its format.  A path that names no file can lack the end of its name. -/
def findFile? [Libraries] (files : List SourceFile) (path : String) :
    Option (FileFormat × SourceFile) :=
  let named (name : String) : Option SourceFile := files.find? fun file => file.name = name
  match named (plainName path) with
  | some file => (FileFormat.ofName? file.name).map fun format => (format, file)
  | none =>
      Libraries.order.findSome? fun format =>
        format.endings.findSome? fun ending =>
          (named (plainName path ++ "." ++ ending)).map fun file => (format, file)

/-! ## The environment -/

/-- The variables of the environment, by name. -/
abbrev Environment := List (String × String)

/-- The origin of settings from the environment. -/
def environmentOrigin : String :=
  "the environment"

/-- An integer of 64 bits, with an optional sign. -/
def integer? (text : List Char) : Option Int :=
  let digits := (Toml.splitSign text).2
  let n := Int.ofNat (Text.ofDigits 10 digits)
  let n := if (Toml.splitSign text).1 then -n else n
  if !digits.isEmpty && digits.all Char.isDigit && Int64.minValue.toInt ≤ n &&
      n ≤ Int64.maxValue.toInt then some n
  else none

/-- A floating point value, with an optional sign. -/
def float? (text : List Char) : Option Float := do
  let (negative, rest) := Toml.splitSign text
  let small := rest.map Char.toLower
  let x ←
    if small = "inf".toList || small = "infinity".toList then some (1.0 / 0.0 : Float)
    else if small = "nan".toList then some (0.0 / 0.0)
    else
      let isMark (c : Char) : Bool := c == 'e' || c == 'E'
      let mantissa := rest.takeWhile fun c => !isMark c
      let marked := rest.dropWhile fun c => !isMark c
      let (down, power) := Toml.splitSign (marked.drop 1)
      let fraction := (mantissa.dropWhile (· != '.')).drop 1
      let digits := mantissa.takeWhile (· != '.') ++ fraction
      if digits.isEmpty || !digits.all Char.isDigit || !power.all Char.isDigit ||
          !marked.isEmpty && power.isEmpty then none
      else
        let exponent := Int.ofNat (Text.ofDigits 10 power)
        some (Decimal.toFloat (Text.ofDigits 10 digits)
          ((if down then -exponent else exponent) - Int.ofNat fraction.length))
  return if negative then -x else x

/-- The value of a variable: a truth value or a number where it reads as one. -/
def variableValue (text : String) : Scalar :=
  match Text.lowercase text, integer? text.toList, float? text.toList with
  | "true", _, _ => .bool true
  | "false", _, _ => .bool false
  | _, some n, _ => .integer n
  | _, none, some x => .float x
  | _, none, none => .text text

/-- The text behind a beginning, if it has this beginning. -/
def behind? (beginning text : List Char) : Option (List Char) :=
  if beginning.isPrefixOf text then some (text.drop beginning.length) else none

/-- The text with a point for every two underscores. -/
def pointed : List Char → List Char
  | '_' :: '_' :: rest => '.' :: pointed rest
  | c :: rest => c :: pointed rest
  | [] => []

/-- The key to which a variable leads, if it is one of the program's own. -/
def keyOf? (word name : String) : Option String :=
  (behind? (Text.lowercase (word ++ "__")).toList (Text.lowercase name).toList).map fun rest =>
    String.ofList (pointed rest)

/-- The settings of the environment whose names begin with a word. -/
def fromEnvironment (word : String) (environment : Environment) : List (String × Setting) :=
  environment.filterMap fun entry =>
    (keyOf? word entry.1).map fun key =>
      (key, .scalar (some environmentOrigin) (variableValue entry.2))

end WebhookSync.Settings
