import WebhookSync.Settings.Value
import WebhookSync.Toml.Number

/-!
# Configuration documents

A document is a sequence of lines: pairs of a key and a value, and headers that tell in which table
the pairs that follow belong.  Every key is set once, and a table that has been closed by its way
of writing is not opened again.
-/

namespace WebhookSync.Toml

/-! ## Tables in the making -/

/-- How a table came to be. -/
inductive Opening where
  /-- on the way to a table with a header -/
  | onTheWay
  /-- by its own header -/
  | byHeader
  /-- on the way to a value, by a key with points -/
  | byKey
deriving DecidableEq, Repr

/-- A part of a document. -/
inductive Node where
  | value (value : Setting)
  | table (opening : Opening) (entries : List (String × Node))
  /-- tables with the same header -/
  | tables (items : List (List (String × Node)))

/-- The entries of a table in the making. -/
abbrev Entries := List (String × Node)

namespace Entries

/-- The part under a key. -/
def find? (entries : Entries) (key : String) : Option Node :=
  (List.find? (fun entry => entry.1 == key) entries).map (·.2)

/-- The entries with a part under a key, in the place of the old one or at the end. -/
def put (key : String) (node : Node) : Entries → Entries
  | [] => [(key, node)]
  | entry :: rest => if entry.1 = key then (key, node) :: rest else entry :: put key node rest

/-- Set a value under a path of keys.  Tables on the way are those that keys with points made. -/
def setValue (value : Setting) : List String → Entries → Option Entries
  | [], _ => none
  | [key], entries =>
      if (entries.find? key).isSome then none else some (entries.put key (.value value))
  | key :: rest, entries =>
      match entries.find? key with
      | none => do
          let inner ← setValue value rest []
          return entries.put key (.table .byKey inner)
      | some (.table opening inner) =>
          if opening = .byHeader || rest.length = 1 && opening ≠ .byKey then none
          else do
            let inner ← setValue value rest inner
            return entries.put key (.table opening inner)
      | some (.tables items) =>
          if rest.length = 1 then none
          else do
            let inner ← setValue value rest (items.getLast?.getD [])
            return entries.put key (.tables (items.dropLast ++ [inner]))
      | some (.value _) => none

/-- Change the entries to which a path of keys leads; of several tables, the last one counts.
Tables that are not there yet are made on the way. -/
def changeAt (change : Entries → Option Entries) : List String → Entries → Option Entries
  | [], entries => change entries
  | key :: rest, entries =>
      match entries.find? key with
      | none => do
          let inner ← changeAt change rest []
          return entries.put key (.table .onTheWay inner)
      | some (.table opening inner) => do
          let inner ← changeAt change rest inner
          return entries.put key (.table opening inner)
      | some (.tables items) => do
          let inner ← changeAt change rest (items.getLast?.getD [])
          return entries.put key (.tables (items.dropLast ++ [inner]))
      | some (.value _) => none

/-- Open the table of a header.  It may be there only on the way to another one. -/
def openTable (key : String) (entries : Entries) : Option Entries :=
  match entries.find? key with
  | none => some (entries.put key (.table .byHeader []))
  | some (.table .onTheWay inner) => some (entries.put key (.table .byHeader inner))
  | some _ => none

/-- Open one more of several tables with the same header. -/
def openAnother (key : String) (entries : Entries) : Option Entries :=
  match entries.find? key with
  | none => some (entries.put key (.tables [[]]))
  | some (.tables items) => some (entries.put key (.tables (items ++ [[]])))
  | some _ => none

end Entries

mutual

/-- The setting of a part. -/
def Node.toSetting (origin : Option String) : Node → Setting
  | .value value => value
  | .table _ entries => .table origin (settingsOf origin entries)
  | .tables items => .list origin (tablesOf origin items)

/-- The settings of entries. -/
def settingsOf (origin : Option String) : List (String × Node) → List (String × Setting)
  | [] => []
  | (key, node) :: rest => (key, node.toSetting origin) :: settingsOf origin rest

/-- The settings of several tables. -/
def tablesOf (origin : Option String) : List (List (String × Node)) → List Setting
  | [] => []
  | entries :: rest => .table origin (settingsOf origin entries) :: tablesOf origin rest

end

/-! ## Reading -/

/-- A character of a key without quotes. -/
def isBareChar (c : Char) : Bool :=
  c.isAlphanum || c == '_' || c == '-'

/-- A key without points. -/
def simpleKey? (text : List Char) : Option (String × List Char) :=
  match quoted? text with
  | some (key, rest) => some (String.ofList key, rest)
  | none =>
      let key := text.takeWhile isBareChar
      if key.isEmpty then none else some (String.ofList key, text.dropWhile isBareChar)

/-- A key with points, and the text behind it without blanks in front.  The bound is at least the
number of points. -/
def key? : Nat → Reader (List String)
  | 0, _ => none
  | bound + 1, text => do
      let (first, rest) ← simpleKey? (text.dropWhile isBlank)
      match rest.dropWhile isBlank with
      | '.' :: rest => do
          let (others, rest) ← key? bound rest
          return (first :: others, rest)
      | rest => return ([first], rest)

/-- The text behind a comment. -/
def skipComment? : List Char → Option (List Char)
  | [] => some []
  | '\n' :: rest => some ('\n' :: rest)
  | '\r' :: '\n' :: rest => some ('\r' :: '\n' :: rest)
  | c :: rest => if isTextChar c then skipComment? rest else none

/-- The text without blanks, line ends and comments in front.  The bound is at least the number of
lines. -/
def skipLines? : Nat → List Char → Option (List Char)
  | 0, _ => none
  | bound + 1, text =>
      match text.dropWhile isBlank with
      | '#' :: rest => (skipComment? rest).bind (skipLines? bound)
      | text =>
          match newLine? text with
          | some rest => skipLines? bound rest
          | none => some text

/-- A character of a word. -/
def isWordChar (c : Char) : Bool :=
  c.isAlphanum || c == '+' || c == '-' || c == '_' || c == '.' || c == ':'

/-- The word at the front of a text.  A blank between a day and a time of day belongs to it. -/
def splitWord (text : List Char) : List Char × List Char :=
  let word := text.takeWhile isWordChar
  let rest := text.dropWhile isWordChar
  match day? word, rest with
  | some (_, []), ' ' :: digit :: others =>
      if digit.isDigit then
        let more := digit :: others
        (word ++ ' ' :: more.takeWhile isWordChar, more.dropWhile isWordChar)
      else (word, rest)
  | _, _ => (word, rest)

/-- The value of a word. -/
def wordValue? (word : List Char) : Option Scalar :=
  if word = ['t', 'r', 'u', 'e'] then some (.bool true)
  else if word = ['f', 'a', 'l', 's', 'e'] then some (.bool false)
  else
    match integer? word, float? word, time? word with
    | some n, _, _ => some (.integer n)
    | none, some x, _ => some (.float x)
    | none, none, some time => some (.text (String.ofList time))
    | none, none, none => none

mutual

/-- A value that is nested no deeper than the bound. -/
def value? (origin : Option String) (depth : Nat) (text : List Char) :
    Option (Setting × List Char) :=
  match depth with
  | 0 => none
  | depth + 1 =>
      match text with
      | '[' :: rest => do
          let (items, rest) ← items? origin depth (text.length + 1) rest
          return (.list origin items, rest)
      | '\x7b' :: rest => do
          match rest.dropWhile isBlank with
          | '\x7d' :: rest => return (.table origin [], rest)
          | rest =>
              let (entries, rest) ← pairs? origin depth (text.length + 1) [] rest
              return (.table origin (settingsOf origin entries), rest)
      | text =>
          match text? text with
          | some (chars, rest) => some (.scalar origin (.text (String.ofList chars)), rest)
          | none => do
              let (word, rest) := splitWord text
              return (.scalar origin (← wordValue? word), rest)
termination_by (depth, 0)

/-- The items of a list up to its closing bracket.  The bound is at least the number of items. -/
def items? (origin : Option String) (depth bound : Nat) (text : List Char) :
    Option (List Setting × List Char) :=
  match bound with
  | 0 => none
  | bound + 1 => do
      match ← skipLines? (text.length + 1) text with
      | ']' :: rest => return ([], rest)
      | text =>
          let (first, rest) ← value? origin depth text
          match ← skipLines? (rest.length + 1) rest with
          | ',' :: rest => do
              let (others, rest) ← items? origin depth bound rest
              return (first :: others, rest)
          | ']' :: rest => return ([first], rest)
          | _ => none
termination_by (depth, bound)

/-- The pairs of a table on one line up to its closing brace.  The bound is at least the number of
pairs. -/
def pairs? (origin : Option String) (depth bound : Nat) (entries : Entries) (text : List Char) :
    Option (Entries × List Char) :=
  match bound with
  | 0 => none
  | bound + 1 => do
      let (path, rest) ← key? (text.length + 1) text
      let '=' :: rest := rest | none
      let (value, rest) ← value? origin depth (rest.dropWhile isBlank)
      let entries ← entries.setValue value path
      match rest.dropWhile isBlank with
      | ',' :: rest => pairs? origin depth bound entries rest
      | '\x7d' :: rest => return (entries, rest)
      | _ => none
termination_by (depth, bound)

end

/-- How deep values can be nested. -/
def depthLimit : Nat :=
  80

/-- A document in the course of reading: its entries and the table that pairs belong to. -/
structure Progress where
  entries : Entries
  current : List String

/-- What a header does: it opens the table to which its path leads. -/
def Progress.enter (progress : Progress) (path : List String)
    (opening : String → Entries → Option Entries) : Option Progress := do
  let last ← path.getLast?
  return ⟨← progress.entries.changeAt (opening last) path.dropLast, path⟩

/-- A line with something on it, and the text behind it.  Pairs in the table of a header go to the
table that the header leads to. -/
def Progress.line? (origin : Option String) (progress : Progress) (text : List Char) :
    Option (Progress × List Char) :=
  match text with
  | '[' :: '[' :: rest => do
      let (path, rest) ← key? (rest.length + 1) rest
      let ']' :: ']' :: rest := rest | none
      return (← progress.enter path Entries.openAnother, rest)
  | '[' :: rest => do
      let (path, rest) ← key? (rest.length + 1) rest
      let ']' :: rest := rest | none
      return (← progress.enter path Entries.openTable, rest)
  | text => do
      let (path, rest) ← key? (text.length + 1) text
      let '=' :: rest := rest | none
      let (value, rest) ← value? origin depthLimit (rest.dropWhile isBlank)
      let entries ← progress.entries.changeAt (Entries.setValue value path) progress.current
      return (⟨entries, progress.current⟩, rest)

/-- The rest of a line behind what stands on it: blanks and a comment. -/
def endLine? (text : List Char) : Option (List Char) :=
  match text.dropWhile isBlank with
  | [] => some []
  | '#' :: rest => (skipComment? rest).map dropNewLine
  | text => newLine? text

/-- The lines of a document.  The bound is at least their number. -/
def Progress.lines? (origin : Option String) : Nat → Progress → List Char → Option Progress
  | 0, _, _ => none
  | bound + 1, progress, text => do
      match ← skipLines? (text.length + 1) text with
      | [] => return progress
      | text =>
          let (progress, rest) ← progress.line? origin text
          lines? origin bound progress (← endLine? rest)

/-- The entries of a document. -/
def document? (origin : Option String) (text : String) : Option (List (String × Setting)) := do
  let chars := text.toList
  let progress ← Progress.lines? origin (chars.length + 1) ⟨[], []⟩ chars
  return settingsOf origin progress.entries

end WebhookSync.Toml
