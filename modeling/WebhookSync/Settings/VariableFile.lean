import WebhookSync.Settings.Source
import WebhookSync.Text.Letters

/-!
# Files of variables

A file beside the program adds variables to the environment, one a line: a name, a sign of equality
and a value, which can be quoted and can refer to other variables.  A variable that is set already
keeps its value.  Lines behind the first one that is malformed do not count.
-/

namespace WebhookSync.Settings.VariableFile

/-- Where in a value the next character stands. -/
inductive Place where
  /-- outside quotes -/
  | bare
  /-- between single quotes -/
  | single
  /-- between double quotes -/
  | double
  /-- behind a backslash -/
  | escaped (inQuotes : Bool)
  /-- in a name behind a dollar sign -/
  | name (inQuotes : Bool) (name : List Char)
  /-- in a name between braces -/
  | braced (inQuotes : Bool) (name : List Char)
  /-- behind the value -/
  | behind

/-- The place behind a name or an escaped character. -/
def Place.resume (inQuotes : Bool) : Place :=
  if inQuotes then .double else .bare

/-- The value of a variable that is referred to; one that is not set counts as empty. -/
def valueOf (environment : Environment) (name : List Char) : List Char :=
  ((environment.lookup (String.ofList name)).getD "").toList

/-- Read a value from a place on.  Behind a value only blanks and a comment can stand; quotes must
be closed, and a name between braces must end. -/
def value? (environment : Environment) : Place → List Char → Option (List Char)
  | .bare, [] | .behind, [] | .escaped false, [] => some []
  | .name false name, [] => some (valueOf environment name)
  | .single, [] | .double, [] | .escaped true, [] | .name true _, [] | .braced _ _, [] => none
  | .behind, c :: rest =>
      if c = '#' then some []
      else if c = ' ' || c = '\t' then value? environment .behind rest
      else none
  | .escaped inQuotes, c :: rest =>
      if c = 'n' then (value? environment (.resume inQuotes) rest).map ('\n' :: ·)
      else if ['\\', '\'', '"', '$', ' '].contains c then
        (value? environment (.resume inQuotes) rest).map (c :: ·)
      else none
  | .single, c :: rest =>
      if c = '\'' then value? environment .bare rest
      else (value? environment .single rest).map (c :: ·)
  | .name inQuotes name, c :: rest =>
      if Text.isLetter c then value? environment (.name inQuotes (name ++ [c])) rest
      else if c = '\x7b' && name.isEmpty then value? environment (.braced inQuotes []) rest
      else
        (if c = '$' then value? environment (.name inQuotes []) rest
          else (value? environment (.resume inQuotes) rest).map (c :: ·)).map
          (valueOf environment name ++ ·)
  | .braced inQuotes name, c :: rest =>
      if c = '\x7d' then
        (value? environment (.resume inQuotes) rest).map (valueOf environment name ++ ·)
      else value? environment (.braced inQuotes (name ++ [c])) rest
  | .double, c :: rest =>
      if c = '$' then value? environment (.name true []) rest
      else if c = '"' then value? environment .bare rest
      else if c = '\\' then value? environment (.escaped true) rest
      else (value? environment .double rest).map (c :: ·)
  | .bare, c :: rest =>
      if c = '$' then value? environment (.name false []) rest
      else if c = '\'' then value? environment .single rest
      else if c = '"' then value? environment .double rest
      else if c = '\\' then value? environment (.escaped false) rest
      else if c = ' ' || c = '\t' then value? environment .behind rest
      else (value? environment .bare rest).map (c :: ·)

/-- The text without the blanks at its beginning. -/
def skipBlank (text : List Char) : List Char :=
  text.dropWhile Text.isBlank

/-- A name at the beginning of a text, and what stands behind it and its blanks. -/
def name? (text : List Char) : Option (List Char × List Char) :=
  let isPart (c : Char) : Bool := c.isAlphanum || c == '_' || c == '.'
  match text with
  | c :: _ =>
      if c.isAlpha || c == '_' then
        some (text.takeWhile isPart, skipBlank (text.dropWhile isPart))
      else none
  | [] => none

/-- The name that a line sets, and what stands behind the sign of equality.  A word can stand in
front of the name that tells to hand the variable on. -/
def assignment? (text : List Char) : Option (List Char × List Char) := do
  let (name, rest) ← name? text
  match rest with
  | '=' :: rest => return (name, skipBlank rest)
  | _ =>
      if name = "export".toList then
        match ← name? rest with
        | (name, '=' :: rest) => return (name, skipBlank rest)
        | _ => none
      else none

/-- Whether nothing but a comment is left. -/
def isIdle (text : List Char) : Bool :=
  text.isEmpty || text.head? == some '#'

/-- The environment with the variable of a line. -/
def addLine? (environment : Environment) (line : List Char) : Option Environment :=
  let line := Text.trimChars line
  if isIdle line then some environment
  else do
    let (name, text) ← assignment? line
    let value ← if isIdle text then some [] else value? environment .bare text
    let name := String.ofList name
    if (environment.lookup name).isSome then return environment
    else return environment ++ [(name, String.ofList value)]

/-- The environment with the variables of lines, as far as these are well formed. -/
def addLines (environment : Environment) : List (List Char) → Environment
  | [] => environment
  | line :: lines =>
      match addLine? environment line with
      | some environment => addLines environment lines
      | none => environment

/-- The environment with the variables of a file's text. -/
def extend (environment : Environment) (text : String) : Environment :=
  addLines environment (Text.splitOn '\n' text.toList)

end WebhookSync.Settings.VariableFile
