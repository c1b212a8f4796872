import WebhookSync.CommandLine.Reading

/-!
# Usage

What is said to someone whose command line leads to no command.
-/

namespace WebhookSync.CommandLine

/-- The name of the program. -/
def programName : String :=
  "hookbridge"

/-- The name of the program with its version. -/
def programVersion : String :=
  programName ++ " 0.1.0"

/-- How a flag is written. -/
def Flag.spelling (flag : Flag) : String :=
  "--" ++ flag.word ++ (if flag.takesValue then " <" ++ flag.word ++ ">" else "")

/-- The verbs and their flags, a level a line. -/
def usage : List String :=
  let line (level : Level) (start : String) : String :=
    String.intercalate " " (start :: level.flags.map fun flag => "[" ++ flag.spelling ++ "]")
  ("Usage: " ++ line .general programName ++ " <command>") ::
    Verb.all.map fun verb => "  " ++ line (.behind verb) verb.word

/-- The text of a fault on the command line. -/
def Halt.message : Halt → String
  | helpWanted | versionWanted => ""
  | nothingGiven | missingVerb => "a command is required"
  | unknownVerb word => "unrecognized command '" ++ word ++ "'"
  | unknownFlag word | strayWord word => "unexpected argument '" ++ word ++ "'"
  | missingValue flag => "a value is required for '" ++ flag.spelling ++ "'"
  | invalidValue flag value => "invalid value '" ++ value ++ "' for '" ++ flag.spelling ++ "'"
  | unneededValue flag value =>
      "unexpected value '" ++ value ++ "' for '" ++ flag.spelling ++ "'"
  | repeatedFlag flag => "'" ++ flag.spelling ++ "' cannot be given more than once"
  | conflict flag other =>
      "'" ++ flag.spelling ++ "' cannot be given together with '" ++ other.spelling ++ "'"
  | missingFlags flags =>
      "missing: " ++ String.intercalate ", " (flags.map Flag.spelling)

end WebhookSync.CommandLine
