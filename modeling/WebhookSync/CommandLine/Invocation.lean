import WebhookSync.CommandLine.Reading

/-!
# Invocations

What a command line asks for, as a whole.  A shared flag can be given on both levels and by a
variable: what is written behind the verb counts first, then what is written in front of it, then
the variable.
-/

namespace WebhookSync.CommandLine

/-- A repository as it is given. -/
structure RepositoryWords where
  project : String
  slug : String
deriving DecidableEq, Repr

/-- What to do, and with what. -/
inductive Command where
  | reconcile (repository : RepositoryWords) (mirror onRefChange onPullRequest : Bool)
      (name : Option String) (isPreview : Bool)
  | list (repository : RepositoryWords)
  | capabilities
deriving DecidableEq, Repr

/-- What a command line asks for. -/
structure Invocation where
  /-- the path of the file with settings -/
  config : String
  logLevel : Console.LogLevel
  jsonLogs : Bool
  format : Console.Format
  /-- show the causes of a failure -/
  isVerbose : Bool
  command : Command
deriving DecidableEq, Repr

/-- The flags of a level that are given: by words and, where no word gives one, by variables. -/
structure Told where
  byWords : List (Flag × String)
  byVariables : List (Flag × String)

namespace Told

/-- The value that is given for a flag. -/
def find? (told : Told) (flag : Flag) : Option String :=
  told.byWords.lookup flag <|> told.byVariables.lookup flag

/-- Look at the variables of a level's flags. -/
def fromVariables (environment : List (String × String)) (words : List (Flag × String)) :
    List Flag → Except Halt (List (Flag × String))
  | [] => .ok []
  | flag :: flags =>
      match flag.environmentName?.bind fun name => environment.lookup name with
      | none => fromVariables environment words flags
      | some value =>
          if (words.lookup flag).isSome then fromVariables environment words flags
          else if flag.accepts value then
            (fromVariables environment words flags).map ((flag, value) :: ·)
          else .error (.invalidValue flag value)

/-- Everything that is given on a level. -/
def ofReading (level : Level) (environment : List (String × String)) (reading : Reading) :
    Except Halt Told := do
  let words ← reading.settle
  return ⟨words, ← fromVariables environment words level.flags⟩

/-- Whether nothing is given. -/
def isEmpty (told : Told) : Bool :=
  told.byWords.isEmpty && told.byVariables.isEmpty

/-- Refuse flags that exclude each other. -/
def checkConflicts (told : Told) : List Flag → Except Halt Unit
  | [] => .ok ()
  | flag :: flags =>
      match flag.excludes.find? fun other => (told.find? other).isSome with
      | some other =>
          if (told.find? flag).isSome then .error (.conflict flag other)
          else told.checkConflicts flags
      | none => told.checkConflicts flags

/-- Refuse a level without a flag that it requires. -/
def checkRequired (told : Told) (level : Level) : Except Halt Unit :=
  match level.required.filter fun flag => (told.find? flag).isNone with
  | [] => .ok ()
  | missing => .error (.missingFlags missing)

/-- Whether a flag without a value is given. -/
def has (told : Told) (flag : Flag) : Bool :=
  told.find? flag = some Flag.raised

/-- What is given on both levels together. -/
def merge (inner outer : Told) : Told :=
  ⟨inner.byWords ++ outer.byWords, inner.byVariables ++ outer.byVariables⟩

end Told

/-- Read everything behind a verb. -/
def readBehind (verb : Verb) (words : List String) (environment : List (String × String)) :
    Except Halt Told := do
  let level := Level.behind verb
  let (reading, _) ← level.read words Reading.empty
  let told ← Told.ofReading level environment reading
  told.checkConflicts level.flags
  told.checkRequired level
  return told

/-- The command of a verb. -/
def Told.command (told : Told) (verb : Verb) : Command :=
  let text (flag : Flag) : String := (told.find? flag).getD ""
  let repository : RepositoryWords := ⟨text .project, text .repository⟩
  match verb with
  | .reconcile =>
      .reconcile repository (told.has .mirror) (told.has .refChange) (told.has .pullRequest)
        (told.find? .name) (told.has .dryRun)
  | .list => .list repository
  | .capabilities => .capabilities

/-- The path of the file with settings unless it is given. -/
def defaultConfig : String :=
  "hookbridge.toml"

/-- The invocation of a verb with everything that is given. -/
def Told.invocation (told : Told) (verb : Verb) : Invocation where
  config := (told.find? .config).getD defaultConfig
  logLevel := ((told.find? .logLevel).map Console.LogLevel.ofName).getD .info
  jsonLogs := told.has .jsonLogs
  format := ((told.find? .format).bind Console.Format.ofName?).getD .text
  isVerbose := told.has .verbose
  command := told.command verb

/-- The invocation that the words behind the program's name ask for. -/
def Invocation.ofWords (words : List String) (environment : List (String × String)) :
    Except Halt Invocation := do
  let (reading, found) ← Level.general.read words Reading.empty
  match found with
  | some (verb, rest) =>
      let inner ← readBehind verb rest environment
      let outer ← Told.ofReading .general environment reading
      return (inner.merge outer).invocation verb
  | none =>
      let outer ← Told.ofReading .general environment reading
      throw (if outer.isEmpty then .nothingGiven else .missingVerb)

end WebhookSync.CommandLine
