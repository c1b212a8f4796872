import WebhookSync.Console.Format

/-!
# Verbs and flags

A command line has two levels.  The general one comes first and ends with a verb, which says what
to do; what stands behind the verb is on the verb's own level.  Each level has its flags, of which
some take a value and some can be given by a variable of the environment instead.
-/

namespace WebhookSync.CommandLine

/-- What the program can do. -/
inductive Verb where
  | reconcile
  | list
  | capabilities
deriving DecidableEq, Repr

namespace Verb

/-- Every verb. -/
def all : List Verb :=
  [reconcile, list, capabilities]

/-- The word for a verb. -/
def word : Verb → String
  | reconcile => "reconcile"
  | list => "list"
  | capabilities => "capabilities"

/-- The verb of a word. -/
def ofWord? (word : String) : Option Verb :=
  all.find? fun verb => verb.word = word

end Verb

/-- The word that asks for help in the place of a verb. -/
def helpWord : String :=
  "help"

/-- Whether a word can stand in the place of a verb. -/
def isVerbWord (word : String) : Bool :=
  word = helpWord || (Verb.ofWord? word).isSome

/-- Something that can be given on a command line. -/
inductive Flag where
  | config
  | logLevel
  | jsonLogs
  | format
  | verbose
  | help
  | version
  | project
  | repository
  | mirror
  | refChange
  | pullRequest
  | name
  | dryRun
deriving DecidableEq, Repr

namespace Flag

/-- The word of a flag, which stands behind two dashes. -/
def word : Flag → String
  | config => "config"
  | logLevel => "log-level"
  | jsonLogs => "json-logs"
  | format => "format"
  | verbose => "verbose"
  | help => "help"
  | version => "version"
  | project => "project"
  | repository => "repo"
  | mirror => "mirror"
  | refChange => "ref-change"
  | pullRequest => "pull-request"
  | name => "name"
  | dryRun => "dry-run"

/-- The letter of a flag, which stands behind one dash. -/
def letter? : Flag → Option Char
  | config => some 'c'
  | logLevel => some 'l'
  | format => some 'f'
  | verbose => some 'v'
  | help => some 'h'
  | version => some 'V'
  | project => some 'p'
  | repository => some 'r'
  | name => some 'n'
  | jsonLogs | mirror | refChange | pullRequest | dryRun => none

/-- Whether a value belongs to a flag. -/
def takesValue : Flag → Bool
  | config | logLevel | format | project | repository | name => true
  | jsonLogs | verbose | help | version | mirror | refChange | pullRequest | dryRun => false

/-- The variable of the environment that stands for a flag. -/
def environmentName? : Flag → Option String
  | config => some "HOOKBRIDGE_CONFIG"
  | logLevel => some "LOG_LEVEL"
  | jsonLogs => some "JSON_LOGS"
  | _ => none

/-- The value of a flag that takes none, where it is given. -/
def raised : String :=
  "true"

/-- The value of a flag that takes none, where a variable denies it. -/
def lowered : String :=
  "false"

/-- Whether a flag can have a value. -/
def accepts (flag : Flag) (value : String) : Bool :=
  match flag with
  | config => value ≠ ""
  | logLevel => Console.LogLevel.all.any fun level => level.word = value
  | format => Console.Format.all.any fun format => format.name = value
  | project | repository | name => true
  | _ => value = raised || value = lowered

/-- The flags that cannot be given together with a flag. -/
def excludes : Flag → List Flag
  | mirror => [refChange, pullRequest]
  | _ => []

end Flag

/-- A part of the command line. -/
inductive Level where
  | general
  | behind (verb : Verb)
deriving DecidableEq, Repr

namespace Level

/-- The flags that every level has. -/
def sharedFlags : List Flag :=
  [.config, .logLevel, .jsonLogs, .format, .verbose, .help]

/-- The flags that must be given on a level. -/
def required : Level → List Flag
  | behind .reconcile | behind .list => [.project, .repository]
  | general | behind .capabilities => []

/-- The flags of a level. -/
def flags : Level → List Flag
  | general => sharedFlags ++ [.version]
  | behind .reconcile =>
      sharedFlags ++ [.project, .repository, .mirror, .refChange, .pullRequest, .name, .dryRun]
  | behind .list => sharedFlags ++ [.project, .repository]
  | behind .capabilities => sharedFlags

/-- The flag of a level with this word. -/
def ofWord? (level : Level) (word : String) : Option Flag :=
  level.flags.find? fun flag => flag.word = word

/-- The flag of a level with this letter. -/
def ofLetter? (level : Level) (letter : Char) : Option Flag :=
  level.flags.find? fun flag => flag.letter? = some letter

end Level

end WebhookSync.CommandLine
