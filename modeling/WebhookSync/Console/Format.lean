import WebhookSync.Text.Lowercase
import WebhookSync.Yaml.Printer

/-!
# Formats of answers

An answer is given as lines for a reader or in one of two structured forms.
-/

namespace WebhookSync.Console

/-- The form of an answer. -/
inductive Format where
  | text
  | json
  | yaml
deriving DecidableEq, Repr

namespace Format

/-- Every format. -/
def all : List Format :=
  [text, json, yaml]

/-- The name of a format. -/
def name : Format → String
  | text => "text"
  | json => "json"
  | yaml => "yaml"

/-- The format that a word names, in whatever case. -/
def ofName? (word : String) : Option Format :=
  match Text.lowercase word with
  | "text" | "plain" => some text
  | "json" => some json
  | "yaml" | "yml" => some yaml
  | _ => none

/-- What is said of a word that names no format. -/
def unknown (word : String) : String :=
  "Unknown format: " ++ word

/-- A value in a structured form; for a reader there is none. -/
def render? (format : Format) (value : Json) : Option String :=
  match format with
  | text => none
  | json => some value.pretty
  | yaml => some (Yaml.document value)

end Format

/-- How much is logged. -/
inductive LogLevel where
  | trace
  | debug
  | info
  | warn
  | error
deriving DecidableEq, Repr

namespace LogLevel

/-- Every level, the one that logs most first. -/
def all : List LogLevel :=
  [trace, debug, info, warn, error]

/-- The word that asks for a level. -/
def word : LogLevel → String
  | trace => "trace"
  | debug => "debug"
  | info => "info"
  | warn => "warn"
  | error => "error"

/-- The name of a level. -/
def name : LogLevel → String
  | trace => "TRACE"
  | debug => "DEBUG"
  | info => "INFO"
  | warn => "WARN"
  | error => "ERROR"

/-- The level that a word names, in whatever case; any other word stands for the middle one. -/
def ofName (name : String) : LogLevel :=
  let lower := Text.lowercase name
  (all.find? fun level => level.word = lower).getD info

end LogLevel

end WebhookSync.Console
