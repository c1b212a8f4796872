import WebhookSync.Json.Fault
import WebhookSync.Settings.Source

/-!
# Settings

Where the server is, where callbacks go and what webhooks are called.  Defaults, a file and the
environment are laid over each other in this order, key by key; only then the settings are read
from the tree.  A text may be given as a number or a truth value, and the other way round where
that makes sense.
-/

namespace WebhookSync

/-- How to reach the hosting server. -/
structure ServerSettings where
  baseUrl : String
  token : Option String
  timeoutSeconds : UInt64
deriving DecidableEq, Repr

/-- The settings of the program. -/
structure Settings where
  server : ServerSettings
  orchestratorUrl : String
  webhookName : String
deriving DecidableEq, Repr

namespace ServerSettings

/-- The time that a request may take unless it is set, in seconds. -/
def defaultTimeout : UInt64 :=
  30

/-- A server without a token, with the usual time limit. -/
def ofUrl (baseUrl : String) : ServerSettings :=
  ⟨baseUrl, none, defaultTimeout⟩

/-- The settings with a token. -/
def withToken (server : ServerSettings) (token : String) : ServerSettings :=
  { server with token := some token }

/-- The settings with a time limit. -/
def withTimeout (server : ServerSettings) (seconds : UInt64) : ServerSettings :=
  { server with timeoutSeconds := seconds }

/-- The settings in a message; a token is not shown. -/
def describe (server : ServerSettings) : String :=
  let token := if server.token.isSome then "Some(\"[REDACTED]\")" else "None"
  "ServerConfig \x7b base_url: " ++ Text.quoted server.baseUrl ++ ", token: " ++ token ++
    ", timeout_seconds: " ++ toString server.timeoutSeconds.toNat ++ " \x7d"

end ServerSettings

namespace Settings

/-- The settings in a message. -/
def describe (settings : Settings) : String :=
  "AppConfig \x7b server: " ++ settings.server.describe ++
    ", orchestrator: OrchestratorConfig \x7b base_url: " ++ Text.quoted settings.orchestratorUrl ++
    " \x7d, webhook: WebhookConfig \x7b name: " ++ Text.quoted settings.webhookName ++ " \x7d \x7d"

/-- The word with which the names of the program's variables begin. -/
def environmentWord : String :=
  "HOOKBRIDGE"

/-- The name of webhooks unless it is set. -/
def defaultName : String :=
  "hookbridge"

/-- The settings where nothing is set. -/
def defaults : Settings :=
  ⟨.ofUrl "http://localhost:7990", "http://localhost:8080", defaultName⟩

/-! ## Faults -/

/-- What stands in the place of an expected value. -/
inductive Found where
  | null
  | bool (value : Bool)
  | integer (value : Int)
  | float (value : Float)
  | text (value : String)
  | list
  | table

/-- The text that names a found value. -/
def Found.describe : Found → String
  | null => "unit value"
  | bool value => "boolean `" ++ toString value ++ "`"
  | integer value => "integer `" ++ toString value ++ "`"
  | float value => "floating point `" ++ Decimal.plainWithPoint.render value ++ "`"
  | text value => "string " ++ Text.quoted value
  | list => "sequence"
  | table => "map"

/-- Why settings cannot be read. -/
inductive Fault where
  /-- the file is not well formed -/
  | unreadableFile (name : String)
  /-- a value cannot be taken for what a key needs -/
  | wrongValue (found : String) (expected key : String) (origin : Option String)
  /-- a group of settings is none -/
  | wrongGroup (found : Found) (expected : String)
  | shortGroup (length : Nat) (expected : String)
  | missingField (name : String)
  /-- a key counts from the end of a list beyond its beginning -/
  | positionOutOfRange

/-- The text of a fault. -/
def Fault.message : Fault → String
  | unreadableFile name => "malformed file " ++ name
  | wrongValue found expected key origin =>
      "invalid type: " ++ found ++ ", expected " ++ expected ++ " for key `" ++ key ++ "`" ++
        (origin.map fun origin => " in " ++ origin).getD ""
  | wrongGroup found expected =>
      "invalid type: " ++ found.describe ++ ", expected " ++ expected
  | shortGroup length expected =>
      "invalid length " ++ toString length ++ ", expected " ++ expected
  | missingField name => "missing field `" ++ name ++ "`"
  | positionOutOfRange => "position out of range"

/-! ## Reading values -/

/-- What a value is. -/
def foundOf : Setting → Found
  | .scalar _ .null => .null
  | .scalar _ (.bool value) => .bool value
  | .scalar _ (.integer value) => .integer value
  | .scalar _ (.float value) => .float value
  | .scalar _ (.text value) => .text value
  | .list _ _ => .list
  | .table _ _ => .table

/-- A value as a text. -/
def textOf (key : String) (setting : Setting) : Except Fault String :=
  match setting with
  | .scalar _ (.text value) => .ok value
  | .scalar _ (.bool value) => .ok (toString value)
  | .scalar _ (.integer value) => .ok (toString value)
  | .scalar _ (.float value) => .ok (Decimal.plain.render value)
  | other => .error (.wrongValue (foundOf other).describe "a string" key other.origin)

/-- A value as a text; nothing is no text. -/
def optionalTextOf (key : String) (setting : Setting) : Except Fault (Option String) :=
  match setting with
  | .scalar _ .null => .ok none
  | other => (textOf key other).map some

/-- The number without a sign that a text writes: some words stand for one and zero. -/
def wholeOfText? (text : String) : Option UInt64 :=
  let word := Text.lowercase text
  if ["true", "on", "yes"].contains word then some 1
  else if ["false", "off", "no"].contains word then some 0
  else
    let digits := match text.toList with
      | '+' :: rest => rest
      | chars => chars
    let n := Text.ofDigits 10 digits
    if !digits.isEmpty && digits.all Char.isDigit && n < UInt64.size then some n.toUInt64 else none

/-- A value as a number without a sign.  A fraction is rounded, half away from zero. -/
def wholeOf (key : String) (setting : Setting) : Except Fault UInt64 :=
  let wrong (found expected : String) : Except Fault UInt64 :=
    .error (.wrongValue found expected key setting.origin)
  match setting with
  | .scalar _ (.integer value) =>
      if value < 0 then
        wrong ("64-bit integer `" ++ toString value ++ "`")
          "an unsigned 64 bit or less integer"
      else .ok value.toNat.toUInt64
  | .scalar _ (.bool value) => .ok (if value then 1 else 0)
  | .scalar _ (.float value) => .ok value.round.toUInt64
  | .scalar _ (.text value) =>
      match wholeOfText? value with
      | some n => .ok n
      | none => wrong (Found.text value).describe "an integer"
  | other => wrong (foundOf other).describe "an integer"

/-! ## Reading groups -/

/-- A group of settings: a table, or a list of the group's settings in their order.  Each setting
comes with its key. -/
structure Group where
  /-- the setting of a name, which stands at a position in a list -/
  find? : (name : String) → (position : Nat) → Option (String × Setting)
  /-- the fault of a setting that is not there -/
  missing : (name : String) → (position : Nat) → Fault

/-- The group under a key, with `size` settings. -/
def groupOf (key expected : String) (size : Nat) (setting : Setting) : Except Fault Group :=
  match setting with
  | .table _ _ =>
      .ok
        { find? := fun name _ => (setting.get? name).map fun found => (key ++ "." ++ name, found)
          missing := fun name _ => .missingField name }
  | .list _ items =>
      let elements := if size = 1 then " element" else " elements"
      .ok
        { find? := fun _ position =>
            items[position]?.map fun found =>
              (key ++ "[" ++ toString position ++ "]", found)
          missing := fun _ position =>
            .shortGroup position (expected ++ " with " ++ toString size ++ elements) }
  | other => .error (.wrongGroup (foundOf other) expected)

/-- A setting that a group must have. -/
def Group.require {α : Type} (group : Group) (name : String) (position : Nat)
    (read : String → Setting → Except Fault α) : Except Fault α :=
  match group.find? name position with
  | some (key, setting) => read key setting
  | none => .error (group.missing name position)

/-- A setting that a group may lack. -/
def Group.optional {α : Type} (group : Group) (name : String) (position : Nat) (default : α)
    (read : String → Setting → Except Fault α) : Except Fault α :=
  match group.find? name position with
  | some (key, setting) => read key setting
  | none => .ok default

/-- The settings of the server. -/
def serverOf (setting : Setting) : Except Fault ServerSettings := do
  let group ← groupOf "server" "struct ServerConfig" 3 setting
  let baseUrl ← group.require "base_url" 0 textOf
  let token ← group.optional "token" 1 none optionalTextOf
  let timeout ← group.optional "timeout_seconds" 2 ServerSettings.defaultTimeout wholeOf
  return ⟨baseUrl, token, timeout⟩

/-- The settings of a tree. -/
def ofTree (root : Setting) : Except Fault Settings := do
  let entry (key : String) : Except Fault Setting :=
    match root.get? key with
    | some setting => .ok setting
    | none => .error (.missingField key)
  let server ← serverOf (← entry "server")
  let orchestrator ← groupOf "orchestrator" "struct OrchestratorConfig" 1 (← entry "orchestrator")
  let orchestratorUrl ← orchestrator.require "base_url" 0 textOf
  let webhook ← groupOf "webhook" "struct WebhookConfig" 1 (← entry "webhook")
  let webhookName ← webhook.optional "name" 0 defaultName textOf
  return ⟨server, orchestratorUrl, webhookName⟩

/-! ## Layers -/

/-- The tree of the defaults. -/
def defaultTree : Setting :=
  let text (value : String) : Setting := .scalar none (.text value)
  .table none
    [("server", .table none
        [("base_url", text defaults.server.baseUrl),
         ("timeout_seconds", .scalar none (.integer defaults.server.timeoutSeconds.toNat))]),
     ("orchestrator", .table none [("base_url", text defaults.orchestratorUrl)]),
     ("webhook", .table none [("name", text defaults.webhookName)])]

/-- The settings of layers that are laid over the defaults one after the other. -/
def ofLayers (layers : List (List (String × Setting))) : Except Fault Settings :=
  match layers.foldlM assignAll defaultTree with
  | some root => ofTree root
  | none => .error .positionOutOfRange

/-- The settings of the environment alone. -/
def loadEnvironment (word : String) (environment : Environment) : Except Fault Settings :=
  ofLayers [fromEnvironment word environment]

/-- The settings of a file and the environment.  A file that is not there sets nothing. -/
def load [Libraries] (files : List SourceFile) (path : String) (environment : Environment) :
    Except Fault Settings :=
  match findFile? files path with
  | none => ofLayers [fromEnvironment environmentWord environment]
  | some (format, file) =>
      match format.document? file.name file.text with
      | none => .error (.unreadableFile file.name)
      | some entries => ofLayers [entries, fromEnvironment environmentWord environment]

end Settings

end WebhookSync
