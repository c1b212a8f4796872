import WebhookSync.CommandLine.Invocation
import WebhookSync.CommandLine.Usage
import WebhookSync.Console.View
import WebhookSync.Server.Client
import WebhookSync.Settings.Basic
import WebhookSync.Settings.VariableFile

/-!
# The program

A command is a course of acts: it sends requests to the hosting server and prints lines.  Everything
that can be seen of a run afterwards is its outcome, and in it stands whatever was printed, also
when the run failed later on.

What is not modelled: the log, which goes to the standard error between these texts; a standard
output that cannot be written to; and an end of the memory.
-/

namespace WebhookSync.Program

open CommandLine (Command Halt Invocation RepositoryWords)
open Console (Format Palette paint unlines)

/-- What a run finds around it. -/
structure Surroundings where
  environment : Settings.Environment
  /-- the text of the file with further variables -/
  variableFile : Option String
  files : List Settings.SourceFile
  /-- the answer is shown on a terminal -/
  onTerminal : Bool

/-- The variables of the environment and of the file with further ones. -/
def Surroundings.allVariables (around : Surroundings) : Settings.Environment :=
  match around.variableFile with
  | some text => Settings.VariableFile.extend around.environment text
  | none => around.environment

/-- Everything that can be seen of a run, apart from its log. -/
structure Outcome where
  exitCode : UInt32
  stdout : String
  stderr : String
deriving DecidableEq, Repr

/-! ## Trouble -/

/-- Why a command has no answer. -/
inductive Trouble where
  | settings (path : String) (cause : Settings.Fault)
  | repository (cause : Repository.Fault)
  | setback (setback : Setback)
  /-- there is no id left for a webhook that would be created -/
  | idsExhausted

namespace Trouble

/-- The texts of a trouble and of its causes, the outermost first. -/
def causes : Trouble → List String
  | settings path cause => ["Failed to load configuration from " ++ path, cause.message]
  | repository cause => ["Invalid repository", cause.message]
  | setback found => found.causes
  | idsExhausted => ["No id is left for a new webhook"]

/-- The exit code of a run with a trouble. -/
def exitCode : Trouble → UInt32
  | idsExhausted => 101
  | _ => 1

/-- The lines that tell of a trouble: the outermost text, and on demand the others. -/
def view (palette : Palette) (isVerbose : Bool) (trouble : Trouble) : List String :=
  let line (look : Console.Look) (word text : String) : String :=
    paint palette look word ++ ": " ++ text
  match trouble.causes with
  | [] => []
  | text :: causes =>
      line .alarm "Error" text ::
        (if isVerbose then causes.map (line .yellow "Caused by") else [])

end Trouble

/-! ## Acts -/

/-- What a command does: it sends a request to the server, or it prints a text and a line break. -/
inductive Act where
  | send (request : Http.Request)
  | print (line : String)

/-- What comes back for an act. -/
def Act.Reply : Act → Type
  | send request => Http.Answer request
  | print _ => Unit

/-- A course of acts that comes to a value unless there is trouble. -/
abbrev Session (α : Type) : Type :=
  Dialogue Act Act.Reply (Except Trouble α)

namespace Session

/-- Lead a dialogue of calls with a server. -/
def converse {α : Type} (client : Server.Client) (session : Gateway.Session (Except Trouble α)) :
    Session α :=
  (client.converse session).expand fun request => .ask (.send request) .done

/-- Print lines one after the other. -/
def printAll : List String → Session Unit
  | [] => .done (.ok ())
  | line :: rest => .ask (.print line) fun _ => printAll rest

end Session

/-! ## Commands -/

/-- What every command needs to know. -/
structure Setup where
  settings : Settings
  format : Format
  palette : Palette

namespace Setup

/-- The client of the configured server. -/
def client (setup : Setup) : Except Trouble Server.Client :=
  let server := setup.settings.server
  (inContext ("Failed to create client for " ++ server.baseUrl)
    (Server.Client.ofAddress server.baseUrl server.token)).mapError .setback

/-- Print an answer, which has a structured form and one for a reader. -/
def printAnswer (setup : Setup) (value : Json) (view : List String) : Session Unit :=
  match setup.format.render? value with
  | some text => .printAll [text]
  | none => .printAll view

/-- The repository that is given. -/
def repository (words : RepositoryWords) : Except Trouble Repository :=
  (Repository.ofParts words.project words.slug).mapError .repository

/-- The subscription of a draft. -/
def subscription (context : String) (draft : Subscription.Draft) : Except Trouble Subscription :=
  (inContext context (draft.build.mapError .invalidSubscription)).mapError .setback

/-- Once everything for it is at hand, lead a dialogue with a server and go on with what it came
to. -/
def lead {α β : Type} (prepared : Except Trouble (Server.Client × α))
    (session : α → Gateway.Session (Except Trouble β)) (finish : β → Session Unit) : Session Unit :=
  match prepared with
  | .error trouble => .done (.error trouble)
  | .ok (client, given) => (Session.converse client (session given)).andThen finish

/-- Show the webhooks of a repository that are the program's own. -/
def list (setup : Setup) (words : RepositoryWords) : Session Unit :=
  let prepared : Except Trouble (Server.Client × Subscription) := do
    let repository ← repository words
    let owner ← subscription "Invalid webhook configuration"
      ((Subscription.Draft.start repository setup.settings.webhookName).setOrchestratorUrl
        setup.settings.orchestratorUrl)
    return (← setup.client, owner)
  let session (owner : Subscription) :
      Gateway.Session (Except Trouble (Repository × List Webhook)) :=
    (Reconcile.listOwned owner).map fun hooks =>
      ((inContext owner.repository.listingContext hooks).mapError .setback).map
        (owner.repository, ·)
  lead prepared session fun (repository, hooks) =>
    setup.printAnswer (.array (hooks.map Webhook.toJson))
      (Console.webhooksView setup.palette repository hooks)

/-- Show what the server supports. -/
def capabilities (setup : Setup) : Session Unit :=
  lead (setup.client.map (·, ())) (fun _ => probe.map (·.mapError .setback)) fun report =>
    setup.printAnswer report.toJson
      (Console.capabilitiesView setup.palette setup.settings.server.baseUrl report)

/-- Reconcile for real, and report it. -/
def reconcileNow (wanted : Subscription) : Gateway.Session (Except Trouble Report) :=
  (WebhookSync.reconcile wanted).map fun result =>
    ((inContext ("Failed to reconcile webhooks on " ++ wanted.repository.display)
      result).mapError .setback).map fun hook => ⟨wanted.repository.display, false, [], hook⟩

/-- Report what a reconciliation would do. -/
def reconcilePreview (wanted : Subscription) : Gateway.Session (Except Trouble Report) :=
  (preview wanted).map (·.mapError fun
    | .setback setback => .setback setback
    | .idsExhausted => .idsExhausted)

/-- Reconcile the webhooks of a repository with what is asked for, or show what that would do. -/
def reconcile (setup : Setup) (words : RepositoryWords)
    (mirror onRefChange onPullRequest : Bool) (name : Option String) (isPreview : Bool) :
    Session Unit :=
  let prepared : Except Trouble (Server.Client × Subscription) := do
    let repository ← repository words
    let start := Subscription.Draft.start repository (name.getD setup.settings.webhookName)
    let wanted ← subscription "Invalid webhook request"
      ((((start.setOrchestratorUrl setup.settings.orchestratorUrl).setMirror
        mirror).setOnRefChange onRefChange).setOnPullRequest onPullRequest)
    return (← setup.client, wanted)
  lead prepared (if isPreview then reconcilePreview else reconcileNow) fun report =>
    setup.printAnswer report.toJson (Console.reportView setup.palette report)

/-- Carry out a command. -/
def execute (setup : Setup) : Command → Session Unit
  | .reconcile words mirror onRefChange onPullRequest name isPreview =>
      setup.reconcile words mirror onRefChange onPullRequest name isPreview
  | .list words => setup.list words
  | .capabilities => setup.capabilities

end Setup

/-! ## Runs -/

/-- The outcome of a command line that leads to no command. -/
def outcomeOfHalt : Halt → Outcome
  | .helpWanted => ⟨0, unlines CommandLine.usage, ""⟩
  | .versionWanted => ⟨0, unlines [CommandLine.programVersion], ""⟩
  | halt => ⟨2, "", unlines (("error: " ++ halt.message) :: CommandLine.usage)⟩

/-- Take the course of a command's acts with the server: what is printed comes behind what was
printed before, and it stays, whatever the command comes to. -/
def observe {α : Type} (printed : String) : Dialogue Act Act.Reply α → Server.Session (String × α)
  | .done result => .done (printed, result)
  | .ask (.send request) next => .ask request fun answer => observe printed (next answer)
  | .ask (.print line) next => observe (printed ++ (line ++ "\n")) (next ())

/-- The outcome of a command that has printed something and come to an end. -/
def outcomeOf (palette : Palette) (isVerbose : Bool) (printed : String) :
    Except Trouble Unit → Outcome
  | .ok () => ⟨0, printed, ""⟩
  | .error trouble => ⟨trouble.exitCode, printed, unlines (trouble.view palette isVerbose)⟩

section Runs

variable [Settings.Libraries]

/-- Carry out what is asked for with the settings that count. -/
def carryOut (invocation : Invocation) (palette : Palette) (files : List Settings.SourceFile)
    (environment : Settings.Environment) : Session Unit :=
  match Settings.load files invocation.config environment with
  | .error cause => .done (.error (.settings invocation.config cause))
  | .ok settings =>
      Setup.execute ⟨settings, invocation.format, palette⟩ invocation.command

/-- Run the program with the words behind its name. -/
def run (words : List String) (around : Surroundings) : Server.Session Outcome :=
  let environment := around.allVariables
  let palette := Palette.choose environment around.onTerminal
  match Invocation.ofWords words environment with
  | .error halt => .done (outcomeOfHalt halt)
  | .ok invocation =>
      (observe "" (carryOut invocation palette around.files environment)).map fun seen =>
        outcomeOf palette invocation.isVerbose seen.1 seen.2

end Runs

end WebhookSync.Program
