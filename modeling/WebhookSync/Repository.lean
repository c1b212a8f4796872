import WebhookSync.Json.Read
import WebhookSync.Json.Value
import WebhookSync.Text.Blank

/-!
# Repositories

A repository of the hosting server is addressed by the key of its project and its own slug.
-/

namespace WebhookSync

/-- The address of a repository. -/
structure Repository where
  projectKey : String
  slug : String
deriving DecidableEq, Repr

namespace Repository

/-- Why two texts do not address a repository. -/
inductive Fault where
  | emptyProjectKey
  | emptySlug
deriving DecidableEq, Repr

/-- The text of a fault. -/
def Fault.message : Fault → String
  | emptyProjectKey => "Project key must not be empty"
  | emptySlug => "Repository slug must not be empty"

/-- The repository that a project key and a slug address.  Blanks at their ends do not count, and
neither may be empty; the project key is looked at first. -/
def ofParts (projectKey slug : String) : Except Fault Repository :=
  if Text.trim projectKey = "" then .error .emptyProjectKey
  else if Text.trim slug = "" then .error .emptySlug
  else .ok ⟨Text.trim projectKey, Text.trim slug⟩

/-- Key and slug with a slash between them. -/
def display (repository : Repository) : String :=
  repository.projectKey ++ "/" ++ repository.slug

/-- The structured form. -/
def toJson (repository : Repository) : Json :=
  .object [("project_key", .string repository.projectKey),
    ("repository_slug", .string repository.slug)]

/-- A repository in the course of reading: project key and slug. -/
abbrev Parts := Option String × Option String

/-- How the structured form is read.  The parts are taken as they stand. -/
def shape : Json.RecordShape Parts Repository where
  name := "RepositoryRef"
  start := (none, none)
  fields :=
    [.stored "project_key" Prod.fst (fun parts key => (some key, parts.2)) Json.Reader.string
       false,
     .stored "repository_slug" Prod.snd (fun parts slug => (parts.1, some slug))
       Json.Reader.string false]
  finish := fun parts => do
    let projectKey ← Json.Mismatch.require "project_key" parts.1
    let slug ← Json.Mismatch.require "repository_slug" parts.2
    return ⟨projectKey, slug⟩

/-- A repository in structured text. -/
def reader : Json.Reader Repository :=
  shape.reader

/-- The order by project key, then by slug. -/
def precedes (first second : Repository) : Bool :=
  decide (first.projectKey < second.projectKey) ||
    (first.projectKey == second.projectKey && decide (first.slug ≤ second.slug))

/-- A list without the repeats of neighbours. -/
def dropRepeats : List Repository → List Repository
  | first :: second :: rest =>
      if first = second then dropRepeats (second :: rest)
      else first :: dropRepeats (second :: rest)
  | short => short

/-- The repositories of a list in order, each once. -/
def sorted (repositories : List Repository) : List Repository :=
  dropRepeats (repositories.mergeSort precedes)

end Repository

end WebhookSync
