import WebhookSync.Proofs.Server.Addresses
import WebhookSync.Proofs.Url.Normal

/-!
# Places of webhooks

The webhooks of a repository have their place below the path of the base address: fixed segments,
and one each for the project key and the slug (`Client.write_webhooksUrl`).  Where the key or the
slug steps out of its place, a segment is missing (`Client.count_webhooksUrl_lt`).
-/

namespace WebhookSync.Server.Client

open Url

variable {client : Client} {repository : Repository}

/-- The segment of a text in the addresses of the client. -/
def segment (client : Client) (text : String) : String :=
  segmentOf (isSpecial client.base.scheme) text

/-- The path to the webhooks of a repository, with these segments for its key and its slug. -/
def writtenPlace (client : Client) (key slug : List Char) : List Char :=
  dropLastSlash client.base.path.write ++ "/rest/api/1.0/projects/".toList ++ key ++
    "/repos/".toList ++ slug ++ "/webhooks".toList

/-- A client is made of what is read of its address, and of a token unless that is empty. -/
theorem ofAddress_eq_ok_iff {address : String} {token : Option String} :
    ofAddress address token = .ok client ↔
      Url.parse address = .ok client.base ∧ client.base.isOpaque = false ∧
        client.token = token.filter (· ≠ "") := by
  unfold ofAddress
  constructor
  · intro opened
    split at opened
    · cases opened
    · rename_i base parsed
      split at opened
      · cases opened
      · rename_i hasSegments
        obtain rfl := Except.ok.inj opened
        exact ⟨parsed, Bool.eq_false_iff.mpr hasSegments, rfl⟩
  · rintro ⟨parsed, hasSegments, isToken⟩
    simp only [parsed, hasSegments, Bool.false_eq_true, if_false, ← isToken]

/-- The client of a server below a path of its own. -/
def belowPath : Client :=
  ⟨⟨"http", "", none, some (.name "git.example.com"), none, .segments ["bitbucket"], none, none⟩,
    none⟩

theorem ofAddress_belowPath :
    ofAddress "http://git.example.com/bitbucket" none = .ok belowPath := by
  have parsed : Url.parse "http://git.example.com/bitbucket" = .ok belowPath.base := by
    decide +kernel
  exact ofAddress_eq_ok_iff.mpr ⟨parsed, rfl, rfl⟩

/-- The base address of a web server is in normal form. -/
theorem isNormal_of_ofAddress {address : String} {token : Option String}
    (opened : ofAddress address token = .ok client) (web : client.base.IsWeb) :
    client.base.IsNormal :=
  isNormal_of_parse web (ofAddress_eq_ok_iff.mp opened).1

theorem segmentsOf_webhooksUrl (keyStays : ¬StepsOut repository.projectKey)
    (slugStays : ¬StepsOut repository.slug) :
    (client.webhooksUrl repository).segmentsOf =
      places (dropEmptyLast client.base.segmentsOf) ++
        ["rest", "api", "1.0", "projects", client.segment repository.projectKey, "repos",
          client.segment repository.slug, "webhooks"] := by
  have fixed := segmentOf_fixed (isSpecial client.base.scheme)
  simp only [List.forall_mem_cons] at fixed
  obtain ⟨rest, api, version, projects, repos, webhooks, _⟩ := fixed
  have visible : segmentOf (isSpecial client.base.scheme) "rest" ≠ "" := by
    rw [rest.2]
    decide
  have stays : ∀ text ∈ ["rest", "api", "1.0", "projects", repository.projectKey, "repos",
      repository.slug, "webhooks"], ¬StepsOut text := by
    simp only [List.forall_mem_cons]
    exact ⟨rest.1, api.1, version.1, projects.1, keyStays, repos.1, slugStays, webhooks.1,
      List.forall_mem_nil _⟩
  refine (segmentsOf_extend client.base stays visible).trans ?_
  simp only [List.map_cons, List.map_nil, rest.2, api.2, version.2, projects.2, repos.2,
    webhooks.2, segment]

theorem neat_webhooksUrl (normal : client.base.IsNormal) :
    Neat (client.webhooksUrl repository).segmentsOf :=
  neat_extend normal.neat _

/-- The path to a webhook has one segment more. -/
theorem write_webhookUrl (client : Client) (repository : Repository) (id : Int64) :
    (client.webhookUrl repository id).path.write =
      (client.webhooksUrl repository).path.write ++ '/' :: (toString id.toInt).toList := by
  rw [webhookUrl_eq]
  exact (Path.write_append _ _).trans (congrArg _ (Path.write_singleton _))

section Base

variable (normal : client.base.IsNormal) (single : ¬['/', '/'] <:+ client.base.path.write)
include normal single

theorem write_places_base :
    (Path.segments (places (dropEmptyLast client.base.segmentsOf))).write =
      dropLastSlash client.base.path.write := by
  rw [normal.path] at single ⊢
  exact write_places normal.neat single

/-- The place of the webhooks of a repository. -/
theorem write_webhooksUrl (keyStays : ¬StepsOut repository.projectKey)
    (slugStays : ¬StepsOut repository.slug) :
    (client.webhooksUrl repository).path.write =
      client.writtenPlace (client.segment repository.projectKey).toList
        (client.segment repository.slug).toList := by
  have isPath : (client.webhooksUrl repository).path =
      .segments (client.webhooksUrl repository).segmentsOf :=
    rfl
  rw [isPath, segmentsOf_webhooksUrl keyStays slugStays, Path.write_append,
    write_places_base normal single, writtenPlace]
  simp [Path.write]

/-- Where the key or the slug steps out of its place, the path is too short. -/
theorem count_webhooksUrl_lt
    (stepsOut : StepsOut repository.projectKey ∨ StepsOut repository.slug) :
    (client.webhooksUrl repository).path.write.count '/' <
      (dropLastSlash client.base.path.write).count '/' + 8 := by
  have isPath : (client.webhooksUrl repository).path =
      .segments (client.webhooksUrl repository).segmentsOf :=
    rfl
  have neatPlaces : Neat (places (dropEmptyLast client.base.segmentsOf)) :=
    neat_places (normal.neat.of_subset (dropEmptyLast_subset _))
  have notRoot := segmentsOf_webhooksUrl_ne client repository
  have bound := length_places_extend_le client.base
    ["rest", "api", "1.0", "projects", repository.projectKey, "repos", repository.slug, "webhooks"]
  have few : ["rest", "api", "1.0", "projects", repository.projectKey, "repos", repository.slug,
      "webhooks"].countP (fun text => ¬StepsOut text) < 8 := by
    refine Nat.lt_of_le_of_ne List.countP_le_length fun all => ?_
    have stays := List.countP_eq_length.mp all
    rcases stepsOut with keyStepsOut | slugStepsOut
    · exact absurd keyStepsOut (of_decide_eq_true (stays repository.projectKey (by simp)))
    · exact absurd slugStepsOut (of_decide_eq_true (stays repository.slug (by simp)))
  rw [← write_places_base normal single, neatPlaces.count_write, isPath,
    (neat_webhooksUrl normal).count_write, ← places_of_ne notRoot]
  exact Nat.lt_of_le_of_lt bound (Nat.add_lt_add_left few _)

end Base

end WebhookSync.Server.Client
