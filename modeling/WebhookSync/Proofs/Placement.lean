import WebhookSync.Proofs.Server.Places
import WebhookSync.Proofs.Server.Paging
import WebhookSync.Proofs.Server.Verdicts

/-!
# Requests keep to the place of a repository

What is sent for a call on a repository goes to the place of the repository below the path of the
base address, with one segment each for the project key and the slug, if and only if neither of the
two steps out of its place (`requests_keep_place_iff`).  A repository can be named by a point, which
does (`point_leaves_place`).
-/

namespace WebhookSync

open Url

/-- The webhooks that a call is about: those of a repository, or one of them. -/
def Gateway.Call.place? : Gateway.Call → Option (Repository × Option Int64)
  | supportedEvents => none
  | list repository _ => some (repository, none)
  | create repository _ _ _ => some (repository, none)
  | update repository id _ _ _ => some (repository, some id)
  | delete repository id => some (repository, some id)

namespace Server

open Dialogue (Asks transcript)
open Gateway (Call)

namespace Client

variable {client : Client} {repository : Repository} {id? : Option Int64}

/-- Where the webhooks of a repository are, or one of them. -/
def placeUrl (client : Client) (repository : Repository) : Option Int64 → Url
  | none => client.webhooksUrl repository
  | some id => client.webhookUrl repository id

/-- A path to the webhooks of a repository, or to one of them: behind the path of the base address
it has the fixed segments, one for the key, one for the slug and, for one webhook, one more. -/
def KeepsPlace (client : Client) (isOne : Bool) (path : List Char) : Prop :=
  ∃ key slug behind, '/' ∉ key ∧ '/' ∉ slug ∧ '/' ∉ behind ∧
    path = client.writtenPlace key slug ++ if isOne then '/' :: behind else []

/-! ## Paths -/

theorem slash_not_mem_toString (id : Int) : '/' ∉ (toString id).toList := by
  intro member
  rcases isNumeral_of_mem_toString member with isDigit | isSign
  · exact absurd isDigit (by decide)
  · exact absurd isSign (by decide)

theorem slash_not_mem_segment (text : String) : '/' ∉ (client.segment text).toList :=
  fun member => (isSegmentChar_segmentOf '/' member).2 rfl

theorem count_writtenPlace {key slug : List Char} (keyNoSlash : '/' ∉ key)
    (slugNoSlash : '/' ∉ slug) :
    (client.writtenPlace key slug).count '/' =
      (dropLastSlash client.base.path.write).count '/' + 8 := by
  have front : "/rest/api/1.0/projects/".toList.count '/' = 5 := by decide
  have middle : "/repos/".toList.count '/' = 2 := by decide
  have back : "/webhooks".toList.count '/' = 1 := by decide
  simp only [writtenPlace, List.count_append, List.count_eq_zero.mpr keyNoSlash,
    List.count_eq_zero.mpr slugNoSlash, front, middle, back]

/-- What stands behind the webhooks of a repository. -/
def behindWebhooks (id? : Option Int64) : List Char :=
  (id?.map fun id => '/' :: (toString id.toInt).toList).getD []

/-- The path of a place, from that of the webhooks of the repository. -/
theorem write_placeUrl (client : Client) (repository : Repository) (id? : Option Int64) :
    (client.placeUrl repository id?).path.write =
      (client.webhooksUrl repository).path.write ++ behindWebhooks id? := by
  cases id? with
  | none => exact (List.append_nil _).symm
  | some id => exact write_webhookUrl client repository id

theorem behindWebhooks_eq (id? : Option Int64) :
    ∃ behind, '/' ∉ behind ∧ behindWebhooks id? = if id?.isSome then '/' :: behind else [] := by
  cases id? with
  | none => exact ⟨[], List.not_mem_nil, rfl⟩
  | some id => exact ⟨(toString id.toInt).toList, slash_not_mem_toString _, rfl⟩

theorem count_behind {behind : List Char} (noSlash : '/' ∉ behind) (isOne : Bool) :
    (if isOne then '/' :: behind else []).count '/' = isOne.toNat := by
  cases isOne with
  | false => rfl
  | true => exact List.count_cons_self.trans (congrArg (· + 1) (List.count_eq_zero.mpr noSlash))

/-- The path of a place has all its segments just when neither the key nor the slug steps out. -/
theorem keepsPlace_placeUrl_iff (normal : client.base.IsNormal)
    (single : ¬['/', '/'] <:+ client.base.path.write) :
    client.KeepsPlace id?.isSome (client.placeUrl repository id?).path.write ↔
      ¬StepsOut repository.projectKey ∧ ¬StepsOut repository.slug := by
  obtain ⟨tail, tailNoSlash, isTail⟩ := behindWebhooks_eq id?
  rw [write_placeUrl, isTail]
  constructor
  · rintro ⟨key, slug, behind, keyNoSlash, slugNoSlash, behindNoSlash, isPath⟩
    rw [← not_or]
    intro stepsOut
    have short := count_webhooksUrl_lt normal single stepsOut
    have slashes := congrArg (List.count '/') isPath
    rw [List.count_append, List.count_append, count_behind tailNoSlash,
      count_behind behindNoSlash, count_writtenPlace keyNoSlash slugNoSlash] at slashes
    exact absurd (Nat.add_right_cancel slashes) (Nat.ne_of_lt short)
  · rintro ⟨keyStays, slugStays⟩
    rw [write_webhooksUrl normal single keyStays slugStays]
    exact ⟨_, _, tail, slash_not_mem_segment _, slash_not_mem_segment _, tailNoSlash, rfl⟩

/-! ## Requests -/

/-- Every page of a listing is at the place of the webhooks. -/
theorem asks_listFrom (client : Client) (repository : Repository) (filter : List Event)
    (start : UInt32) (before : List Webhook) :
    Asks (fun request => request.url.path = (client.webhooksUrl repository).path)
      (client.listFrom repository filter start before) := by
  rw [listFrom]
  refine asks_send rfl fun response => ?_
  split
  · exact .done _
  · split
    · exact .done _
    · split
      · exact .done _
      · split
        · exact asks_listFrom client repository filter _ _
        · exact .done _
termination_by UInt32.size - start.toNat
decreasing_by
  rename_i grows
  have := UInt32.lt_iff_toNat_lt.mp grows
  have := UInt32.toNat_lt start
  simp only [UInt32.size]
  omega

/-- All that is sent for a call on a repository goes to its place. -/
theorem asks_answer_place (client : Client) {call : Call}
    (about : call.place? = some (repository, id?)) :
    Asks (fun request => request.url.path = (client.placeUrl repository id?).path)
      (client.answer call) := by
  cases call with
  | supportedEvents => cases about
  | list repository filter =>
      cases about
      exact asks_listFrom client repository filter 0 []
  | create repository name events url =>
      cases about
      exact asks_send rfl fun response => .done _
  | update repository id name events url =>
      cases about
      exact asks_send rfl fun response => .done _
  | delete repository id =>
      cases about
      refine asks_send rfl fun response => ?_
      split <;> exact .done _

end Client

/-- Whatever the server answers, a request for a call on a repository goes to the place of the
repository just when neither its key nor its slug steps out. -/
theorem requests_keep_place_iff {address : String} {token : Option String} {client : Client}
    (opened : Client.ofAddress address token = .ok client) (web : client.base.IsWeb)
    (single : ¬['/', '/'] <:+ client.base.path.write) {call : Call} {repository : Repository}
    {id? : Option Int64} (about : call.place? = some (repository, id?)) {σ : Type}
    (server : (request : Http.Request) → σ → Http.Answer request × σ) (state : σ) :
    ∀ exchange ∈ transcript server (client.answer call) state,
      client.KeepsPlace id?.isSome exchange.question.target.path.write ↔
        ¬StepsOut repository.projectKey ∧ ¬StepsOut repository.slug := by
  intro exchange member
  have leads := Dialogue.leads_transcript server (client.answer call) state
  have isPlace : exchange.question.target.path = (client.placeUrl repository id?).path :=
    (client.asks_answer_place about).of_leads leads exchange member
  rw [isPlace]
  exact Client.keepsPlace_placeUrl_iff (Client.isNormal_of_ofAddress opened web) single

/-- The request that rewrites a webhook of a repository with a usual name. -/
theorem requests_keep_place_of_update :
    let client := Client.belowPath
    let call : Call :=
      .update ⟨"~user", "service"⟩ 7 "ci" (.ofList Event.all) "https://ci.example.com"
    Client.ofAddress "http://git.example.com/bitbucket" none = .ok client ∧ client.base.IsWeb ∧
      ¬['/', '/'] <:+ client.base.path.write ∧
      call.place? = some (⟨"~user", "service"⟩, some 7) ∧
      ∃ exchange ∈ transcript recite (client.answer call) [],
        client.KeepsPlace true exchange.question.target.path.write := by
  intro client call
  have web : client.base.IsWeb := .inl rfl
  have single : ¬['/', '/'] <:+ client.base.path.write := by decide
  have sent : (client.entryOf call (.error (.dropped (Client.shownUrl
      (client.webhookUrl ⟨"~user", "service"⟩ 7))))).exchange ∈
        transcript recite (client.answer call) [] :=
    List.mem_cons_self
  have about : call.place? = some (⟨"~user", "service"⟩, some 7) := rfl
  have keeps := requests_keep_place_iff Client.ofAddress_belowPath web single about recite [] _ sent
  exact ⟨Client.ofAddress_belowPath, web, single, about, _, sent,
    keeps.mpr ⟨by decide, by decide⟩⟩

/-- Names that step out: what is sent to list the webhooks goes elsewhere. -/
theorem points_leave_place :
    let client := Client.belowPath
    Client.ofAddress "http://git.example.com/bitbucket" none = .ok client ∧ client.base.IsWeb ∧
      ¬['/', '/'] <:+ client.base.path.write ∧
      ∀ case ∈ [(".", "/bitbucket/rest/api/1.0/projects/repos/service/webhooks"),
          (".\t.", "/bitbucket/rest/api/1.0//repos/service/webhooks")],
        ∃ repository exchange, Repository.ofParts case.1 "service" = .ok repository ∧
          exchange ∈ transcript recite (client.answer (.list repository Event.all)) [] ∧
          exchange.question.target.path.write = case.2.toList ∧
          ¬client.KeepsPlace false exchange.question.target.path.write := by
  intro client
  have web : client.base.IsWeb := .inl rfl
  have single : ¬['/', '/'] <:+ client.base.path.write := by decide
  have normal : client.base.IsNormal := Client.isNormal_of_ofAddress Client.ofAddress_belowPath web
  have canSend : client.CanSend client.base := ⟨rfl, web⟩
  have displaced {key path : String}
      (accepted : Repository.ofParts key "service" = .ok ⟨key, "service"⟩) (stepsOut : StepsOut key)
      (isPath : (client.webhooksUrl ⟨key, "service"⟩).path.write = path.toList) :
      ∃ repository exchange, Repository.ofParts key "service" = .ok repository ∧
        exchange ∈ transcript recite (client.answer (.list repository Event.all)) [] ∧
        exchange.question.target.path.write = path.toList ∧
        ¬client.KeepsPlace false exchange.question.target.path.write := by
    have place := @Client.keepsPlace_placeUrl_iff client ⟨key, "service"⟩ none normal single
    obtain ⟨exchange, sent, isPage⟩ : ∃ exchange,
        exchange ∈ transcript recite (client.answer (.list ⟨key, "service"⟩ Event.all)) [] ∧
          exchange.question = client.pageRequest ⟨key, "service"⟩ Event.all 0 := by
      rw [Client.answer, Client.listFrom_of_canSend canSend]
      exact ⟨_, List.mem_cons_self, rfl⟩
    refine ⟨⟨key, "service"⟩, exchange, accepted, sent, ?_⟩
    rw [isPage]
    exact ⟨isPath, fun keeps => (place.mp keeps).1 stepsOut⟩
  simp only [List.forall_mem_cons]
  exact ⟨Client.ofAddress_belowPath, web, single,
    displaced (by decide +kernel) (by decide) (by decide),
    displaced (by decide +kernel) (by decide) (by decide), List.forall_mem_nil _⟩

end Server

end WebhookSync
