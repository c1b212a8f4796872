import WebhookSync.Proofs.Server.Conversation

/-!
# Servers that offer a listing

A server offers a list of webhooks by cutting it into pages, each but the last of which tells where
the next one starts.  The list is read back from it in order, by one request a page
(`Offers.run_list`), and a reconciliation takes the course that the list settles.
-/

namespace WebhookSync.Server

open Dialogue (transcript)
open Reconcile

/-! ## Pages -/

/-- The answer holds these webhooks on a page that is marked as the last one, or not marked. -/
def ClosesWith (answer : Except Http.Fault Http.Response) (values : List Webhook) : Prop :=
  ∃ draft, readDraft answer = .ok draft ∧ draft.values.getD [] = values ∧
    (draft.isLast = some true ∨ draft.isLast = none)

/-- The answer holds these webhooks on a page that is not the last one and tells where the next one
starts. -/
def ContinuesAt (answer : Except Http.Fault Http.Response) (values : List Webhook)
    (next : UInt32) : Prop :=
  ∃ draft, readDraft answer = .ok draft ∧ draft.values.getD [] = values ∧
    draft.isLast = some false ∧ draft.nextStart = some (some next)

instance (answer : Except Http.Fault Http.Response) (values : List Webhook) :
    Decidable (ClosesWith answer values) :=
  match read : readDraft answer with
  | .error failure => isFalse fun ⟨draft, isDraft, _⟩ => by rw [read] at isDraft; cases isDraft
  | .ok draft =>
      decidable_of_iff
        (draft.values.getD [] = values ∧ (draft.isLast = some true ∨ draft.isLast = none))
        ⟨fun closes => ⟨draft, read, closes⟩, fun ⟨other, isOther, closes⟩ => by
          obtain rfl := Except.ok.inj (read.symm.trans isOther)
          exact closes⟩

instance (answer : Except Http.Fault Http.Response) (values : List Webhook) (next : UInt32) :
    Decidable (ContinuesAt answer values next) :=
  match read : readDraft answer with
  | .error failure => isFalse fun ⟨draft, isDraft, _⟩ => by rw [read] at isDraft; cases isDraft
  | .ok draft =>
      decidable_of_iff
        (draft.values.getD [] = values ∧ draft.isLast = some false ∧
          draft.nextStart = some (some next))
        ⟨fun continues => ⟨draft, read, continues⟩, fun ⟨other, isOther, continues⟩ => by
          obtain rfl := Except.ok.inj (read.symm.trans isOther)
          exact continues⟩

/-- The pages into which the answers cut a list, from a start on: their starts and webhooks. -/
inductive Cut (answer : UInt32 → Except Http.Fault Http.Response) :
    UInt32 → List (UInt32 × List Webhook) → Prop where
  | last {start : UInt32} {values : List Webhook} (closes : ClosesWith (answer start) values) :
      Cut answer start [(start, values)]
  | onward {start next : UInt32} {values : List Webhook} {pages : List (UInt32 × List Webhook)}
      (continues : ContinuesAt (answer start) values next) (later : start < next)
      (onward : Cut answer next pages) : Cut answer start ((start, values) :: pages)

section Answer

variable {answer : Except Http.Fault Http.Response} {values : List Webhook}

theorem readPage_of_readDraft {draft : Page.Draft} (read : readDraft answer = .ok draft) :
    readPage answer = .ok draft.finished := by
  rw [readPage_eq_map, read]
  rfl

theorem ClosesWith.isLast (closes : ClosesWith answer values) : IsLast answer values := by
  obtain ⟨draft, read, rfl, marked | unmarked⟩ := closes
  · exact ⟨draft.finished, readPage_of_readDraft read, rfl, by simp [Page.Draft.finished, marked]⟩
  · exact ⟨draft.finished, readPage_of_readDraft read, rfl, by simp [Page.Draft.finished, unmarked]⟩

theorem ContinuesAt.leadsOn {start next : UInt32} (continues : ContinuesAt answer values next)
    (later : start < next) : LeadsOn start answer values next := by
  obtain ⟨draft, read, rfl, marked, begins⟩ := continues
  exact ⟨draft.finished, readPage_of_readDraft read, rfl, by simp [Page.Draft.finished, marked],
    by simp [Page.Draft.finished, begins], later⟩

end Answer

theorem Cut.paged {answer : UInt32 → Except Http.Fault Http.Response} {start : UInt32}
    {pages : List (UInt32 × List Webhook)} (cut : Cut answer start pages) :
    Paged start (pages.map fun page => (page.1, answer page.1)) (pages.flatMap Prod.snd) := by
  induction cut with
  | last closes =>
      rw [List.flatMap_singleton]
      exact .last closes.isLast
  | onward continues later onward ih =>
      rw [List.flatMap_cons]
      exact .onward (continues.leadsOn later) ih

/-! ## Offers -/

variable {client : Client} {wanted : Subscription} {σ : Type}
  {server : (request : Http.Request) → σ → Http.Answer request × σ}

/-- As long as its state holds, the server offers a listing in these pages; and the state keeps
holding when it is asked for them. -/
structure Offers (client : Client) (repository : Repository) (filter : List Event)
    (server : (request : Http.Request) → σ → Http.Answer request × σ) (Holds : σ → Prop)
    (pages : List (UInt32 × List Webhook)) : Prop where
  answers : ∃ answer, Cut answer 0 pages ∧ ∀ page ∈ pages, ∀ state, Holds state →
    (server (client.pageRequest repository filter page.1) state).1 = answer page.1
  steady : ∀ page ∈ pages, ∀ state, Holds state →
    Holds (server (client.pageRequest repository filter page.1) state).2

/-- A server that answers a request always in the same way offers what it cuts into pages. -/
theorem Cut.offers {repository : Repository} {filter : List Event}
    {pages : List (UInt32 × List Webhook)} {answer : Http.Request → Except Http.Fault Http.Response}
    (cut : Cut (fun start => answer (client.pageRequest repository filter start)) 0 pages)
    (answers : ∀ request state, (server request state).1 = answer request) :
    Offers client repository filter server (fun _ => True) pages where
  answers := ⟨_, cut, fun _ _ state _ => answers _ state⟩
  steady := fun _ _ _ _ => trivial

/-- What is offered is listed, page by page. -/
theorem Offers.run_list {repository : Repository} {filter : List Event} {Holds : σ → Prop}
    {pages : List (UInt32 × List Webhook)}
    (offers : Offers client repository filter server Holds pages)
    (canSend : client.CanSend client.base) {state : σ} (holds : Holds state) :
    ((client.answer (.list repository filter)).run server state).1 =
        .ok (pages.flatMap Prod.snd) ∧
      Holds ((client.answer (.list repository filter)).run server state).2 ∧
      (transcript server (client.answer (.list repository filter)) state).map (·.question) =
        pages.map fun page => client.pageRequest repository filter page.1 := by
  obtain ⟨answer, cut, answers⟩ := offers.answers
  have leads := Client.leads_of_paged repository filter canSend cut.paged []
  have same : ∀ exchange ∈ (pages.map fun page => (page.1, answer page.1)).map
      (client.pageExchange repository filter), ∀ state, Holds state →
        (server exchange.question state).1 = exchange.answer ∧
          Holds (server exchange.question state).2 := by
    intro exchange member state holds
    obtain ⟨turn, isTurn, rfl⟩ := List.mem_map.mp member
    obtain ⟨page, isPage, rfl⟩ := List.mem_map.mp isTurn
    exact ⟨answers page isPage state holds, offers.steady page isPage state holds⟩
  obtain ⟨lists, holdsLast, asked⟩ := leads.run_eq same holds
  refine ⟨lists, holdsLast, ?_⟩
  rw [Client.answer, asked, List.map_map, List.map_map]
  rfl

/-- Behind an offered listing, the course is taken that the listed webhooks settle. -/
theorem Offers.run_apply {Holds : σ → Prop} {pages : List (UInt32 × List Webhook)}
    (offers : Offers client wanted.repository Event.all server Holds pages)
    (canSend : client.CanSend client.base) {state : σ} (holds : Holds state) (kind : Shape) :
    ∃ listed, Holds listed ∧
      let settled := client.converse (settle wanted kind (pages.flatMap Prod.snd))
      (client.converse (apply wanted kind.events)).run server state = settled.run server listed ∧
        changing (transcript server (client.converse (apply wanted kind.events)) state) =
          changing (transcript server settled listed) := by
  obtain ⟨lists, holdsOn, _⟩ := offers.run_list canSend holds
  refine ⟨_, holdsOn, ?_⟩
  rw [apply_eq_require, Dialogue.require, Client.converse_ask, Dialogue.run_bind,
    Dialogue.transcript_bind, lists, changing_append,
    Client.changing_listing (Dialogue.leads_transcript server _ state)]
  exact ⟨rfl, List.nil_append _⟩

end WebhookSync.Server
