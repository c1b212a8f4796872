import WebhookSync.Proofs.Server.Offering

/-!
# Listings are complete and end

A server that cuts a list into pages, each but the last telling where the next one starts, has the
list read back from it in order, by one request a page.  How it is cut makes no difference, neither
for the listing nor for what a reconciliation does behind it.  And whatever a server answers, the
starts that it is asked for only grow, so a listing ends; a page that cannot be read or that leads
nowhere makes it fail (`listing_follows_pages`).
-/

namespace WebhookSync.Server

open Dialogue (transcript)
open Reconcile

/-! ## Pages that lead nowhere -/

/-- The answer holds no page from which a listing can go on or with which it can end. -/
inductive Halts (start : UInt32) : Except Http.Fault Http.Response → Prop where
  | lost (fault : Http.Fault) : Halts start (.error fault)
  | refused {response : Http.Response} (refused : response.isSuccess = false) :
      Halts start (.ok response)
  | unreadable {response : Http.Response} {cause : Json.Fault}
      (unread : Page.shape.reader.whole (Text.decode response.body) = .error cause) :
      Halts start (.ok response)
  | astray {response : Http.Response} {draft : Page.Draft}
      (read : readDraft (.ok response) = .ok draft) (notLast : draft.isLast = some false)
      (halts : draft.nextStart = none ∨ draft.nextStart = some none ∨
        ∃ next ≤ start, draft.nextStart = some (some next)) : Halts start (.ok response)

theorem Halts.isStuck {start : UInt32} {answer : Except Http.Fault Http.Response}
    (halts : Halts start answer) : IsStuck start answer := by
  intro page isPage
  cases halts with
  | lost fault => cases isPage
  | refused refused =>
      rw [Client.isSuccess_of_decode_eq_ok isPage] at refused
      cases refused
  | unreadable unread =>
      have read : Client.decode Page.shape.reader _ = .ok page := isPage
      rw [Client.decode, if_pos (Client.isSuccess_of_decode_eq_ok read), unread] at read
      cases read
  | astray read notLast halts =>
      obtain rfl := Except.ok.inj ((readPage_of_readDraft read).symm.trans isPage)
      refine ⟨by simp [Page.Draft.finished, notLast], fun next begins => ?_⟩
      rcases halts with missing | null | ⟨earlier, notLater, isEarlier⟩
      · simp [Page.Draft.finished, missing] at begins
      · simp [Page.Draft.finished, null] at begins
      · simp only [Page.Draft.finished, isEarlier, Option.getD_some, Option.some.injEq] at begins
        exact begins ▸ notLater

/-! ## Reconciliations do not see the pages -/

/-- Two servers tell alike what they support, offer the same listing, each in pages of its own, and
then answer changes alike. -/
structure Recut (client : Client) (wanted : Subscription) {σ τ : Type}
    (server : (request : Http.Request) → σ → Http.Answer request × σ) (state : σ)
    (other : (request : Http.Request) → τ → Http.Answer request × τ) (otherState : τ)
    (pages otherPages : List (UInt32 × List Webhook)) (Alike : σ → τ → Prop) : Prop where
  sameProbing : ((client.converse (resolveEvents wanted)).run server state).1 =
    ((client.converse (resolveEvents wanted)).run other otherState).1
  offers : ∃ Holds OtherHolds,
    Offers client wanted.repository Event.all server Holds pages ∧
    Offers client wanted.repository Event.all other OtherHolds otherPages ∧
    Holds ((client.converse (resolveEvents wanted)).run server state).2 ∧
    OtherHolds ((client.converse (resolveEvents wanted)).run other otherState).2 ∧
    ∀ state other, Holds state → OtherHolds other → Alike state other
  sameListing : pages.flatMap Prod.snd = otherPages.flatMap Prod.snd
  sameChanges : ∀ request : Http.Request, request.method ≠ .get → ∀ state otherState,
    Alike state otherState → (server request state).1 = (other request otherState).1 ∧
      Alike (server request state).2 (other request otherState).2

/-- It makes no difference to a reconciliation how a listing is cut into pages. -/
theorem Recut.run_reconcile {client : Client} {wanted : Subscription} {σ τ : Type}
    {server : (request : Http.Request) → σ → Http.Answer request × σ} {state : σ}
    {other : (request : Http.Request) → τ → Http.Answer request × τ}
    {otherState : τ} {pages otherPages : List (UInt32 × List Webhook)} {Alike : σ → τ → Prop}
    (recut : Recut client wanted server state other otherState pages otherPages Alike)
    (canSend : client.CanSend client.base) :
    let session := client.converse (reconcile wanted)
    (session.run server state).1 = (session.run other otherState).1 ∧
      Alike (session.run server state).2 (session.run other otherState).2 ∧
      changing (transcript server session state) =
        changing (transcript other session otherState) := by
  intro session
  obtain ⟨sameProbing, ⟨Holds, OtherHolds, offers, offersToo, holds, holdsToo, alike⟩,
    sameListing, sameChanges⟩ := recut
  have resolves := Dialogue.leads_transcript server (client.converse (resolveEvents wanted)) state
  have resolvesToo :=
    Dialogue.leads_transcript other (client.converse (resolveEvents wanted)) otherState
  simp only [session, Client.converse_reconcile, Dialogue.andThen, Dialogue.run_bind,
    Dialogue.transcript_bind, changing_append, Client.changing_resolving resolves,
    Client.changing_resolving resolvesToo, List.nil_append, ← sameProbing]
  generalize ((client.converse (resolveEvents wanted)).run server state).1 = found at resolves ⊢
  cases found with
  | error failure => exact ⟨rfl, alike _ _ holds holdsToo, rfl⟩
  | ok events =>
      rcases Client.wanted_of_leads resolves with rfl | ⟨kind, rfl⟩
      · exact ⟨rfl, alike _ _ holds holdsToo, rfl⟩
      · simp only [kind.events_isEmpty, Bool.false_eq_true, if_false]
        obtain ⟨listed, holdsOn, runs, changes⟩ := offers.run_apply canSend holds kind
        obtain ⟨listedToo, holdsOnToo, runsToo, changesToo⟩ :=
          offersToo.run_apply canSend holdsToo kind
        obtain ⟨sameResult, alikeLast, sameTranscript⟩ :=
          (Client.asks_converse_settle client wanted kind (pages.flatMap Prod.snd)).run_congr
            sameChanges (alike listed listedToo holdsOn holdsOnToo)
        rw [runs, runsToo, changes, changesToo, ← sameListing]
        exact ⟨sameResult, alikeLast, by rw [sameTranscript]⟩

/-! ## Listings -/

/-- A listing that a server offers is read whole and in order, by one request a page, and however
it is cut into pages, a reconciliation does the same with it.  With any server at all, the starts of
the pages that are asked for only grow, so they are no more than there are starts, and a page that
cannot be read or that leads nowhere makes the listing fail. -/
theorem listing_follows_pages (client : Client) (repository : Repository) (filter : List Event)
    {σ : Type} (server : (request : Http.Request) → σ → Http.Answer request × σ) (state : σ) :
    (client.CanSend client.base → ∀ Holds pages,
      Offers client repository filter server Holds pages → Holds state →
      ((client.answer (.list repository filter)).run server state).1 =
          .ok (pages.flatMap Prod.snd) ∧
        (transcript server (client.answer (.list repository filter)) state).map (·.question) =
          pages.map fun page => client.request .get ((client.webhooksUrl repository).withPairs
            (filter.map (fun event => ("event", event.name)) ++
              [("start", toString page.1.toNat)])) none) ∧
    (client.CanSend client.base → ∀ wanted pages otherPages, ∀ {τ : Type} other (otherState : τ)
        Alike, Recut client wanted server state other otherState pages otherPages Alike →
      let session := client.converse (reconcile wanted)
      (session.run server state).1 = (session.run other otherState).1 ∧
        Alike (session.run server state).2 (session.run other otherState).2 ∧
        changing (transcript server session state) =
          changing (transcript other session otherState)) ∧
    ∃ turns : List PageTurn,
      transcript server (client.answer (.list repository filter)) state =
          turns.map (client.pageExchange repository filter) ∧
        Ascending 0 turns ∧ turns.length ≤ 2 ^ 32 ∧
        ∀ turn ∈ turns, Halts turn.1 turn.2 →
          ∃ failure, ((client.answer (.list repository filter)).run server state).1 =
            .error failure := by
  refine ⟨fun canSend Holds pages offers holds => ?_,
    fun canSend wanted pages otherPages τ other otherState Alike recut =>
      recut.run_reconcile canSend, ?_⟩
  · obtain ⟨lists, _, asked⟩ := offers.run_list canSend holds
    exact ⟨lists, asked⟩
  · obtain ⟨turns, same, ⟨hooks, paged, _⟩ | ⟨stalled, fails⟩⟩ := Client.leads_listFrom
      (Dialogue.leads_transcript server (client.answer (.list repository filter)) state)
    · refine ⟨turns, same, paged.ascending, paged.ascending.length_le, ?_⟩
      exact fun turn member halts => absurd halts.isStuck (paged.not_isStuck turn member)
    · exact ⟨turns, same, stalled.ascending, stalled.ascending.length_le, fun _ _ _ => fails⟩

/-- Two webhooks in three pages, the second one empty and the last one without a mark, or in one
page; a server that counts its requests, and one that does not; and a page that leads to itself. -/
theorem listing_follows_pages_three_or_one :
    let client : Client :=
      ⟨⟨"http", "", none, some (.name "h"), none, .segments [""], none, none⟩, none⟩
    let wanted : Subscription := ⟨⟨"P", "r"⟩, "ci", "https://ci", false, true, false⟩
    let first : Webhook := ⟨1, "ci", .ofList [], "u", false⟩
    let second : Webhook := ⟨2, "ci", .ofList ["repo:refs_changed"], "v", true⟩
    let firstText := "\x7b\"id\":1,\"name\":\"ci\",\"url\":\"u\"\x7d"
    let secondText := "\x7b\"id\":2,\"name\":\"ci\",\"url\":\"v\",\"active\":true," ++
      "\"events\":[\"repo:refs_changed\"]\x7d"
    let serve (bodies : List (UInt32 × String)) (request : Http.Request) :
        Except Http.Fault Http.Response :=
      if request.method = .get then
        match bodies.find? fun body =>
            request.url == client.pageUrl wanted.repository Event.all body.1 with
        | some body => .ok ⟨200, body.2.toUTF8.toList⟩
        | none => .ok ⟨404, []⟩
      else .ok ⟨200, secondText.toUTF8.toList⟩
    let server (request : Http.Request) (count : Nat) : Http.Answer request × Nat :=
      (serve
        [(0, "\x7b\"values\":[" ++ firstText ++ "],\"isLastPage\":false,\"nextPageStart\":4\x7d"),
          (4, "\x7b\"isLastPage\":false,\"nextPageStart\":9\x7d"),
          (9, "\x7b\"values\":[" ++ secondText ++ "],\"nextPageStart\":null\x7d")] request,
        count + 1)
    let other (request : Http.Request) (_ : Unit) : Http.Answer request × Unit :=
      (serve [(0, "\x7b\"values\":[" ++ firstText ++ "," ++ secondText ++
        "],\"isLastPage\":true\x7d")] request, ())
    let astray (request : Http.Request) (_ : Unit) : Http.Answer request × Unit :=
      (.ok ⟨200, "\x7b\"isLastPage\":false,\"nextPageStart\":0\x7d".toUTF8.toList⟩, ())
    let pages : List (UInt32 × List Webhook) := [(0, [first]), (4, []), (9, [second])]
    let session := client.converse (reconcile wanted)
    client.CanSend client.base ∧
      Offers client wanted.repository Event.all server (fun _ => True) pages ∧
      Recut client wanted server 0 other () pages [(0, [first, second])] (fun _ _ => True) ∧
      ((client.answer (.list wanted.repository Event.all)).run server 0).1 =
        .ok [first, second] ∧
      (session.run server 0).1 = (session.run other ()).1 ∧
      ∃ failure, ((client.answer (.list wanted.repository Event.all)).run astray ()).1 =
        .error failure := by
  intro client wanted first second firstText secondText serve server other astray pages session
  have canSend : client.CanSend client.base := ⟨rfl, .inl rfl⟩
  let asked (start : UInt32) := client.pageRequest wanted.repository Event.all start
  have opens : ContinuesAt (server (asked 0) 0).1 [first] 4 := by decide +kernel
  have goesOn : ContinuesAt (server (asked 4) 0).1 [] 9 := by decide +kernel
  have closes : ClosesWith (server (asked 9) 0).1 [second] := by decide +kernel
  have closesAtOnce : ClosesWith (other (asked 0) ()).1 [first, second] := by decide +kernel
  have offers : Offers client wanted.repository Event.all server (fun _ => True) pages := by
    have cut : Cut (fun start => (server (asked start) 0).1) 0 pages :=
      .onward opens (by decide) (.onward goesOn (by decide) (.last closes))
    exact cut.offers fun _ _ => rfl
  have offersToo : Offers client wanted.repository Event.all other (fun _ => True)
      [(0, [first, second])] := by
    have cut : Cut (fun start => (other (asked start) ()).1) 0 [(0, [first, second])] :=
      .last closesAtOnce
    exact cut.offers fun _ _ => rfl
  have recut : Recut client wanted server 0 other () pages [(0, [first, second])]
      (fun _ _ => True) := by
    refine ⟨rfl, ⟨_, _, offers, offersToo, trivial, trivial, fun _ _ _ _ => trivial⟩, rfl, ?_⟩
    intro request changes count state alike
    have changed (bodies : List (UInt32 × String)) :
        serve bodies request = .ok ⟨200, secondText.toUTF8.toList⟩ := if_neg changes
    exact ⟨(changed _).trans (changed _).symm, trivial⟩
  obtain ⟨lists, sameRuns, _⟩ :=
    listing_follows_pages client wanted.repository Event.all server 0
  obtain ⟨turns, same, ascending, _, fails⟩ :=
    (listing_follows_pages client wanted.repository Event.all astray ()).2.2
  refine ⟨canSend, offers, recut, (lists canSend _ pages offers trivial).1,
    (sameRuns canSend wanted pages _ other () _ recut).1, ?_⟩
  rw [Client.answer, Client.listFrom_of_canSend canSend] at same
  cases turns with
  | nil => cases same
  | cons turn rest =>
      obtain ⟨isFirst, _⟩ := List.cons.inj same
      obtain ⟨start, answer⟩ := turn
      obtain rfl : start = 0 := by simpa using ascending.2
      have isAnswer : _ = answer := congrArg Dialogue.Exchange.answer isFirst
      have leadsBack : ContinuesAt (astray (asked 0) ()).1 [] 0 := by decide +kernel
      obtain ⟨draft, read, _, notLast, begins⟩ := leadsBack
      refine fails (0, answer) List.mem_cons_self ?_
      rw [← isAnswer]
      exact .astray read notLast (.inr (.inr ⟨0, UInt32.le_refl 0, begins⟩))

end WebhookSync.Server
