import WebhookSync.Proofs.Server.Display
import WebhookSync.Proofs.Server.Verdicts

/-!
# What was written is recognised

A webhook that was sent to a server comes back in its listings in the server's own words: with an
id, with members that the server adds, in its order and its spelling.  Still it is read as the
webhook that was sent, so the next reconciliation finds it up to date and changes nothing
(`echo_is_recognised`).
-/

namespace WebhookSync

namespace Reconcile

variable {wanted : Subscription} {kind : Shape}

/-- Where nothing is own, a webhook is created. -/
theorem settle_of_foreign {hooks : List Webhook}
    (foreign : ∀ hook ∈ hooks, hook.isOwnedBy wanted = false) :
    settle wanted kind hooks = creation wanted kind := by
  refine settle_of_none (anchor?_eq_none_iff.mpr ?_)
  rw [gathered_eq_filter, List.filter_eq_nil_iff]
  intro hook listed
  simp [foreign hook listed]

/-- Where the only own webhook is up to date, it is kept, and that is all. -/
theorem settle_of_sole {hook : Webhook} {before after : List Webhook}
    (foreign : ∀ other ∈ before ++ after, other.isOwnedBy wanted = false)
    (upToDate : hook.isUpToDate wanted.name wanted.callbackUrl kind.events = true) :
    settle wanted kind (before ++ hook :: after) = .done (.ok (some hook)) := by
  have gathers : kind.gathers hook = true :=
    Shape.gathers_of_events_eq (Webhook.isUpToDate_iff.mp upToDate).2.2.2
  have alone : gathered wanted kind (before ++ hook :: after) = [hook] := by
    have nothing {others : List Webhook} (among : others ⊆ before ++ after) :
        others.filter (fun other => other.isOwnedBy wanted && kind.gathers other) = [] := by
      rw [List.filter_eq_nil_iff]
      intro other listed
      simp [foreign other (among listed)]
    rw [gathered_eq_filter, List.filter_append, List.filter_cons,
      nothing (List.subset_append_left _ _), nothing (List.subset_append_right _ _)]
    simp [Webhook.isOwnedBy_of_isUpToDate upToDate, gathers]
  have chosen : choose wanted kind (before ++ hook :: after) = kind := by
    rw [choose, alone]
    rfl
  have fit : fits wanted kind hook = true := upToDate
  have found : anchor? wanted kind (before ++ hook :: after) = some hook := by
    simp [anchor?, alone, fit]
  rw [settle_of_fit (by rw [chosen, found]) (by rw [chosen, fit]), chosen, others, alone]
  simp [deleteAll]

end Reconcile

namespace Server

open Dialogue (transcript)
open Json (Document SpellsWhole)
open Reconcile

variable {client : Client} {wanted : Subscription} {kind : Shape} {σ : Type}
  {server : (request : Http.Request) → σ → Http.Answer request × σ} {state : σ}

/-! ## Runs -/

/-- Behind the question which events are wanted, these are applied. -/
theorem run_reconcile_of_resolves {after : σ}
    (resolves : (client.converse (resolveEvents wanted)).run server state =
      (.ok kind.events, after)) :
    let session := client.converse (reconcile wanted)
    let applying := client.converse (apply wanted kind.events)
    session.run server state = applying.run server after ∧
      changing (transcript server session state) =
        changing (transcript server applying after) := by
  intro session applying
  have asking := Dialogue.leads_transcript server (client.converse (resolveEvents wanted)) state
  simp only [session, applying, Client.converse_reconcile, Dialogue.andThen, Dialogue.run_bind,
    Dialogue.transcript_bind, changing_append, Client.changing_resolving asking,
    List.nil_append, resolves, kind.events_isEmpty, Bool.false_eq_true, if_false, and_self]

/-- A webhook is created by one request. -/
theorem run_creation (canSend : client.CanSend client.base) :
    let session := client.converse (creation wanted kind)
    let request := client.requestFor
      (.create wanted.repository wanted.name kind.events wanted.callbackUrl)
    (session.run server state).2 = (server request state).2 ∧
      changing (transcript server session state) = [⟨request, (server request state).1⟩] := by
  intro session request
  have isSent : client.answer (.create wanted.repository wanted.name kind.events
      wanted.callbackUrl) = .ask request (Client.received fun response =>
        .done (Client.decode Webhook.reader response)) :=
    Client.send_of_canSend (canSend.congr rfl)
  simp only [session, creation, Dialogue.require, Client.converse_ask, isSent, Dialogue.run_bind,
    Dialogue.transcript_bind, changing_append, Dialogue.run_ask, transcript]
  obtain ⟨created, ends⟩ : ∃ created, Client.received
      (fun response => .done (Client.decode Webhook.reader response)) (server request state).1 =
        .done created := by
    cases (server request state).1 with
    | error fault => exact ⟨_, rfl⟩
    | ok response => exact ⟨_, rfl⟩
  rw [ends]
  cases created with
  | error failure => exact ⟨rfl, rfl⟩
  | ok hook => exact ⟨rfl, rfl⟩

/-! ## Servers that store what is sent -/

/-- As long as its state holds, the server shows a listing of these documents; and the state keeps
holding when it is asked for the pages. -/
structure ShowsListing (client : Client) (repository : Repository)
    (server : (request : Http.Request) → σ → Http.Answer request × σ) (Holds : σ → Prop)
    (documents : List Document) : Prop where
  answers : ∃ answer, Displays answer 0 documents ∧ ∀ start state, Holds state →
    (server (client.pageRequest repository Event.all start) state).1 = answer start
  steady : ∀ start state, Holds state →
    Holds (server (client.pageRequest repository Event.all start) state).2

/-- A listing that is shown is offered, if its documents stand for webhooks. -/
theorem ShowsListing.offers {repository : Repository} {Holds : σ → Prop}
    {documents : List Document} (shows : ShowsListing client repository server Holds documents)
    {hooks : List Webhook} (stand : List.Forall₂ StandsFor documents hooks) :
    ∃ pages, Offers client repository Event.all server Holds pages ∧
      pages.flatMap Prod.snd = hooks := by
  obtain ⟨answer, displays, answers⟩ := shows.answers
  obtain ⟨pages, cut, sameHooks⟩ := displays.cut stand
  exact ⟨pages, ⟨⟨answer, cut, fun page _ => answers page.1⟩, fun page _ => shows.steady page.1⟩,
    sameHooks⟩

/-- The document stands for a webhook that is not the subscription's own. -/
def Foreign (wanted : Subscription) (document : Document) : Prop :=
  ∃ hook, StandsFor document hook ∧ hook.isOwnedBy wanted = false

/-- Foreign documents stand for webhooks none of which is own. -/
theorem exists_of_foreign {documents : List Document}
    (foreign : ∀ document ∈ documents, Foreign wanted document) :
    ∃ hooks : List Webhook, List.Forall₂ StandsFor documents hooks ∧
      ∀ hook ∈ hooks, hook.isOwnedBy wanted = false := by
  induction documents with
  | nil => exact ⟨[], .nil, by simp⟩
  | cons document documents ih =>
      obtain ⟨hook, stands, notOwn⟩ := foreign document List.mem_cons_self
      obtain ⟨hooks, stand, noneOwn⟩ := ih fun other member =>
        foreign other (List.mem_cons_of_mem _ member)
      exact ⟨hook :: hooks, .cons stands stand, List.forall_mem_cons.mpr ⟨notOwn, noneOwn⟩⟩

/-- As long as its state holds, it is found out from the server that these events are wanted; and
the state keeps holding. -/
def Resolves (client : Client) (wanted : Subscription)
    (server : (request : Http.Request) → σ → Http.Answer request × σ) (Holds : σ → Prop)
    (events : EventSet) : Prop :=
  ∀ state, Holds state → ∃ next, Holds next ∧
    (client.converse (resolveEvents wanted)).run server state = (.ok events, next)

/-- Before, the server lists no webhook that is the subscription's own; what is sent to create one
is stored under an id, and after that an echo of it is listed among webhooks that are not own. -/
structure Stores (client : Client) (wanted : Subscription) (events : EventSet)
    (server : (request : Http.Request) → σ → Http.Answer request × σ) (Before After : σ → Prop)
    (id : Int64) : Prop where
  resolves : Resolves client wanted server Before events
  lists : ∃ pages, Offers client wanted.repository Event.all server Before pages ∧
    ∀ hook ∈ pages.flatMap Prod.snd, hook.isOwnedBy wanted = false
  stores : ∀ state, Before state → After (server (client.requestFor
    (.create wanted.repository wanted.name events wanted.callbackUrl)) state).2
  resolvesAgain : Resolves client wanted server After events
  listsEcho : ∃ front echo back,
    ShowsListing client wanted.repository server After (front ++ echo :: back) ∧
      (∀ document ∈ front ++ back, Foreign wanted document) ∧
      Echo id (webhookBody wanted.name events wanted.callbackUrl) echo

/-- What is wanted, if anything is, are the events of a shape. -/
theorem exists_shape_of_run {events : EventSet} (nonempty : events.isEmpty = false) {next : σ}
    (resolves : (client.converse (resolveEvents wanted)).run server state = (.ok events, next)) :
    ∃ kind : Shape, events = kind.events := by
  have leads := Dialogue.leads_transcript server (client.converse (resolveEvents wanted)) state
  rw [resolves] at leads
  rcases Client.wanted_of_leads leads with rfl | isKind
  · cases nonempty
  · exact isKind

/-- Behind an offered listing without an own webhook, one is created and that is all. -/
theorem Offers.run_reconcile_of_foreign {Holds : σ → Prop} {events : EventSet}
    {pages : List (UInt32 × List Webhook)}
    (offers : Offers client wanted.repository Event.all server Holds pages)
    (foreign : ∀ hook ∈ pages.flatMap Prod.snd, hook.isOwnedBy wanted = false)
    (canSend : client.CanSend client.base) (resolves : Resolves client wanted server Holds events)
    (nonempty : events.isEmpty = false) (holds : Holds state) :
    let session := client.converse (reconcile wanted)
    let request := client.requestFor
      (.create wanted.repository wanted.name events wanted.callbackUrl)
    ∃ listed, Holds listed ∧ (session.run server state).2 = (server request listed).2 ∧
      changing (transcript server session state) = [⟨request, (server request listed).1⟩] := by
  intro session request
  obtain ⟨next, holdsNext, isNext⟩ := resolves state holds
  obtain ⟨kind, rfl⟩ := exists_shape_of_run nonempty isNext
  obtain ⟨sameRun, sameChanges⟩ := run_reconcile_of_resolves isNext
  obtain ⟨listed, holdsListed, runs, changes⟩ := offers.run_apply canSend holdsNext kind
  rw [settle_of_foreign foreign] at runs changes
  obtain ⟨ends, sends⟩ := @run_creation client wanted kind σ server listed canSend
  refine ⟨listed, holdsListed, ?_, ?_⟩
  · rw [sameRun, runs, ends]
  · rw [sameChanges, changes, sends]

/-- Behind an offered listing with one own webhook that is up to date, nothing is changed. -/
theorem Offers.run_reconcile_of_sole {Holds : σ → Prop} {events : EventSet} {hook : Webhook}
    {before after : List Webhook} {pages : List (UInt32 × List Webhook)}
    (offers : Offers client wanted.repository Event.all server Holds pages)
    (isListing : pages.flatMap Prod.snd = before ++ hook :: after)
    (foreign : ∀ other ∈ before ++ after, other.isOwnedBy wanted = false)
    (upToDate : hook.isUpToDate wanted.name wanted.callbackUrl events = true)
    (canSend : client.CanSend client.base) (resolves : Resolves client wanted server Holds events)
    (nonempty : events.isEmpty = false) (holds : Holds state) :
    let session := client.converse (reconcile wanted)
    (session.run server state).1 = .ok (some hook) ∧ Holds (session.run server state).2 ∧
      changing (transcript server session state) = [] := by
  intro session
  obtain ⟨next, holdsNext, isNext⟩ := resolves state holds
  obtain ⟨kind, rfl⟩ := exists_shape_of_run nonempty isNext
  obtain ⟨sameRun, sameChanges⟩ := run_reconcile_of_resolves isNext
  obtain ⟨listed, holdsListed, runs, changes⟩ := offers.run_apply canSend holdsNext kind
  rw [isListing, settle_of_sole foreign upToDate] at runs changes
  rw [sameRun, sameChanges, runs, changes]
  exact ⟨rfl, holdsListed, rfl⟩

/-! ## Recognition -/

/-- What is sent to have a webhook stored is one text, which stands for its body; and every text of
an echo of that body is read as a webhook with the id of the echo that is up to date.  So, where no
webhook is own, a reconciliation sends one change, by which a webhook is created; and if it is
stored and listed back, every later one finds it, and changes nothing. -/
theorem echo_is_recognised (client : Client) :
    (∀ repository name url events target,
      ∀ call ∈ [Gateway.Call.create repository name events url,
        .update repository target name events url],
      Dialogue.Asks (fun request => request.body = (webhookBody name events url).compact)
          (client.answer call) ∧
        SpellsWhole (webhookBody name events url).document (webhookBody name events url).compact ∧
        ∀ id document text, Echo id (webhookBody name events url) document →
          SpellsWhole document text →
          ∃ hook, Webhook.reader.whole (.ofString text) = .ok hook ∧ hook.id = id ∧
            hook.isUpToDate name url events = true) ∧
    (client.CanSend client.base → ∀ wanted events, events.isEmpty = false → ∀ {σ : Type}
        (server : (request : Http.Request) → σ → Http.Answer request × σ) Before After id,
      Stores client wanted events server Before After id →
      let session := client.converse (reconcile wanted)
      (∀ state, Before state → After (session.run server state).2 ∧
        (changing (transcript server session state)).map (·.question) = [client.requestFor
          (.create wanted.repository wanted.name events wanted.callbackUrl)]) ∧
      ∃ hook, hook.id = id ∧ hook.isUpToDate wanted.name wanted.callbackUrl events = true ∧
        ∀ state, After state → (session.run server state).1 = .ok (some hook) ∧
          After (session.run server state).2 ∧
          changing (transcript server session state) = []) := by
  have upToDate (id : Int64) (name url : String) (events : EventSet) :
      Webhook.isUpToDate ⟨id, name, events.names, url, true⟩ name url events = true := by
    rw [Webhook.isUpToDate_iff]
    exact ⟨rfl, rfl, rfl, rfl⟩
  refine ⟨fun repository name url events target call isCall => ⟨?_, ?_, ?_⟩,
    fun canSend wanted events nonempty σ server Before After id stores => ?_⟩
  · rw [List.mem_pair] at isCall
    rcases isCall with rfl | rfl
    · exact Client.asks_send rfl fun _ => .done _
    · exact Client.asks_send rfl fun _ => .done _
  · exact Json.spellsWhole_compact _
  · intro id document text echo spelled
    exact ⟨_, spelled.whole fun _ spelled => echo.reads spelled, rfl, upToDate id name url events⟩
  · obtain ⟨resolves, ⟨pages, offers, noneOwn⟩, stores, resolvesAgain,
      front, echo, back, shows, foreign, isEcho⟩ := stores
    refine ⟨fun state holds => ?_, _, rfl, upToDate id wanted.name wanted.callbackUrl events, ?_⟩
    · obtain ⟨listed, holdsListed, ends, changes⟩ :=
        offers.run_reconcile_of_foreign noneOwn canSend resolves nonempty holds
      rw [ends, changes]
      exact ⟨stores listed holdsListed, rfl⟩
    · intro state holds
      -- The echo stands for one webhook, whichever text it is shown in; so do its neighbours.
      rw [List.forall_mem_append] at foreign
      obtain ⟨before, standBefore, noneBefore⟩ := exists_of_foreign foreign.1
      obtain ⟨after, standAfter, noneAfter⟩ := exists_of_foreign foreign.2
      have stands : StandsFor echo ⟨id, wanted.name, events.names, wanted.callbackUrl, true⟩ :=
        fun _ spelled => isEcho.reads spelled
      obtain ⟨pages, offers, isListing⟩ :=
        shows.offers (List.rel_append standBefore (.cons stands standAfter))
      exact offers.run_reconcile_of_sole isListing
        (List.forall_mem_append.mpr ⟨noneBefore, noneAfter⟩) (upToDate _ _ _ _) canSend
        resolvesAgain nonempty holds

/-- A server that lists another's webhook on a first page, and on a second one nothing, or the echo
of what it stored: reversed, with a member of its own, and with every event twice. -/
theorem echo_is_recognised_second_page :
    let client : Client :=
      ⟨⟨"http", "", none, some (.name "h"), none, .segments [""], none, none⟩, none⟩
    let wanted : Subscription := ⟨⟨"P", "r"⟩, "ci", "https://ci", false, true, true⟩
    let events := wanted.triggeredEvents
    let names := events.toList.map Event.name
    let other : Json := .object [("id", .integer 3), ("name", .string "lint"),
      ("events", .strings ["repo:forked"]), ("url", .string "u"), ("active", .bool false)]
    let echo : Json := .object [("statistics", .object [("counts", .array [.null, .integer 0])]),
      ("active", .bool true), ("url", .string "https://ci"),
      ("events", .strings (names.reverse ++ names)), ("name", .string "ci"), ("id", .integer 5)]
    let first : Json := .object [("values", .array [other]), ("isLastPage", .bool false),
      ("nextPageStart", .integer 7)]
    let second (stored : Bool) : Json :=
      .object [("values", .array (if stored then [echo] else [])), ("isLastPage", .bool true)]
    let server (request : Http.Request) (stored : Bool) : Http.Answer request × Bool :=
      if request.method = .get then
        (success (if request.url = client.pageUrl wanted.repository Event.all 7 then second stored
          else first).compact, stored)
      else (success echo.compact, true)
    let session := client.converse (reconcile wanted)
    client.CanSend client.base ∧ events.isEmpty = false ∧
      Stores client wanted events server (· = false) (· = true) 5 ∧
      (∃ hook, Webhook.reader.whole (.ofString echo.compact) = .ok hook ∧ hook.id = 5 ∧
        hook.isUpToDate "ci" "https://ci" events = true) ∧
      (session.run server false).2 = true ∧
      ∃ hook, hook.id = 5 ∧ (session.run server true).1 = .ok (some hook) ∧
        changing (transcript server session true) = [] := by
  intro client wanted events names other echo first second server session
  have canSend : client.CanSend client.base := ⟨rfl, .inl rfl⟩
  have nonempty : events.isEmpty = false := by decide
  have isOther : StandsFor other.document ⟨3, "lint", .ofList ["repo:forked"], "u", false⟩ :=
    fun _ spelled => @Webhook.reads_membersOf 3 "lint" ["repo:forked"] "u" false [] _ (by simp)
      (.refl _) _ spelled
  have sameEvents : Restored (.strings names) (Json.strings (names.reverse ++ names)).document := by
    rw [Json.strings, Json.strings, Json.document, Json.documentItems_eq_map]
    exact .array fun document => by simp
  have isEcho : Echo 5 (webhookBody wanted.name events wanted.callbackUrl) echo.document := by
    let extras := Json.documentMembers
      [("statistics", .object [("counts", .array [.null, .integer 0])])]
    have foreign : ∀ extra ∈ extras, extra.1 ∉ ["id", "name", "events", "url", "active"] := by
      simp [extras, Json.documentMembers]
    let restored : List (String × Document) := [("name", .string "ci"),
      ("events", (Json.strings (names.reverse ++ names)).document),
      ("url", .string "https://ci"), ("active", .bool true)]
    exact @Echo.object 5 _ restored extras _ (.cons ⟨rfl, .same _⟩ (.cons ⟨rfl, sameEvents⟩
      (.cons ⟨rfl, .same _⟩ (.cons ⟨rfl, .same _⟩ .nil)))) foreign
      (List.reverse_perm (("id", .number (Json.writeInt (5 : Int64).toInt)) :: restored ++ extras))
  have shows (stored : Bool) : ShowsListing client wanted.repository server (· = stored)
      ([other.document] ++ (if stored then [echo] else []).map Json.document) := by
    let answer (start : UInt32) :=
      (server (client.pageRequest wanted.repository Event.all start) stored).1
    have atFirst : answer 0 = success first.compact :=
      congrArg (fun page : Json => success page.compact) (if_neg (by decide +kernel))
    have atSecond : answer 7 = success (second stored).compact :=
      congrArg (fun page : Json => success page.compact) (if_pos rfl)
    have showsText (page : Json) : Shows page.document (success page.compact) :=
      .text (by decide) (by decide) (Json.spellsWhole_compact page)
    have isSecond : PageDocument (some ((if stored then [echo] else []).map Json.document))
        (some true) none (second stored).document := by
      rw [← Json.documentItems_eq_map]
      exact .object (by simp) (.refl _)
    have isFirst : PageDocument (some [other.document]) (some false) (some (some 7))
        first.document := .object (by simp) (.refl _)
    have displays : Displays answer 0 _ :=
      .onward isFirst (atFirst ▸ showsText first) (by decide)
        (.last isSecond (by decide) (atSecond ▸ showsText (second stored)))
    exact ⟨⟨answer, displays, fun start _ same => by rw [same]⟩, fun _ _ same => same⟩
  have stores : Stores client wanted events server (· = false) (· = true) 5 := by
    obtain ⟨pages, offers, isListing⟩ := (shows false).offers (.cons isOther .nil)
    refine ⟨fun state same => ⟨state, same, rfl⟩, ⟨pages, offers, ?_⟩, fun _ _ => rfl,
      fun state same => ⟨state, same, rfl⟩, [other.document], echo.document, [], shows true, ?_,
      isEcho⟩
    · rw [isListing]
      decide
    · rw [List.append_nil, List.forall_mem_singleton]
      exact ⟨_, isOther, rfl⟩
  obtain ⟨writes, recognises⟩ := echo_is_recognised client
  obtain ⟨creates, hook, sameId, _, finds⟩ :=
    recognises canSend wanted events nonempty server _ _ 5 stores
  have reads := (writes wanted.repository "ci" "https://ci" events 0 _ List.mem_cons_self).2.2 5
    echo.document echo.compact isEcho (Json.spellsWhole_compact echo)
  obtain ⟨found, _, unchanged⟩ := finds true rfl
  exact ⟨canSend, nonempty, stores, reads, (creates false rfl).1, hook, sameId, found, unchanged⟩

end Server

end WebhookSync
