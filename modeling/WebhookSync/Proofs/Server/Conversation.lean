import WebhookSync.Proofs.Reconcile.Errand
import WebhookSync.Proofs.Server.Paging
import WebhookSync.Proofs.Server.Probing

/-!
# Reconciliations with a server

A reconciliation that is led with a server falls into three parts: for a mirror it is found out what
the server supports, the webhooks are listed page by page, and the changes that the listing settles
are pursued.  Each part is there only if the one before came to a good end.
-/

namespace WebhookSync.Server.Client

open Dialogue (Asks Leads)
open Reconcile

variable {client : Client} {wanted : Subscription} {kind : Shape} {exchanges : List Exchange}

theorem converse_map {α β : Type} (f : α → β) (session : Gateway.Session α) :
    client.converse (session.map f) = (client.converse session).map f :=
  Dialogue.expand_bind client.answer session _

theorem converse_andThen {α β : Type} (first : Gateway.Session (Except Failure α))
    (second : α → Gateway.Session (Except Failure β)) :
    client.converse (first.andThen second) =
      (client.converse first).andThen fun result => client.converse (second result) :=
  Dialogue.expand_andThen client.answer first second

/-! ## Reading -/

/-- For a call that is no change, nothing is sent but reading requests. -/
theorem changing_answer {call : Gateway.Call} (reads : call.isMutation = false)
    {found : Gateway.Answer call} (leads : Leads (client.answer call) exchanges found) :
    changing exchanges = [] := by
  refine changing_eq_nil_iff.mpr fun exchange member => ?_
  cases call with
  | supportedEvents =>
      obtain ⟨log, rfl, probed⟩ := probed_of_leads leads
      obtain ⟨entry, isEntry, rfl⟩ := List.mem_map.mp member
      exact probed.reads entry isEntry
  | list repository filter =>
      obtain ⟨turns, rfl, _⟩ := leads_listFrom leads
      obtain ⟨turn, _, rfl⟩ := List.mem_map.mp member
      rfl
  | create repository name events url => cases reads
  | update repository id name events url => cases reads
  | delete repository id => cases reads

/-- Without changes among the calls, nothing is sent but reading requests. -/
theorem changing_converse {α : Type} {session : Gateway.Session α}
    (reads : Asks (fun call => call.isMutation = false) session) {result : α}
    (leads : Leads (client.converse session) exchanges result) : changing exchanges = [] := by
  induction reads generalizing exchanges with
  | done result =>
      obtain ⟨rfl, _⟩ := Dialogue.leads_done_iff.mp leads
      rfl
  | ask isReading onward ih =>
      rw [converse_ask] at leads
      obtain ⟨answer, before, after, rfl, first, leadsOn⟩ := Dialogue.leads_bind_iff.mp leads
      rw [changing_append, changing_answer isReading first, ih answer leadsOn, List.append_nil]

/-! ## Finding out what is wanted -/

/-- What a mirror asks for when this is the answer to what the server supports. -/
def resolved : Except Failure EventSet → Except Failure EventSet
  | .ok supported => .ok (mirrorEvents supported)
  | .error failure => if failure.isMissingCapability then .ok .refChange else .error failure

theorem resolved_of_isMissing {failure : Failure} (isMissing : failure.isMissingCapability = true) :
    resolved (.error failure) = .ok .refChange :=
  if_pos isMissing

theorem resolved_of_not_isMissing {failure : Failure}
    (notMissing : failure.isMissingCapability = false) :
    resolved (.error failure) = .error failure :=
  if_neg (Bool.eq_false_iff.mp notMissing)

theorem resolved_cases {answer : Except Failure EventSet} {events : EventSet}
    (found : resolved answer = .ok events) :
    events = .empty ∨ ∃ kind : Shape, events = kind.events := by
  cases answer with
  | ok supported =>
      obtain rfl := Except.ok.inj found
      exact mirrorEvents_cases supported
  | error failure =>
      cases isMissing : failure.isMissingCapability with
      | true =>
          rw [resolved_of_isMissing isMissing] at found
          exact .inr ⟨.refOnly, (Except.ok.inj found).symm⟩
      | false =>
          rw [resolved_of_not_isMissing isMissing] at found
          cases found

/-- For a mirror the server is asked, and for nothing else. -/
theorem converse_resolveEvents (client : Client) (wanted : Subscription) :
    client.converse (resolveEvents wanted) =
      if wanted.mirror then client.supportedEvents.map resolved
      else .done (.ok wanted.triggeredEvents) := by
  unfold resolveEvents
  cases wanted.mirror with
  | false => rfl
  | true =>
      simp only [if_true, converse_ask]
      refine congrArg (Dialogue.bind client.supportedEvents) (funext fun answer => ?_)
      cases answer with
      | ok supported => rfl
      | error failure =>
          change client.converse (if failure.isMissingCapability then _ else _) =
            .done (if failure.isMissingCapability then _ else _)
          cases failure.isMissingCapability <;> rfl

theorem leads_converse_resolveEvents {found : Except Failure EventSet}
    (leads : Leads (client.converse (resolveEvents wanted)) exchanges found) :
    (wanted.mirror = false ∧ exchanges = [] ∧ found = .ok wanted.triggeredEvents) ∨
      wanted.mirror = true ∧
        ∃ answer, Leads client.supportedEvents exchanges answer ∧ found = resolved answer := by
  rw [converse_resolveEvents] at leads
  cases isMirror : wanted.mirror with
  | false =>
      rw [isMirror] at leads
      obtain ⟨rfl, rfl⟩ := Dialogue.leads_done_iff.mp leads
      exact .inl ⟨rfl, rfl, rfl⟩
  | true =>
      rw [isMirror] at leads
      exact .inr ⟨rfl, Dialogue.leads_map_iff.mp leads⟩

/-- What is found to be wanted is nothing, or the events of a shape. -/
theorem wanted_of_leads {events : EventSet}
    (leads : Leads (client.converse (resolveEvents wanted)) exchanges (.ok events)) :
    events = .empty ∨ ∃ kind : Shape, events = kind.events := by
  rcases leads_converse_resolveEvents leads with ⟨_, _, same⟩ | ⟨_, answer, _, same⟩
  · obtain rfl := Except.ok.inj same
    exact triggeredEvents_cases wanted
  · exact resolved_cases same.symm

theorem asks_resolveEvents (wanted : Subscription) :
    Asks (fun call => call.isMutation = false) (resolveEvents wanted) := by
  unfold resolveEvents
  split
  · refine .ask rfl fun answer => ?_
    cases answer with
    | ok supported => exact .done _
    | error failure =>
        dsimp only
        split <;> exact .done _
  · exact .done _

/-- The requests by which it is found out what is wanted change nothing. -/
theorem changing_resolving {found : Except Failure EventSet} {exchanges : List Exchange}
    (leads : Leads (client.converse (resolveEvents wanted)) exchanges found) :
    changing exchanges = [] :=
  changing_converse (asks_resolveEvents wanted) leads

/-! ## Listing and changing -/

/-- The requests for pages change nothing. -/
theorem changing_listing {repository : Repository} {filter : List Event}
    {found : Except Failure (List Webhook)} {exchanges : List Exchange}
    (leads : Leads (client.answer (.list repository filter)) exchanges found) :
    changing exchanges = [] :=
  changing_answer rfl leads

/-- To list the own webhooks is to list all of them and to choose. -/
theorem converse_listOwned (client : Client) (wanted : Subscription) :
    client.converse (listOwned wanted) =
      (client.answer (.list wanted.repository Event.all)).map (·.map (owned wanted)) := by
  rw [listOwned, Dialogue.require, converse_ask]
  refine congrArg (Dialogue.bind _) (funext fun answer => ?_)
  cases answer <;> rfl

/-- A failed listing ends a reconciliation; what is listed settles its further course. -/
theorem listed_of_leads {result : Except Failure (Option Webhook)}
    (leads : Leads (client.converse (apply wanted kind.events)) exchanges result) :
    ∃ listing before after, exchanges = before ++ after ∧
      Leads (client.answer (.list wanted.repository Event.all)) before listing ∧
      ((∃ failure, listing = .error failure ∧ after = [] ∧ result = .error failure) ∨
        ∃ hooks, listing = .ok hooks ∧
          Leads (client.converse (settle wanted kind hooks)) after result) := by
  rw [apply_eq_require, Dialogue.require, converse_ask] at leads
  obtain ⟨listing, before, after, rfl, lists, onward⟩ := Dialogue.leads_bind_iff.mp leads
  refine ⟨listing, before, after, rfl, lists, ?_⟩
  cases listing with
  | error failure =>
      obtain ⟨rfl, rfl⟩ := Dialogue.leads_done_iff.mp onward
      exact .inl ⟨failure, rfl, rfl, rfl⟩
  | ok hooks => exact .inr ⟨hooks, rfl, onward⟩

/-- The settled course pursues its changes. -/
theorem pursuit_of_settle {hooks : List Webhook} {result : Except Failure (Option Webhook)}
    (leads : Leads (client.converse (settle wanted kind hooks)) exchanges result) :
    ∃ log, exchanges = log.map Entry.exchange ∧
      Pursuit client (changes wanted kind hooks) log result.isOk ∧
      ∀ webhook, result = .ok webhook → EndsWell wanted kind hooks webhook :=
  pursuit_of_leads (settle_errand wanted kind hooks)
    (fun _ member => isMutation_of_mem_changes member) leads

/-- The settled course only sends requests that can change something. -/
theorem asks_converse_settle (client : Client) (wanted : Subscription) (kind : Shape)
    (hooks : List Webhook) :
    Asks (fun request => request.method ≠ .get) (client.converse (settle wanted kind hooks)) :=
  (settle_errand wanted kind hooks).asks.expand fun _ member =>
    asks_answer_of_isMutation (isMutation_of_mem_changes member)

/-- A stalled listing ends a reconciliation; behind a complete one its changes are pursued. -/
theorem leads_converse_apply {result : Except Failure (Option Webhook)}
    (leads : Leads (client.converse (apply wanted kind.events)) exchanges result) :
    ∃ turns log, exchanges = turns.map (client.pageExchange wanted.repository Event.all) ++
        log.map Entry.exchange ∧
      ((Stalled 0 turns ∧ log = [] ∧ ∃ failure, result = .error failure) ∨
        ∃ hooks, Paged 0 turns hooks ∧
          Pursuit client (changes wanted kind hooks) log result.isOk ∧
          ∀ webhook, result = .ok webhook → EndsWell wanted kind hooks webhook) := by
  obtain ⟨listing, before, after, rfl, lists, onward⟩ := listed_of_leads leads
  obtain ⟨turns, rfl, ⟨hooks, paged, rfl⟩ | ⟨stalled, failure, rfl⟩⟩ := leads_listFrom lists
  · obtain ⟨failure, fails, _⟩ | ⟨others, same, settles⟩ := onward
    · cases fails
    · obtain rfl := Except.ok.inj same
      obtain ⟨log, rfl, pursuit, ends⟩ := pursuit_of_settle settles
      exact ⟨turns, log, rfl, .inr ⟨hooks, paged, pursuit, ends⟩⟩
  · obtain ⟨_, _, rfl, fails⟩ | ⟨hooks, succeeds, _⟩ := onward
    · exact ⟨turns, [], rfl, .inl ⟨stalled, rfl, _, fails⟩⟩
    · cases succeeds

theorem converse_reconcile (client : Client) (wanted : Subscription) :
    client.converse (reconcile wanted) =
      (client.converse (resolveEvents wanted)).andThen fun events =>
        if events.isEmpty then .done (.ok none) else client.converse (apply wanted events) := by
  rw [reconcile, converse_andThen]
  congr 1
  funext events
  split <;> rfl

theorem leads_converse_reconcile {result : Except Failure (Option Webhook)}
    (leads : Leads (client.converse (reconcile wanted)) exchanges result) :
    ∃ probing found rest, exchanges = probing ++ rest ∧
      Leads (client.converse (resolveEvents wanted)) probing found ∧
      ((∃ failure, found = .error failure ∧ rest = [] ∧ result = .error failure) ∨
        (found = .ok .empty ∧ rest = [] ∧ result = .ok none) ∨
        ∃ kind : Shape, found = .ok kind.events ∧
          Leads (client.converse (apply wanted kind.events)) rest result) := by
  rw [converse_reconcile] at leads
  obtain ⟨found, probing, rest, rfl, resolves, ⟨failure, rfl, rfl, rfl⟩ | ⟨events, rfl, onward⟩⟩ :=
    Dialogue.leads_andThen leads
  · exact ⟨probing, _, [], rfl, resolves, .inl ⟨failure, rfl, rfl, rfl⟩⟩
  · refine ⟨probing, _, rest, rfl, resolves, .inr ?_⟩
    rcases wanted_of_leads resolves with rfl | ⟨kind, rfl⟩
    · obtain ⟨rfl, rfl⟩ := Dialogue.leads_done_iff.mp onward
      exact .inl ⟨rfl, rfl, rfl⟩
    · rw [kind.events_isEmpty, if_neg Bool.false_ne_true] at onward
      exact .inr ⟨kind, rfl, onward⟩

end WebhookSync.Server.Client
