import WebhookSync.Proofs.Server.Conversation
import WebhookSync.Proofs.Server.Verdicts

/-!
# What becomes of the answers about supported events

Two answers decide what is known about the events that a server supports: that the server cannot
tell, which events they are, or that asking failed.  A mirror is reconciled accordingly.  Where the
server cannot tell, it is from the listing on the reconciliation of an ordinary repository for
branch and tag updates; where asking failed, it is over (`probing_classifies`).
-/

namespace WebhookSync.Server

open Dialogue (transcript)
open Reconcile

variable {client : Client} {wanted : Subscription} {σ : Type}
  {server : (request : Http.Request) → σ → Http.Answer request × σ} {state : σ}

/-! ## Asking -/

section Asking

variable (canSend : client.CanSend client.base)

include canSend

/-- The server that cannot tell is asked once. -/
theorem run_supportedEvents_of_cannotTell
    (cannotTell : CannotTell (server (client.requestFor .supportedEvents) state).1) :
    (∃ what, (client.supportedEvents.run server state).1 = .error (.missingCapability what)) ∧
      (transcript server client.supportedEvents state).map (·.question) =
        [client.requestFor .supportedEvents] := by
  obtain ⟨what, isDone⟩ := Client.afterLinks_of_cannotTell client cannotTell
  rw [Client.supportedEvents_of_canSend canSend]
  simp only [Dialogue.run_ask, transcript, isDone]
  exact ⟨⟨what, rfl⟩, rfl⟩

/-- Where the linked document names events, these are known. -/
theorem run_supportedEvents_of_names {link : String} {url : Url} {events : EventSet}
    (linksTo : LinksTo (server (client.requestFor .supportedEvents) state).1 link)
    (resolved : client.resolveLink link = .ok url) (canSendOn : client.CanSend url)
    (names : Names (server (client.linkedRequest url)
      (server (client.requestFor .supportedEvents) state).2).1 events) :
    (client.supportedEvents.run server state).1 = .ok events := by
  rw [Client.supportedEvents_of_canSend canSend]
  simp only [Dialogue.run_ask, Client.afterLinks_of_linksTo linksTo,
    Client.readSupported_of_canSend resolved canSendOn, Client.afterNames_of_names names,
    Dialogue.run_done]

/-- If the server does not say that it cannot tell, then it does tell, or asking fails in another
way. -/
theorem run_supportedEvents_cases
    (tells : ¬CannotTell (server (client.requestFor .supportedEvents) state).1) :
    (∃ failure, (client.supportedEvents.run server state).1 = .error failure ∧
        failure.isMissingCapability = false) ∨
      ∃ link url events, LinksTo (server (client.requestFor .supportedEvents) state).1 link ∧
        client.resolveLink link = .ok url ∧ client.CanSend url ∧
        Names (server (client.linkedRequest url)
          (server (client.requestFor .supportedEvents) state).2).1 events := by
  rw [Client.supportedEvents_of_canSend canSend, Dialogue.run_ask]
  rcases client.afterLinks_cases (server (client.requestFor .supportedEvents) state).1 with
    ⟨failure, isDone, isOther⟩ | ⟨link, url, linksTo, resolved, canSendOn, isAsk⟩
  · rw [isDone]
    exact .inl ⟨failure, rfl, isOther tells⟩
  · rw [isAsk, Dialogue.run_ask]
    by_cases named : ∃ events, Names (server (client.linkedRequest url)
        (server (client.requestFor .supportedEvents) state).2).1 events
    · obtain ⟨events, names⟩ := named
      exact .inr ⟨link, url, events, linksTo, resolved, canSendOn, names⟩
    · obtain ⟨failure, isDone, isOther⟩ :=
        Client.afterNames_otherwise fun events names => named ⟨events, names⟩
      rw [isDone]
      exact .inl ⟨failure, rfl, isOther⟩

/-- The server cannot tell just when it is said that this capability is missing. -/
theorem supportedEvents_eq_missing_iff :
    (∃ what, (client.supportedEvents.run server state).1 = .error (.missingCapability what)) ↔
      CannotTell (server (client.requestFor .supportedEvents) state).1 := by
  refine ⟨?_, fun cannotTell => (run_supportedEvents_of_cannotTell canSend cannotTell).1⟩
  rintro ⟨what, isMissing⟩
  by_contra tells
  obtain ⟨failure, isError, isOther⟩ | ⟨_, _, _, linksTo, resolved, canSendOn, names⟩ :=
    run_supportedEvents_cases canSend tells
  · obtain rfl := Except.error.inj (isMissing.symm.trans isError)
    cases isOther
  · rw [run_supportedEvents_of_names canSend linksTo resolved canSendOn names] at isMissing
    cases isMissing

/-- Events are known just when a link leads to a document that names them. -/
theorem supportedEvents_eq_ok_iff {events : EventSet} :
    (client.supportedEvents.run server state).1 = .ok events ↔
      ∃ link url, LinksTo (server (client.requestFor .supportedEvents) state).1 link ∧
        client.resolveLink link = .ok url ∧ client.CanSend url ∧
        Names (server (client.linkedRequest url)
          (server (client.requestFor .supportedEvents) state).2).1 events := by
  constructor
  · intro isOk
    have tells : ¬CannotTell (server (client.requestFor .supportedEvents) state).1 := by
      intro cannotTell
      obtain ⟨what, isMissing⟩ := (supportedEvents_eq_missing_iff canSend).mpr cannotTell
      rw [isOk] at isMissing
      cases isMissing
    obtain ⟨failure, isError, _⟩ | ⟨link, url, others, linksTo, resolved, canSendOn, names⟩ :=
      run_supportedEvents_cases canSend tells
    · rw [isOk] at isError
      cases isError
    · have isOthers := run_supportedEvents_of_names canSend linksTo resolved canSendOn names
      obtain rfl := Except.ok.inj (isOk.symm.trans isOthers)
      exact ⟨link, url, linksTo, resolved, canSendOn, names⟩
  · rintro ⟨link, url, linksTo, resolved, canSendOn, names⟩
    exact run_supportedEvents_of_names canSend linksTo resolved canSendOn names

end Asking

/-! ## Mirrors -/

/-- The reconciliation of a mirror asks what the server supports, and goes on with what that means
for a mirror. -/
theorem run_reconcile_of_mirror (isMirror : wanted.mirror = true) {found : Except Failure EventSet}
    {after : σ} (asked : client.supportedEvents.run server state = (found, after)) :
    let onward : Session (Except Failure (Option Webhook)) :=
      match Client.resolved found with
      | .error failure => .done (.error failure)
      | .ok events =>
          if events.isEmpty then .done (.ok none) else client.converse (apply wanted events)
    (client.converse (reconcile wanted)).run server state = onward.run server after ∧
      transcript server (client.converse (reconcile wanted)) state =
        transcript server client.supportedEvents state ++ transcript server onward after := by
  intro onward
  rw [Client.converse_reconcile, Client.converse_resolveEvents, if_pos isMirror, Dialogue.andThen,
    Dialogue.map, Dialogue.bind_assoc, Dialogue.run_bind, Dialogue.transcript_bind, asked]
  simp only [onward, Dialogue.bind]
  cases Client.resolved found <;> exact ⟨rfl, rfl⟩

/-- The subscription of an ordinary repository for branch and tag updates only. -/
def onlyRefChange (wanted : Subscription) : Subscription :=
  { wanted with mirror := false, onRefChange := true, onPullRequest := false }

theorem converse_reconcile_onlyRefChange (client : Client) (wanted : Subscription) :
    client.converse (reconcile (onlyRefChange wanted)) =
      client.converse (apply wanted .refChange) := by
  have sameApply : apply (onlyRefChange wanted) .refChange = apply wanted .refChange :=
    apply_congr rfl rfl rfl _
  have triggered : (onlyRefChange wanted).triggeredEvents = .refChange := by
    ext event
    cases event <;> rfl
  have ordinary : ¬(onlyRefChange wanted).mirror = true := Bool.false_ne_true
  rw [Client.converse_reconcile, Client.converse_resolveEvents, if_neg ordinary, triggered,
    Dialogue.done_ok_andThen, sameApply]
  exact if_neg (by decide)

/-- Where the capability is missing, a mirror is reconciled like an ordinary repository, from the
listing on. -/
theorem run_reconcile_of_missing (isMirror : wanted.mirror = true) {what : String}
    (isMissing : (client.supportedEvents.run server state).1 = .error (.missingCapability what)) :
    let session := client.converse (reconcile wanted)
    let ordinary := client.converse (reconcile (onlyRefChange wanted))
    let later := (client.supportedEvents.run server state).2
    session.run server state = ordinary.run server later ∧
      transcript server session state =
        transcript server client.supportedEvents state ++ transcript server ordinary later := by
  intro session ordinary later
  have isRun : client.supportedEvents.run server state =
      (.error (.missingCapability what), later) := by
    rw [← isMissing]
  have onward := run_reconcile_of_mirror isMirror isRun
  rw [Client.resolved_of_isMissing rfl] at onward
  have sameOnward : ordinary = client.converse (apply wanted .refChange) :=
    converse_reconcile_onlyRefChange client wanted
  rw [sameOnward]
  exact onward

/-- Where asking failed in another way, the reconciliation of a mirror is over. -/
theorem run_reconcile_of_failure (isMirror : wanted.mirror = true) {failure : Failure}
    (isError : (client.supportedEvents.run server state).1 = .error failure)
    (notMissing : failure.isMissingCapability = false) :
    let session := client.converse (reconcile wanted)
    session.run server state = (.error failure, (client.supportedEvents.run server state).2) ∧
      transcript server session state = transcript server client.supportedEvents state := by
  intro session
  have isRun : client.supportedEvents.run server state =
      (.error failure, (client.supportedEvents.run server state).2) := by
    rw [← isError]
  obtain ⟨sameRun, sameTranscript⟩ := run_reconcile_of_mirror isMirror isRun
  rw [Client.resolved_of_not_isMissing notMissing] at sameRun sameTranscript
  exact ⟨sameRun, sameTranscript.trans (List.append_nil _)⟩

/-! ## Every answer -/

/-- The two answers decide what asking for the supported events comes to, and a mirror is reconciled
accordingly. -/
theorem probing_classifies (client : Client) (canSend : client.CanSend client.base) {σ : Type}
    (server : (request : Http.Request) → σ → Http.Answer request × σ) (state : σ) :
    let probing := client.answer .supportedEvents
    let result := (probing.run server state).1
    let probes := transcript server probing state
    let first := server (client.requestFor .supportedEvents) state
    let second (url : Url) := (server (client.linkedRequest url) first.2).1
    ((∃ what, result = .error (.missingCapability what)) ↔ CannotTell first.1) ∧
    (CannotTell first.1 →
      probes.map (·.question) = [client.requestFor .supportedEvents]) ∧
    (∀ events, result = .ok events ↔
      ∃ link url, LinksTo first.1 link ∧ client.resolveLink link = .ok url ∧
        client.CanSend url ∧ Names (second url) events) ∧
    (¬CannotTell first.1 → (∀ events, result ≠ .ok events) →
      ∃ failure, result = .error failure ∧ failure.isMissingCapability = false) ∧
    ∀ wanted : Subscription, wanted.mirror = true →
      let session := client.converse (reconcile wanted)
      let later := (probing.run server state).2
      (CannotTell first.1 →
        let ordinary := client.converse (reconcile (onlyRefChange wanted))
        session.run server state = ordinary.run server later ∧
          transcript server session state = probes ++ transcript server ordinary later) ∧
      (∀ failure, result = .error failure → failure.isMissingCapability = false →
        session.run server state = (.error failure, later) ∧
          transcript server session state = probes) := by
  intro probing result probes first second
  have missingIff : (∃ what, result = .error (.missingCapability what)) ↔ CannotTell first.1 :=
    supportedEvents_eq_missing_iff canSend
  have okIff (events : EventSet) : result = .ok events ↔
      ∃ link url, LinksTo first.1 link ∧ client.resolveLink link = .ok url ∧
        client.CanSend url ∧ Names (second url) events :=
    supportedEvents_eq_ok_iff canSend
  refine ⟨missingIff, fun cannotTell => (run_supportedEvents_of_cannotTell canSend cannotTell).2,
    okIff, fun tells fails => ?_, fun wanted isMirror => ⟨fun cannotTell => ?_,
      fun failure isError notMissing => run_reconcile_of_failure isMirror isError notMissing⟩⟩
  · obtain isFailure | ⟨link, url, events, isNamed⟩ := run_supportedEvents_cases canSend tells
    · exact isFailure
    · exact absurd ((okIff events).mpr ⟨link, url, isNamed⟩) (fails events)
  · obtain ⟨what, isMissing⟩ := missingIff.mpr cannotTell
    exact run_reconcile_of_missing isMirror isMissing

/-- A server without capabilities, one that names events, and one whose linked document is missing;
mirrors of the first and the last. -/
theorem probing_classifies_scripted :
    let client : Client :=
      ⟨⟨"http", "", none, some (.name "h"), none, .segments [""], none, none⟩, none⟩
    let wanted : Subscription := ⟨⟨"P", "r"⟩, "ci", "https://ci", true, false, false⟩
    let links := success ("\x7b\"capabilities\":\x7b\"webhooks\":\"http://h/old\"," ++
      "\"webhooks\":\"events\"\x7d\x7d")
    let names := success "\x7b\"application-webhooks\":[\"pr:opened\",\"x\",\"pr:opened\"]\x7d"
    let gone : Except Http.Fault Http.Response := .ok ⟨404, []⟩
    let listing := success "\x7b\"values\":[]\x7d"
    let session := client.converse (reconcile wanted)
    client.CanSend client.base ∧
      (∃ what, (client.supportedEvents.run recite [gone, listing]).1 =
        .error (.missingCapability what)) ∧
      (transcript recite session [gone, listing]).length =
        1 + (transcript recite (client.converse (reconcile (onlyRefChange wanted)))
          [listing]).length ∧
      (client.supportedEvents.run recite [links, names]).1 = .ok (.ofList [.pullRequestOpened]) ∧
      ∃ failure, failure.isMissingCapability = false ∧
        (session.run recite [links, gone, listing]).1 = .error failure := by
  intro client wanted links names gone listing session
  have canSend : client.CanSend client.base := ⟨rfl, .inl rfl⟩
  let linked : Url := ⟨"http", "", none, some (.name "h"), none, .segments ["events"], none, none⟩
  have linksTo : LinksTo links "events" :=
    ⟨_, [("webhooks", "http://h/old"), ("webhooks", "events")], rfl, by decide +kernel, [_], [],
      rfl, fun _ => List.not_mem_nil⟩
  have resolved : client.resolveLink "events" = .ok linked := by decide +kernel
  have canSendOn : client.CanSend linked := ⟨rfl, .inl rfl⟩
  have named : Names names (.ofList [.pullRequestOpened]) :=
    ⟨_, ["pr:opened", "x", "pr:opened"], rfl, by decide +kernel,
      fun event => by cases event <;> decide⟩
  have cannotTell : CannotTell gone := ⟨_, rfl, .inl rfl⟩
  have nameless : ∀ events, ¬Names gone events := by
    rintro events ⟨response, _, isResponse, ⟨success, _⟩, _⟩
    obtain rfl := Except.ok.inj isResponse
    cases success
  have tellsOn : ¬CannotTell links := Client.not_cannotTell_of_linksTo linksTo
  obtain ⟨missing, alone, _, _, mirrored⟩ :=
    probing_classifies client canSend recite [gone, listing]
  obtain ⟨_, sameExchanges⟩ := (mirrored wanted rfl).1 cannotTell
  obtain ⟨_, _, tells, _⟩ := probing_classifies client canSend recite [links, names]
  obtain ⟨_, _, tellsToo, otherwise, mirroredToo⟩ :=
    probing_classifies client canSend recite [links, gone, listing]
  refine ⟨canSend, missing.mpr cannotTell, ?_, ?_, ?_⟩
  · have asked := congrArg List.length (alone cannotTell)
    rw [List.length_map] at asked
    exact (congrArg List.length sameExchanges).trans (List.length_append.trans (by rw [asked]; rfl))
  · exact (tells _).mpr ⟨"events", linked, linksTo, resolved, canSendOn, named⟩
  · obtain ⟨failure, fails, isOther⟩ := otherwise tellsOn fun events isOk => by
      obtain ⟨_, _, _, _, _, names⟩ := (tellsToo events).mp isOk
      exact nameless events names
    exact ⟨failure, isOther,
      congrArg Prod.fst ((mirroredToo wanted rfl).2 failure fails isOther).1⟩

end WebhookSync.Server
