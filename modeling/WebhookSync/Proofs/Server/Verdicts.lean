import WebhookSync.Proofs.Server.Probing

/-!
# What answers say about the supported events

The first of two answers either says that the server cannot tell which events it supports
(`CannotTell`), or it holds the link to a document that tells (`LinksTo`), or it is of no use.  The
second answer names the events (`Names`), or it is of no use.  Each of these settles how the client
goes on.
-/

namespace WebhookSync.Server

/-- The response is one of success, and its body holds the value. -/
def Holds {α : Type} (reader : Json.Reader α) (response : Http.Response) (value : α) : Prop :=
  response.isSuccess = true ∧ reader.whole (Text.decode response.body) = .ok value

instance {α : Type} [DecidableEq α] (reader : Json.Reader α) (response : Http.Response)
    (value : α) : Decidable (Holds reader response value) :=
  match read : reader.whole (Text.decode response.body) with
  | .error fault => isFalse fun ⟨_, holds⟩ => by rw [read] at holds; cases holds
  | .ok found =>
      decidable_of_iff (response.isSuccess = true ∧ found = value)
        ⟨fun ⟨success, same⟩ => ⟨success, read.trans (congrArg Except.ok same)⟩,
          fun ⟨success, holds⟩ => ⟨success, Except.ok.inj (read.symm.trans holds)⟩⟩

/-- The server has no document of its capabilities, or one without an entry for webhooks. -/
def CannotTell (answer : Except Http.Fault Http.Response) : Prop :=
  ∃ response, answer = .ok response ∧ (response.status = 404 ∨
    ∃ links, Holds capabilityLinksShape.reader response links ∧
      ∀ link, ("webhooks", link) ∉ links)

/-- The document of the server's capabilities has this link for webhooks.  Of several it is the
last. -/
def LinksTo (answer : Except Http.Fault Http.Response) (link : String) : Prop :=
  ∃ response links, answer = .ok response ∧ Holds capabilityLinksShape.reader response links ∧
    ∃ before after, links = before ++ ("webhooks", link) :: after ∧
      ∀ other, ("webhooks", other) ∉ after

/-- These are the events whose names stand in the linked document. -/
def Names (answer : Except Http.Fault Http.Response) (events : EventSet) : Prop :=
  ∃ response names, answer = .ok response ∧ Holds supportedNamesShape.reader response names ∧
    ∀ event, events.contains event = true ↔ event.name ∈ names

/-! ## Reading the two documents -/

theorem linkOf?_eq_none_iff {links : List (String × String)} {name : String} :
    linkOf? links name = none ↔ ∀ link, (name, link) ∉ links := by
  unfold linkOf?
  rw [Option.map_eq_none_iff, List.find?_eq_none]
  constructor
  · intro none link member
    exact none (name, link) (List.mem_reverse.mpr member) (beq_self_eq_true name)
  · rintro none ⟨key, link⟩ member isKey
    obtain rfl := eq_of_beq isKey
    exact none link (List.mem_reverse.mp member)

theorem linkOf?_eq_some_iff {links : List (String × String)} {name link : String} :
    linkOf? links name = some link ↔ ∃ before after,
      links = before ++ (name, link) :: after ∧ ∀ other, (name, other) ∉ after := by
  unfold linkOf?
  constructor
  · intro found
    obtain ⟨⟨key, _⟩, isFirst, rfl⟩ := Option.map_eq_some_iff.mp found
    obtain ⟨isKey, after, before, split, none⟩ := List.find?_eq_some_iff_append.mp isFirst
    obtain rfl := eq_of_beq isKey
    refine ⟨before.reverse, after.reverse, ?_, fun other member => ?_⟩
    · rw [← List.reverse_reverse links, split]
      simp
    · have notKey := none _ (List.mem_reverse.mp member)
      simp at notKey
  · rintro ⟨before, after, rfl, none⟩
    have notKey : ∀ entry ∈ after.reverse, (entry.1 == name) = false := by
      rintro ⟨key, other⟩ member
      rw [beq_eq_false_iff_ne]
      rintro rfl
      exact none other (List.mem_reverse.mp member)
    rw [List.reverse_append, List.reverse_cons, List.append_assoc, List.find?_append,
      List.find?_eq_none.mpr fun entry member => by simp [notKey entry member]]
    simp

/-- The events whose names are in a list, whatever else is in it. -/
theorem contains_ofList_filterMap {names : List String} {event : Event} :
    (EventSet.ofList (names.filterMap Event.ofName?)).contains event = true ↔
      event.name ∈ names := by
  simp [EventSet.ofList, Event.ofName?_eq_some_iff]

namespace Client

theorem decode_eq_ok_iff {α : Type} {reader : Json.Reader α} {response : Http.Response}
    {value : α} : decode reader response = .ok value ↔ Holds reader response value := by
  constructor
  · intro read
    have success := isSuccess_of_decode_eq_ok read
    rw [decode, if_pos success] at read
    cases found : reader.whole (Text.decode response.body) with
    | error cause =>
        rw [found] at read
        cases read
    | ok other =>
        rw [found] at read
        obtain rfl := Except.ok.inj read
        exact ⟨success, found⟩
  · rintro ⟨success, found⟩
    rw [decode, if_pos success, found]
    rfl

variable {client : Client}

/-! ## The first answer -/

/-- How the client goes on behind the first answer. -/
def afterLinks (client : Client) :
    Except Http.Fault Http.Response → Session (Except Failure EventSet) :=
  received fun response =>
    match decode capabilityLinksShape.reader response with
    | .error failure => .done (.error (withoutLinks failure))
    | .ok links =>
        match linkOf? links "webhooks" with
        | none => .done (.error (.missingCapability "webhooks"))
        | some link => client.readSupported link

theorem supportedEvents_of_canSend (canSend : client.CanSend client.base) :
    client.supportedEvents = .ask (client.requestFor .supportedEvents) client.afterLinks := by
  have canSendThere : client.CanSend client.capabilitiesUrl := canSend.congr rfl
  rw [supportedEvents_eq_send, send_of_canSend canSendThere]
  rfl

section FirstAnswer

variable {answer : Except Http.Fault Http.Response}

theorem afterLinks_of_cannotTell (client : Client) (cannotTell : CannotTell answer) :
    ∃ what, client.afterLinks answer = .done (.error (.missingCapability what)) := by
  obtain ⟨response, rfl, notFound | ⟨links, holds, none⟩⟩ := cannotTell
  · refine ⟨"server does not publish capabilities", ?_⟩
    rw [afterLinks, received, decode_of_status_eq_notFound _ notFound]
    rfl
  · refine ⟨"webhooks", ?_⟩
    simp only [afterLinks, received, decode_eq_ok_iff.mpr holds, linkOf?_eq_none_iff.mpr none]

theorem afterLinks_of_linksTo {link : String} (linksTo : LinksTo answer link) :
    client.afterLinks answer = client.readSupported link := by
  obtain ⟨response, links, rfl, holds, isLast⟩ := linksTo
  simp only [afterLinks, received, decode_eq_ok_iff.mpr holds, linkOf?_eq_some_iff.mpr isLast]

/-- An answer that neither says that the server cannot tell nor links on is a failure of another
kind. -/
theorem afterLinks_otherwise (client : Client) (tells : ¬CannotTell answer)
    (leadsOn : ∀ link, ¬LinksTo answer link) :
    ∃ failure, client.afterLinks answer = .done (.error failure) ∧
      failure.isMissingCapability = false := by
  cases answer with
  | error fault => exact ⟨_, rfl, rfl⟩
  | ok response =>
      cases read : decode capabilityLinksShape.reader response with
      | error failure =>
          refine ⟨withoutLinks failure, by simp only [afterLinks, received, read], ?_⟩
          rw [← Bool.not_eq_true, isMissingCapability_withoutLinks read]
          exact fun notFound => tells ⟨response, rfl, .inl notFound⟩
      | ok links =>
          have holds := decode_eq_ok_iff.mp read
          cases found : linkOf? links "webhooks" with
          | none =>
              exact absurd ⟨response, rfl, .inr ⟨links, holds, linkOf?_eq_none_iff.mp found⟩⟩ tells
          | some link =>
              exact absurd ⟨response, links, rfl, holds, linkOf?_eq_some_iff.mp found⟩
                (leadsOn link)

theorem not_cannotTell_of_linksTo {link : String} (linksTo : LinksTo answer link) :
    ¬CannotTell answer := by
  obtain ⟨response, links, rfl, holds, before, after, rfl, _⟩ := linksTo
  rintro ⟨other, same, notFound | ⟨others, holdsToo, none⟩⟩
  · obtain rfl := Except.ok.inj same
    have success := holds.1
    rw [Http.Response.isSuccess, notFound] at success
    cases success
  · obtain rfl := Except.ok.inj same
    obtain rfl := Except.ok.inj (holds.2.symm.trans holdsToo.2)
    exact none link (by simp)

end FirstAnswer

/-! ## The second answer -/

/-- The request for the document at a place that a link leads to. -/
def linkedRequest (client : Client) (url : Url) : Http.Request :=
  client.request .get url none

/-- What the second answer comes to. -/
def afterNames : Except Http.Fault Http.Response → Session (Except Failure EventSet) :=
  received fun response =>
    .done ((decode supportedNamesShape.reader response).map fun names =>
      EventSet.ofList (names.filterMap Event.ofName?))

theorem readSupported_of_canSend {link : String} {url : Url}
    (resolved : client.resolveLink link = .ok url) (canSend : client.CanSend url) :
    client.readSupported link = .ask (client.linkedRequest url) afterNames := by
  rw [readSupported, resolved]
  exact send_of_canSend canSend

/-- A link that leads to no place that requests can be sent to is a failure. -/
theorem readSupported_of_not_canSend {link : String}
    (unsent : ∀ url, client.resolveLink link = .ok url → ¬client.CanSend url) :
    ∃ failure, client.readSupported link = .done (.error failure) ∧
      failure.isMissingCapability = false := by
  cases resolved : client.resolveLink link with
  | error fault =>
      rw [readSupported, resolved]
      exact ⟨_, rfl, rfl⟩
  | ok url =>
      rw [readSupported, resolved]
      obtain ⟨cause, isDone⟩ := send_of_not_canSend (unsent url resolved)
      exact ⟨_, isDone, rfl⟩

/-- Behind the first answer all is over, unless it links to a place that requests can be sent to. -/
theorem afterLinks_cases (client : Client) (answer : Except Http.Fault Http.Response) :
    (∃ failure, client.afterLinks answer = .done (.error failure) ∧
        (¬CannotTell answer → failure.isMissingCapability = false)) ∨
      ∃ link url, LinksTo answer link ∧ client.resolveLink link = .ok url ∧ client.CanSend url ∧
        client.afterLinks answer = .ask (client.linkedRequest url) afterNames := by
  by_cases cannotTell : CannotTell answer
  · obtain ⟨what, isDone⟩ := afterLinks_of_cannotTell client cannotTell
    exact .inl ⟨_, isDone, fun tells => absurd cannotTell tells⟩
  · by_cases leadsOn : ∃ link, LinksTo answer link
    · obtain ⟨link, linksTo⟩ := leadsOn
      rw [afterLinks_of_linksTo linksTo]
      by_cases followed : ∃ url, client.resolveLink link = .ok url ∧ client.CanSend url
      · obtain ⟨url, resolved, canSend⟩ := followed
        exact .inr ⟨link, url, linksTo, resolved, canSend,
          readSupported_of_canSend resolved canSend⟩
      · obtain ⟨failure, isDone, isOther⟩ := readSupported_of_not_canSend
          fun url resolved canSend => followed ⟨url, resolved, canSend⟩
        exact .inl ⟨failure, isDone, fun _ => isOther⟩
    · obtain ⟨failure, isDone, isOther⟩ :=
        afterLinks_otherwise client cannotTell fun link linksTo => leadsOn ⟨link, linksTo⟩
      exact .inl ⟨failure, isDone, fun _ => isOther⟩

section SecondAnswer

variable {answer : Except Http.Fault Http.Response} {events : EventSet}

theorem afterNames_of_names (names : Names answer events) :
    afterNames answer = .done (.ok events) := by
  obtain ⟨response, names, rfl, holds, same⟩ := names
  have sameEvents : EventSet.ofList (names.filterMap Event.ofName?) = events := by
    ext event
    rw [Bool.eq_iff_iff, contains_ofList_filterMap, same]
  rw [afterNames, received, decode_eq_ok_iff.mpr holds, ← sameEvents]
  rfl

/-- An answer that names no events is a failure, but none that says that the server cannot tell. -/
theorem afterNames_otherwise (nameless : ∀ events, ¬Names answer events) :
    ∃ failure, afterNames answer = .done (.error failure) ∧
      failure.isMissingCapability = false := by
  cases answer with
  | error fault => exact ⟨_, rfl, rfl⟩
  | ok response =>
      cases read : decode supportedNamesShape.reader response with
      | error failure =>
          refine ⟨failure, ?_, isMissingCapability_of_decode_eq_error read⟩
          rw [afterNames, received, read]
          rfl
      | ok names =>
          exact absurd ⟨response, names, rfl, decode_eq_ok_iff.mp read,
            fun event => contains_ofList_filterMap⟩ (nameless _)

end SecondAnswer

end Client

/-! ## Prepared answers -/

/-- Give prepared answers one after the other, whatever is asked, and none when they are used up. -/
def recite (request : Http.Request) :
    List (Except Http.Fault Http.Response) →
      Http.Answer request × List (Except Http.Fault Http.Response)
  | [] => (.error (.dropped (Client.shownUrl request.url)), [])
  | answer :: rest => (answer, rest)

/-- A successful response with a text. -/
def success (text : String) : Except Http.Fault Http.Response :=
  .ok ⟨200, text.toUTF8.data.toList⟩

end WebhookSync.Server
