import Mathlib.Data.Set.List
import WebhookSync.Proofs.Events
import WebhookSync.Proofs.Json.Records
import WebhookSync.Server.Documents

/-!
# Webhooks that come back

What is sent to have a webhook stored describes it without an id.  A server echoes it with one: the
members come back in any order, with others among them, and the events in any order and repeated.
Whatever such an echo looks like, it is read as the webhook that was sent (`Echo.reads`).
-/

namespace WebhookSync

open Json (Document Reads RecordShape Spells SpellsWhole)

/-! ## Reading webhooks -/

namespace Webhook

/-- The draft when only these members have come. -/
def Draft.only (draft : Draft) (come : List String) : Draft where
  id := Json.ifCome come "id" draft.id
  name := Json.ifCome come "name" draft.name
  events := Json.ifCome come "events" draft.events
  url := Json.ifCome come "url" draft.url
  active := Json.ifCome come "active" draft.active

theorem names_shape : shape.names = ["id", "name", "events", "url", "active"] :=
  rfl

/-- The members of an object that describes a webhook.  The events and the mark may be missing. -/
def givenMembers (id : Int64) (name : String) (events : Option (List String)) (url : String)
    (active : Option Bool) : List (String × Document) :=
  [("id", .number (Json.writeInt id.toInt)), ("name", .string name)] ++
    (events.map fun names => ("events", Document.array (names.map .string))).toList ++
    ("url", .string url) :: (active.map fun mark => ("active", Document.bool mark)).toList

theorem grows_givenMembers (id : Int64) (name : String) (events : Option (List String))
    (url : String) (active : Option Bool) :
    shape.Grows (givenMembers id name events url active)
      (Draft.only ⟨some id, some name, events, some url, active⟩) where
  start := by simp [Draft.only, shape]
  fields := by cases events <;> cases active <;> simp [givenMembers, names_shape]
  ignores := by
    intro come key foreign
    simp only [names_shape, List.mem_cons, not_or, List.not_mem_nil] at foreign
    simp [Draft.only, foreign]
  reads := by
    intro come part isPart missing text spelled
    simp only [givenMembers, List.mem_append, List.mem_cons, List.not_mem_nil, or_false,
      Option.mem_toList] at isPart
    rcases isPart with ((rfl | rfl) | isEvents) | rfl | isMark
    · have reads : Reads Json.Reader.int64 text id := by
        cases spelled
        exact Json.reads_int64 id
      refine RecordShape.reads_field rfl ?_ ?_ reads
      · exact Json.ifCome_of_not_mem _ missing
      · simp [Draft.only]
    · refine RecordShape.reads_field rfl ?_ ?_ (Json.reads_string spelled)
      · exact Json.ifCome_of_not_mem _ missing
      · simp [Draft.only]
    · obtain ⟨names, rfl, rfl⟩ := Option.map_eq_some_iff.mp isEvents
      refine RecordShape.reads_field rfl ?_ ?_ (Json.reads_strings spelled)
      · exact Json.ifCome_of_not_mem _ missing
      · simp [Draft.only]
    · refine RecordShape.reads_field rfl ?_ ?_ (Json.reads_string spelled)
      · exact Json.ifCome_of_not_mem _ missing
      · simp [Draft.only]
    · obtain ⟨mark, rfl, rfl⟩ := Option.map_eq_some_iff.mp isMark
      refine RecordShape.reads_field rfl ?_ ?_ (Json.reads_bool spelled)
      · exact Json.ifCome_of_not_mem _ missing
      · simp [Draft.only]

/-- A webhook is read from the members that describe it, in whatever order they stand, with others
among them.  Without events it listens to none, and without a mark it is not active. -/
theorem reads_givenMembers {id : Int64} {name : String} {events : Option (List String)}
    {url : String} {active : Option Bool} {extras members : List (String × Document)}
    (foreign : ∀ extra ∈ extras, extra.1 ∉ shape.names)
    (anyOrder : members.Perm (givenMembers id name events url active ++ extras))
    {text : List Char} (spelled : Spells (.object members) text) :
    Reads reader text ⟨id, name, .ofList (events.getD []), url, active.getD false⟩ := by
  have come {part : String × Document} (isPart : part ∈ givenMembers id name events url active) :
      part.1 ∈ (members.map Prod.fst).reverse := by
    rw [List.mem_reverse, (anyOrder.map Prod.fst).mem_iff, List.map_append]
    exact List.mem_append_left _ (List.mem_map_of_mem isPart)
  have finished : Draft.only ⟨some id, some name, events, some url, active⟩
      (members.map Prod.fst).reverse = ⟨some id, some name, events, some url, active⟩ := by
    rw [Draft.only, Draft.mk.injEq]
    refine ⟨Json.ifCome_eq_self fun _ _ => ?_, Json.ifCome_eq_self fun _ _ => ?_,
      Json.ifCome_eq_self fun names isThere => ?_, Json.ifCome_eq_self fun _ _ => ?_,
      Json.ifCome_eq_self fun mark isThere => ?_⟩
    · exact come (by simp [givenMembers] : ("id", .number (Json.writeInt id.toInt)) ∈ _)
    · exact come (by simp [givenMembers] : ("name", .string name) ∈ _)
    · obtain rfl := Option.mem_def.mp isThere
      exact come (by simp [givenMembers] : ("events", .array (names.map .string)) ∈ _)
    · exact come (by simp [givenMembers] : ("url", .string url) ∈ _)
    · obtain rfl := Option.mem_def.mp isThere
      exact come (by simp [givenMembers] : ("active", .bool mark) ∈ _)
  have distinct : ((givenMembers id name events url active).map Prod.fst).Nodup := by
    cases events <;> cases active <;> simp [givenMembers]
  refine (grows_givenMembers id name events url active).reads_object distinct foreign anyOrder ?_
    spelled
  rw [finished]
  rfl

/-- The members of an object that describes a webhook in full. -/
def membersOf (id : Int64) (name : String) (events : List String) (url : String) (active : Bool) :
    List (String × Document) :=
  [("id", .number (Json.writeInt id.toInt)), ("name", .string name),
    ("events", .array (events.map .string)), ("url", .string url), ("active", .bool active)]

theorem reads_membersOf {id : Int64} {name : String} {events : List String} {url : String}
    {active : Bool} {extras members : List (String × Document)}
    (foreign : ∀ extra ∈ extras, extra.1 ∉ shape.names)
    (anyOrder : members.Perm (membersOf id name events url active ++ extras)) {text : List Char}
    (spelled : Spells (.object members) text) :
    Reads reader text ⟨id, name, .ofList events, url, active⟩ :=
  @reads_givenMembers id name (some events) url (some active) extras members foreign anyOrder text
    spelled

/-- The items of an array that describes a webhook.  The mark may be missing. -/
def givenItems (id : Int64) (name : String) (events : List String) (url : String)
    (active : Option Bool) : List Document :=
  [.number (Json.writeInt id.toInt), .string name, .array (events.map .string), .string url] ++
    (active.map Document.bool).toList

/-- A webhook is read from an array of what describes it. -/
theorem reads_givenItems {id : Int64} {name : String} {events : List String} {url : String}
    {active : Option Bool} {text : List Char}
    (spelled : Spells (.array (givenItems id name events url active)) text) :
    Reads reader text ⟨id, name, .ofList events, url, active.getD false⟩ := by
  have readsId : ∀ text, Spells (.number (Json.writeInt id.toInt)) text →
      Reads Json.Reader.int64 text id := by
    rintro text ⟨⟩
    exact Json.reads_int64 id
  have fills : RecordShape.Fills shape.fields shape.start (givenItems id name events url active)
      ⟨some id, some name, some events, some url, active⟩ := by
    refine .stored id readsId (.stored name (fun _ => Json.reads_string)
      (.stored events (fun _ => Json.reads_strings) (.stored url (fun _ => Json.reads_string) ?_)))
    cases active with
    | none => exact .missing (by decide)
    | some mark => exact .stored mark (fun _ => Json.reads_bool) (.missing (List.forall_mem_nil _))
  exact fills.reads_array (List.cons_ne_nil _ _) rfl spelled

end Webhook

namespace Server

/-! ## Echoes -/

/-- A value as it comes back: an array in any order and with repetitions, anything else as it
was. -/
inductive Restored : Json → Document → Prop where
  | same (value : Json) : Restored value value.document
  | array {items : List Json} {documents : List Document}
      (same : ∀ document, document ∈ documents ↔ document ∈ items.map Json.document) :
      Restored (.array items) (.array documents)

/-- What may come back for a body that was stored under an id: its members and the id, in any order,
with other members among them. -/
inductive Echo (id : Int64) : Json → Document → Prop where
  | object {fields : List (String × Json)} {restored extras members : List (String × Document)}
      (same : List.Forall₂ (fun field member => member.1 = field.1 ∧ Restored field.2 member.2)
        fields restored)
      (foreign : ∀ extra ∈ extras, extra.1 ∉ "id" :: fields.map Prod.fst)
      (anyOrder : members.Perm ((("id", .number (Json.writeInt id.toInt)) :: restored) ++ extras)) :
      Echo id (.object fields) (.object members)

/-- Strings that come back are the same ones. -/
theorem Restored.strings {values : List String} {document : Document}
    (restored : Restored (.strings values) document) :
    ∃ others : List String, document = .array (others.map .string) ∧
      ∀ value, value ∈ others ↔ value ∈ values := by
  have sent : (values.map Json.string).map Json.document = values.map Document.string := by
    rw [List.map_map]
    rfl
  generalize isStrings : Json.strings values = body at restored
  cases restored with
  | same =>
      refine ⟨values, ?_, fun _ => Iff.rfl⟩
      rw [← isStrings, Json.strings, Json.document, Json.documentItems_eq_map, sent]
  | @array items documents same =>
      obtain rfl : values.map Json.string = items := Json.array.inj isStrings
      rw [sent] at same
      have areStrings : documents ∈ Set.range (List.map Document.string) := by
        rw [Set.range_list_map]
        intro document member
        obtain ⟨value, _, isString⟩ := List.mem_map.mp ((same document).mp member)
        exact ⟨value, isString⟩
      obtain ⟨others, rfl⟩ := areStrings
      refine ⟨others, rfl, fun value => ?_⟩
      have sameValue := same (.string value)
      have injective : Function.Injective Document.string := fun _ _ => Document.string.inj
      rwa [List.mem_map_of_injective injective, List.mem_map_of_injective injective] at sameValue

/-- An echo of what is sent for a webhook is read as a webhook that is up to date. -/
theorem Echo.reads {name : String} {events : EventSet} {url : String} {id : Int64}
    {document : Document} (echo : Echo id (webhookBody name events url) document)
    {text : List Char} (spelled : Spells document text) :
    Reads Webhook.reader text ⟨id, name, events.names, url, true⟩ := by
  cases echo with
  | object same foreign anyOrder =>
      obtain ⟨⟨_, _⟩, _, ⟨rfl, restoredName⟩, behindName, rfl⟩ :=
        List.forall₂_cons_left_iff.mp same
      obtain ⟨⟨_, _⟩, _, ⟨rfl, restoredEvents⟩, behindEvents, rfl⟩ :=
        List.forall₂_cons_left_iff.mp behindName
      obtain ⟨⟨_, _⟩, _, ⟨rfl, restoredUrl⟩, behindUrl, rfl⟩ :=
        List.forall₂_cons_left_iff.mp behindEvents
      obtain ⟨⟨_, _⟩, _, ⟨rfl, restoredActive⟩, behindActive, rfl⟩ :=
        List.forall₂_cons_left_iff.mp behindUrl
      obtain rfl := List.forall₂_nil_left_iff.mp behindActive
      cases restoredName
      cases restoredUrl
      cases restoredActive
      obtain ⟨others, rfl, sameEvents⟩ := restoredEvents.strings
      have sameNames : NameSet.ofList others = events.names := by
        ext value
        rw [EventSet.names, NameSet.mem_toList_ofList, NameSet.mem_toList_ofList, sameEvents]
      rw [← sameNames]
      exact Webhook.reads_membersOf foreign anyOrder spelled

end Server

end WebhookSync
