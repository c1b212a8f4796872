import WebhookSync.Proofs.Server.Echo
import WebhookSync.Proofs.Server.Offering
import WebhookSync.Proofs.Text.Utf8

/-!
# Listings in structured text

A server shows a listing as the text of one document a page.  The values of a page are documents
themselves, each of which stands for a webhook; the marks of the page say whether it is the last one
and where the next one starts.  A listing that is shown in this way is offered (`Displays.cut`).
-/

namespace WebhookSync.Server

open Json (Document Reads RecordShape Spells SpellsWhole)

/-! ## Pages -/

namespace Page

/-- The draft when only these members have come. -/
def Draft.only (draft : Draft) (come : List String) : Draft where
  values := Json.ifCome come "values" draft.values
  isLast := Json.ifCome come "isLastPage" draft.isLast
  nextStart := Json.ifCome come "nextPageStart" draft.nextStart

/-- Where the next page starts, or that there is none. -/
def placeOf : Option UInt32 → Document
  | none => .null
  | some start => .number (Json.writeInt start.toNat)

/-- The members of an object that describes a page. -/
def membersOf (documents : Option (List Document)) (isLast : Option Bool)
    (next : Option (Option UInt32)) : List (String × Document) :=
  documents.toList.map (("values", .array ·)) ++ isLast.toList.map (("isLastPage", .bool ·)) ++
    next.toList.map (("nextPageStart", placeOf ·))

end Page

/-- Wherever the document is written, it is read as the webhook. -/
def StandsFor (document : Document) (hook : Webhook) : Prop :=
  ∀ text, Spells document text → Reads Webhook.reader text hook

/-- A list of webhooks is read from an array of documents that stand for them. -/
theorem reads_webhooks {documents : List Document} {hooks : List Webhook}
    (stand : List.Forall₂ StandsFor documents hooks) {text : List Char}
    (spelled : Spells (.array documents) text) :
    Reads (Json.Reader.list Webhook.reader) text hooks := by
  cases spelled with
  | array series => exact Json.reads_list series stand fun _ _ _ spelled => spelled.starts

namespace Page

theorem names_drafting : shape.drafting.names = ["values", "isLastPage", "nextPageStart"] :=
  rfl

theorem reads_placeOf {next : Option UInt32} {text : List Char}
    (spelled : Spells (placeOf next) text) :
    Reads (Json.Reader.optional Json.Reader.uint32) text next := by
  cases next with
  | none =>
      cases spelled
      exact Json.reads_none _
  | some start =>
      have starts := spelled.starts
      cases spelled
      refine (Json.reads_uint32 start).optional starts ?_
      obtain ⟨c, more, isText, isFirst⟩ := Json.starts_writeInt start.toNat
      rw [isText]
      rintro ⟨⟩
      cases isFirst

theorem grows_membersOf {documents : Option (List Document)} {hooks : List Webhook}
    (stand : List.Forall₂ StandsFor (documents.getD []) hooks) (isLast : Option Bool)
    (next : Option (Option UInt32)) :
    shape.drafting.Grows (membersOf documents isLast next)
      (Draft.only ⟨documents.map fun _ => hooks, isLast, next⟩) where
  start := by simp [Draft.only, shape, RecordShape.drafting]
  fields := by
    cases documents <;> cases isLast <;> cases next <;> simp [membersOf, names_drafting]
  ignores := by
    intro come key foreign
    simp only [names_drafting, List.mem_cons, not_or, List.not_mem_nil] at foreign
    simp [Draft.only, foreign]
  reads := by
    intro come part isPart missing text spelled
    simp only [membersOf, List.mem_append, List.mem_map, Option.mem_toList] at isPart
    rcases isPart with (⟨documents, rfl, rfl⟩ | ⟨mark, rfl, rfl⟩) | ⟨place, rfl, rfl⟩
    · refine RecordShape.reads_field rfl ?_ ?_ (reads_webhooks stand spelled)
      · exact Json.ifCome_of_not_mem _ missing
      · simp [Draft.only]
    · refine RecordShape.reads_field rfl ?_ ?_ (Json.reads_bool spelled)
      · exact Json.ifCome_of_not_mem _ missing
      · simp [Draft.only]
    · refine RecordShape.reads_field rfl ?_ ?_ (reads_placeOf spelled)
      · exact Json.ifCome_of_not_mem _ missing
      · simp [Draft.only]

/-- A page is read from the members that describe it, in whatever order they stand, with others
among them. -/
theorem reads_membersOf {documents : Option (List Document)} {hooks : List Webhook}
    (stand : List.Forall₂ StandsFor (documents.getD []) hooks) {isLast : Option Bool}
    {next : Option (Option UInt32)} {extras members : List (String × Document)}
    (foreign : ∀ extra ∈ extras, extra.1 ∉ shape.names)
    (anyOrder : members.Perm (membersOf documents isLast next ++ extras)) {text : List Char}
    (spelled : Spells (.object members) text) :
    Reads shape.drafting.reader text ⟨documents.map fun _ => hooks, isLast, next⟩ := by
  have come {part : String × Document} (isPart : part ∈ membersOf documents isLast next) :
      part.1 ∈ (members.map Prod.fst).reverse := by
    rw [List.mem_reverse, (anyOrder.map Prod.fst).mem_iff, List.map_append]
    exact List.mem_append_left _ (List.mem_map_of_mem isPart)
  have finished : Draft.only ⟨documents.map fun _ => hooks, isLast, next⟩
      (members.map Prod.fst).reverse = ⟨documents.map fun _ => hooks, isLast, next⟩ := by
    rw [Draft.only, Draft.mk.injEq]
    refine ⟨Json.ifCome_eq_self fun _ isThere => ?_, Json.ifCome_eq_self fun mark isThere => ?_,
      Json.ifCome_eq_self fun place isThere => ?_⟩
    · obtain ⟨shown, rfl, _⟩ := Option.map_eq_some_iff.mp isThere
      exact come (by simp [membersOf] : ("values", .array shown) ∈ _)
    · obtain rfl := Option.mem_def.mp isThere
      exact come (by simp [membersOf] : ("isLastPage", .bool mark) ∈ _)
    · obtain rfl := Option.mem_def.mp isThere
      exact come (by simp [membersOf] : ("nextPageStart", placeOf place) ∈ _)
  have distinct : ((membersOf documents isLast next).map Prod.fst).Nodup := by
    cases documents <;> cases isLast <;> cases next <;> simp [membersOf]
  refine (grows_membersOf stand isLast next).reads_object distinct foreign anyOrder ?_ spelled
  rw [finished]
  rfl

end Page

/-- The document describes a page with these values and marks; other members may stand among
them. -/
inductive PageDocument (documents : Option (List Document)) (isLast : Option Bool)
    (next : Option (Option UInt32)) : Document → Prop where
  | object {extras members : List (String × Document)}
      (foreign : ∀ extra ∈ extras, extra.1 ∉ Page.shape.names)
      (anyOrder : members.Perm (Page.membersOf documents isLast next ++ extras)) :
      PageDocument documents isLast next (.object members)

/-- The answer is one of success, and its body is the text of the document. -/
inductive Shows (document : Document) : Except Http.Fault Http.Response → Prop where
  | text {status : Nat} {text : String} (least : 200 ≤ status) (greatest : status < 300)
      (spelled : SpellsWhole document text) :
      Shows document (.ok ⟨status, text.toUTF8.data.toList⟩)

/-- A page that is shown is read, if its values stand for webhooks. -/
theorem Shows.readDraft {document : Document} {answer : Except Http.Fault Http.Response}
    (shows : Shows document answer) {documents : Option (List Document)} {isLast : Option Bool}
    {next : Option (Option UInt32)} (page : PageDocument documents isLast next document)
    {hooks : List Webhook} (stand : List.Forall₂ StandsFor (documents.getD []) hooks) :
    Server.readDraft answer = .ok ⟨documents.map fun _ => hooks, isLast, next⟩ := by
  cases shows with
  | @text status text least greatest spelled =>
      cases page with
      | object foreign anyOrder =>
          have isSuccess : Http.Response.isSuccess ⟨status, text.toUTF8.data.toList⟩ = true := by
            simp [Http.Response.isSuccess, least, greatest]
          have isRead := spelled.whole fun _ spelled =>
            Page.reads_membersOf stand foreign anyOrder spelled
          rw [Server.readDraft, Client.decode, if_pos isSuccess, Text.decode_toUTF8, isRead]
          rfl

/-! ## Listings -/

/-- The answers show these documents from a start on: each page shows some, and each but the last
one tells where the next one starts. -/
inductive Displays (answer : UInt32 → Except Http.Fault Http.Response) :
    UInt32 → List Document → Prop where
  | last {start : UInt32} {documents : Option (List Document)} {isLast : Option Bool}
      {next : Option (Option UInt32)} {document : Document}
      (page : PageDocument documents isLast next document) (ends : isLast ≠ some false)
      (shows : Shows document (answer start)) : Displays answer start (documents.getD [])
  | onward {start next : UInt32} {documents : Option (List Document)} {others : List Document}
      {document : Document}
      (page : PageDocument documents (some false) (some (some next)) document)
      (shows : Shows document (answer start)) (later : start < next)
      (onward : Displays answer next others) :
      Displays answer start (documents.getD [] ++ others)

/-- What is not shown at all stands for nothing. -/
theorem getD_map_of_stand {documents : Option (List Document)} {hooks : List Webhook}
    (stand : List.Forall₂ StandsFor (documents.getD []) hooks) :
    (documents.map fun _ => hooks).getD [] = hooks := by
  cases documents with
  | none => exact (List.forall₂_nil_left_iff.mp stand).symm
  | some documents => rfl

/-- A listing that is shown is cut into the webhooks that its documents stand for. -/
theorem Displays.cut {answer : UInt32 → Except Http.Fault Http.Response} {start : UInt32}
    {documents : List Document} (displays : Displays answer start documents)
    {hooks : List Webhook} (stand : List.Forall₂ StandsFor documents hooks) :
    ∃ pages, Cut answer start pages ∧ pages.flatMap Prod.snd = hooks := by
  induction displays generalizing hooks with
  | @last start documents isLast next document page ends shows =>
      have marked : isLast = some true ∨ isLast = none := by
        rcases isLast with _ | _ | _
        · exact .inr rfl
        · exact absurd rfl ends
        · exact .inl rfl
      have closes : ClosesWith (answer start) hooks :=
        ⟨_, shows.readDraft page stand, getD_map_of_stand stand, marked⟩
      exact ⟨[(start, hooks)], .last closes, List.append_nil _⟩
  | @onward start next documents others document page shows later _ ih =>
      -- The webhooks are split where the documents of this page end.
      have isSplit := List.take_append_drop (documents.getD []).length hooks
      have standFirst := (List.forall₂_take_append _ _ _ stand.flip).flip
      have standOthers := (List.forall₂_drop_append _ _ _ stand.flip).flip
      obtain ⟨pages, cut, sameOthers⟩ := ih standOthers
      have continues : ContinuesAt (answer start) (hooks.take (documents.getD []).length) next :=
        ⟨_, shows.readDraft page standFirst, getD_map_of_stand standFirst, rfl, rfl⟩
      refine ⟨(start, hooks.take (documents.getD []).length) :: pages,
        .onward continues later cut, ?_⟩
      rw [List.flatMap_cons, sameOthers, isSplit]

end WebhookSync.Server
