import Mathlib.Data.List.Nodup
import Mathlib.Data.UInt
import WebhookSync.Proofs.Json.Drafts
import WebhookSync.Proofs.Server.Sending

/-!
# Listings in pages

A listing is asked for page by page.  It is complete when every page could be read and led on to a
later one, up to one that is the last (`Paged`); otherwise it came to a halt somewhere, and then it
yields nothing (`Stalled`).  There is no other way in which it can go (`leads_listFrom`).
-/

namespace WebhookSync.Server

open Dialogue (Leads)

/-- Where a page was asked to start, and the answer. -/
abbrev PageTurn : Type :=
  UInt32 × Except Http.Fault Http.Response

/-- The page that an answer holds. -/
def readPage : Except Http.Fault Http.Response → Except Failure Page
  | .error fault => .error (.transport fault)
  | .ok response => Client.decode Page.shape.reader response

/-- The members of a page as they stand in an answer, with those that are missing marked as such. -/
def readDraft : Except Http.Fault Http.Response → Except Failure Page.Draft
  | .error fault => .error (.transport fault)
  | .ok response => Client.decode Page.shape.drafting.reader response

/-- The page of a draft: without a mark it is the last one, and it leads on only if it says where
to. -/
def Page.Draft.finished (draft : Page.Draft) : Page :=
  ⟨draft.values.getD [], draft.isLast.getD true, draft.nextStart.getD none⟩

theorem readPage_eq_map (answer : Except Http.Fault Http.Response) :
    readPage answer = (readDraft answer).map Page.Draft.finished := by
  cases answer with
  | error fault => rfl
  | ok response =>
      unfold readPage readDraft Client.decode
      dsimp only
      have finishes (draft : Page.Draft) : Page.shape.finish draft = .ok draft.finished := rfl
      rw [Json.RecordShape.whole_reader finishes]
      split
      · cases Page.shape.drafting.reader.whole (Text.decode response.body) <;> rfl
      · rfl

/-- The answer holds the last page. -/
def IsLast (answer : Except Http.Fault Http.Response) (values : List Webhook) : Prop :=
  ∃ page, readPage answer = .ok page ∧ page.values = values ∧ page.isLast = true

/-- The answer holds a page that leads on to a later one. -/
def LeadsOn (start : UInt32) (answer : Except Http.Fault Http.Response) (values : List Webhook)
    (next : UInt32) : Prop :=
  ∃ page, readPage answer = .ok page ∧ page.values = values ∧ page.isLast = false ∧
    page.nextStart = some next ∧ start < next

/-- No page can be read from the answer, or the page is not the last one and leads to no later
one. -/
def IsStuck (start : UInt32) (answer : Except Http.Fault Http.Response) : Prop :=
  ∀ page, readPage answer = .ok page →
    page.isLast = false ∧ ∀ next, page.nextStart = some next → next ≤ start

/-- The turns take a listing from a start to its end, and these are the listed webhooks. -/
inductive Paged : UInt32 → List PageTurn → List Webhook → Prop where
  | last {start : UInt32} {answer : Except Http.Fault Http.Response} {values : List Webhook}
      (ends : IsLast answer values) : Paged start [(start, answer)] values
  | onward {start next : UInt32} {answer : Except Http.Fault Http.Response}
      {values rest : List Webhook} {turns : List PageTurn}
      (leadsOn : LeadsOn start answer values next) (onward : Paged next turns rest) :
      Paged start ((start, answer) :: turns) (values ++ rest)

/-- The turns take a listing from a start to where it cannot go on. -/
inductive Stalled : UInt32 → List PageTurn → Prop where
  | unsent (start : UInt32) : Stalled start []
  | stuck {start : UInt32} {answer : Except Http.Fault Http.Response}
      (stuck : IsStuck start answer) : Stalled start [(start, answer)]
  | onward {start next : UInt32} {answer : Except Http.Fault Http.Response}
      {values : List Webhook} {turns : List PageTurn}
      (leadsOn : LeadsOn start answer values next) (onward : Stalled next turns) :
      Stalled start ((start, answer) :: turns)

/-- An answer ends a listing, or leads it on, or halts it. -/
theorem isLast_or_leadsOn_or_isStuck (start : UInt32)
    (answer : Except Http.Fault Http.Response) :
    (∃ values, IsLast answer values) ∨ (∃ values next, LeadsOn start answer values next) ∨
      IsStuck start answer := by
  cases read : readPage answer with
  | error failure =>
      refine .inr (.inr fun page isPage => ?_)
      rw [read] at isPage
      cases isPage
  | ok page =>
      cases isLast : page.isLast with
      | true => exact .inl ⟨_, page, read, rfl, isLast⟩
      | false =>
          by_cases grows : ∃ next, page.nextStart = some next ∧ start < next
          · obtain ⟨next, leads, later⟩ := grows
            exact .inr (.inl ⟨_, next, page, read, rfl, isLast, leads, later⟩)
          · refine .inr (.inr fun other isOther => ?_)
            obtain rfl := Except.ok.inj (read.symm.trans isOther)
            refine ⟨isLast, fun next leads => ?_⟩
            rw [← UInt32.not_lt]
            exact fun later => grows ⟨next, leads, later⟩

theorem LeadsOn.not_isStuck {start next : UInt32} {answer : Except Http.Fault Http.Response}
    {values : List Webhook} (leadsOn : LeadsOn start answer values next) :
    ¬IsStuck start answer := by
  intro stuck
  obtain ⟨page, read, _, _, leads, later⟩ := leadsOn
  exact UInt32.not_lt.mpr ((stuck page read).2 next leads) later

theorem IsLast.not_isStuck {start : UInt32} {answer : Except Http.Fault Http.Response}
    {values : List Webhook} (ends : IsLast answer values) : ¬IsStuck start answer := by
  intro stuck
  obtain ⟨page, read, _, isLast⟩ := ends
  rw [(stuck page read).1] at isLast
  cases isLast

/-- A complete listing has come to a halt nowhere. -/
theorem Paged.not_isStuck {start : UInt32} {turns : List PageTurn} {hooks : List Webhook}
    (paged : Paged start turns hooks) : ∀ turn ∈ turns, ¬IsStuck turn.1 turn.2 := by
  induction paged with
  | last ends => exact List.forall_mem_singleton.mpr ends.not_isStuck
  | onward leadsOn onward ih => exact List.forall_mem_cons.mpr ⟨leadsOn.not_isStuck, ih⟩

/-- The turns of a complete listing have brought pages, of which the last one is marked so, and the
listed webhooks are those of the pages. -/
theorem Paged.exists_pages {start : UInt32} {turns : List PageTurn} {hooks : List Webhook}
    (paged : Paged start turns hooks) :
    ∃ pages : List Page, turns.map (fun turn => readPage turn.2) = pages.map .ok ∧
      pages.getLast?.map Page.isLast = some true ∧ pages.flatMap Page.values = hooks := by
  induction paged with
  | last ends =>
      obtain ⟨page, read, rfl, isLast⟩ := ends
      exact ⟨[page], by simp [read], by simp [isLast], by simp⟩
  | onward leadsOn onward ih =>
      obtain ⟨page, read, rfl, _⟩ := leadsOn
      obtain ⟨pages, areRead, isLast, rfl⟩ := ih
      obtain ⟨last, isThere, _⟩ := Option.map_eq_some_iff.mp isLast
      refine ⟨page :: pages, by simp [read, areRead], ?_, List.flatMap_cons⟩
      rw [List.getLast?_cons, isThere]
      simpa [isThere] using isLast

/-! ## Starts -/

/-- The starts only grow. -/
def Ascending (start : UInt32) (turns : List PageTurn) : Prop :=
  (turns.map Prod.fst).Pairwise (· < ·) ∧ (turns = [] ∨ (turns.map Prod.fst).head? = some start)

theorem Ascending.cons {start next : UInt32} {answer : Except Http.Fault Http.Response}
    {turns : List PageTurn} (later : start < next) (ascending : Ascending next turns) :
    Ascending start ((start, answer) :: turns) := by
  obtain ⟨increasing, begins⟩ := ascending
  refine ⟨List.pairwise_cons.mpr ⟨fun other member => ?_, increasing⟩, .inr rfl⟩
  rcases begins with rfl | first
  · exact absurd member List.not_mem_nil
  · obtain ⟨rest, split⟩ := List.head?_eq_some_iff.mp first
    rw [split] at member increasing
    rcases List.mem_cons.mp member with rfl | behind
    · exact later
    · exact UInt32.lt_trans later ((List.pairwise_cons.mp increasing).1 other behind)

theorem Paged.ascending {start : UInt32} {turns : List PageTurn} {hooks : List Webhook}
    (paged : Paged start turns hooks) : Ascending start turns := by
  induction paged with
  | last ends => exact ⟨List.pairwise_singleton _ _, .inr rfl⟩
  | onward leadsOn onward ih =>
      obtain ⟨_, _, _, _, _, later⟩ := leadsOn
      exact ih.cons later

theorem Stalled.ascending {start : UInt32} {turns : List PageTurn}
    (stalled : Stalled start turns) : Ascending start turns := by
  induction stalled with
  | unsent start => exact ⟨.nil, .inl rfl⟩
  | stuck stuck => exact ⟨List.pairwise_singleton _ _, .inr rfl⟩
  | onward leadsOn onward ih =>
      obtain ⟨_, _, _, _, _, later⟩ := leadsOn
      exact ih.cons later

/-- There are no more turns than there are starts. -/
theorem Ascending.length_le {start : UInt32} {turns : List PageTurn}
    (ascending : Ascending start turns) : turns.length ≤ 2 ^ 32 := by
  have distinct : (turns.map fun turn => turn.1.toNat).Nodup := by
    have increasing := ascending.1
    rw [List.pairwise_map] at increasing
    exact List.Pairwise.map _ (fun _ _ less => Nat.ne_of_lt (UInt32.lt_iff_toNat_lt.mp less))
      increasing
  have bounded : (turns.map fun turn => turn.1.toNat) ⊆ List.range (2 ^ 32) := by
    intro start member
    obtain ⟨turn, _, rfl⟩ := List.mem_map.mp member
    exact List.mem_range.mpr turn.1.toNat_lt
  simpa only [List.length_map, List.length_range] using
    (List.subperm_of_subset distinct bounded).length_le

namespace Client

variable {client : Client} {repository : Repository} {filter : List Event}

/-- The exchange of a turn. -/
def pageExchange (client : Client) (repository : Repository) (filter : List Event)
    (turn : PageTurn) : Exchange :=
  ⟨client.pageRequest repository filter turn.1, turn.2⟩

/-- The entry of a turn. -/
def pageEntry (client : Client) (repository : Repository) (filter : List Event)
    (turn : PageTurn) : Entry :=
  ⟨.page, client.pageExchange repository filter turn⟩

theorem isMet_pageEntry (turn : PageTurn) :
    (client.pageEntry repository filter turn).isMet = (readPage turn.2).isOk := by
  obtain ⟨start, answer⟩ := turn
  cases answer <;> rfl

theorem isMet_pageEntry_of_read {start : UInt32} {answer : Except Http.Fault Http.Response}
    {page : Page} (read : readPage answer = .ok page) :
    (client.pageEntry repository filter (start, answer)).isMet = true := by
  rw [isMet_pageEntry, read]
  rfl

theorem isMet_of_paged {start : UInt32} {turns : List PageTurn} {hooks : List Webhook}
    (paged : Paged start turns hooks) :
    ∀ turn ∈ turns, (client.pageEntry repository filter turn).isMet = true := by
  induction paged with
  | last ends =>
      obtain ⟨page, read, _⟩ := ends
      exact List.forall_mem_singleton.mpr (isMet_pageEntry_of_read read)
  | onward leadsOn onward ih =>
      obtain ⟨page, read, _⟩ := leadsOn
      exact List.forall_mem_cons.mpr ⟨isMet_pageEntry_of_read read, ih⟩

/-- Only the last page of a stalled listing can be unreadable. -/
theorem isMet_of_stalled {start : UInt32} {turns : List PageTurn} (stalled : Stalled start turns) :
    ∀ turn ∈ turns.dropLast, (client.pageEntry repository filter turn).isMet = true := by
  induction stalled with
  | unsent start => exact List.forall_mem_nil _
  | stuck stuck => exact List.forall_mem_nil _
  | @onward start next answer values turns leadsOn onward ih =>
      obtain ⟨page, read, _⟩ := leadsOn
      cases turns with
      | nil => exact List.forall_mem_nil _
      | cons second rest => exact List.forall_mem_cons.mpr ⟨isMet_pageEntry_of_read read, ih⟩

/-! ## The way of a listing -/

/-- How a listing goes on behind a page, or what was read in its place. -/
def afterPage (client : Client) (repository : Repository) (filter : List Event) (start : UInt32)
    (before : List Webhook) : Except Failure Page → Session (Except Failure (List Webhook))
  | .error failure => .done (.error failure)
  | .ok page =>
      if page.isLast then .done (.ok (before ++ page.values))
      else
        match page.nextStart with
        | none => .done (.error (.brokenPages start none))
        | some next =>
            if start < next then client.listFrom repository filter next (before ++ page.values)
            else .done (.error (.brokenPages start (some next)))

section AfterPage

variable {start : UInt32} {answer : Except Http.Fault Http.Response} {values : List Webhook}
  (before : List Webhook)

theorem afterPage_of_isLast (ends : IsLast answer values) :
    client.afterPage repository filter start before (readPage answer) =
      .done (.ok (before ++ values)) := by
  obtain ⟨page, read, rfl, isLast⟩ := ends
  rw [read, afterPage, if_pos isLast]

theorem afterPage_of_leadsOn {next : UInt32} (leadsOn : LeadsOn start answer values next) :
    client.afterPage repository filter start before (readPage answer) =
      client.listFrom repository filter next (before ++ values) := by
  obtain ⟨page, read, rfl, isLast, begins, later⟩ := leadsOn
  rw [read, afterPage, if_neg (by simp [isLast]), begins]
  exact if_pos later

theorem afterPage_of_isStuck (client : Client) (repository : Repository) (filter : List Event)
    (before : List Webhook) (stuck : IsStuck start answer) :
    ∃ failure, client.afterPage repository filter start before (readPage answer) =
      .done (.error failure) := by
  cases read : readPage answer with
  | error failure => exact ⟨failure, rfl⟩
  | ok page =>
      obtain ⟨isLast, halts⟩ := stuck page read
      rw [afterPage, if_neg (by simp [isLast])]
      cases begins : page.nextStart with
      | none => exact ⟨_, rfl⟩
      | some next => exact ⟨_, if_neg (UInt32.not_lt.mpr (halts next begins))⟩

end AfterPage

/-- A listing asks for a page and goes on with what was read. -/
theorem listFrom_of_canSend (canSend : client.CanSend client.base) (start : UInt32)
    (before : List Webhook) :
    client.listFrom repository filter start before =
      .ask (client.pageRequest repository filter start) fun answer =>
        client.afterPage repository filter start before (readPage answer) := by
  have canSendPage : client.CanSend (client.pageUrl repository filter start) := canSend.congr rfl
  rw [listFrom, send_of_canSend canSendPage]
  refine congrArg (Dialogue.ask _) (funext fun answer => ?_)
  cases answer <;> rfl

theorem listFrom_of_not_canSend (repository : Repository) (filter : List Event)
    (cannotSend : ¬client.CanSend client.base) (start : UInt32) (before : List Webhook) :
    ∃ failure, client.listFrom repository filter start before = .done (.error failure) := by
  have cannotSendPage : ¬client.CanSend (client.pageUrl repository filter start) :=
    fun canSend => cannotSend (canSend.congr rfl)
  rw [listFrom]
  obtain ⟨cause, unsent⟩ := send_of_not_canSend cannotSendPage
  exact ⟨_, unsent⟩

/-- A listing is complete and yields the webhooks of its pages, or it halts and yields none. -/
theorem leads_listFrom {start : UInt32} {before : List Webhook} {exchanges : List Exchange}
    {result : Except Failure (List Webhook)}
    (leads : Leads (client.listFrom repository filter start before) exchanges result) :
    ∃ turns, exchanges = turns.map (client.pageExchange repository filter) ∧
      ((∃ hooks, Paged start turns hooks ∧ result = .ok (before ++ hooks)) ∨
        Stalled start turns ∧ ∃ failure, result = .error failure) := by
  by_cases canSend : client.CanSend client.base
  · induction exchanges generalizing start before with
    | nil =>
        rw [listFrom_of_canSend canSend] at leads
        cases leads
    | cons exchange rest ih =>
        rw [listFrom_of_canSend canSend] at leads
        obtain ⟨answer, others, same, onward⟩ := Dialogue.leads_ask_iff.mp leads
        obtain ⟨rfl, rfl⟩ := List.cons.inj same
        rcases isLast_or_leadsOn_or_isStuck start answer with
          ⟨values, ends⟩ | ⟨values, next, leadsOn⟩ | stuck
        · rw [afterPage_of_isLast before ends] at onward
          obtain ⟨rfl, rfl⟩ := Dialogue.leads_done_iff.mp onward
          exact ⟨[(start, answer)], rfl, .inl ⟨values, .last ends, rfl⟩⟩
        · rw [afterPage_of_leadsOn before leadsOn] at onward
          obtain ⟨turns, rfl, ⟨hooks, paged, rfl⟩ | ⟨stalled, fails⟩⟩ := ih onward
          · refine ⟨(start, answer) :: turns, rfl, .inl ⟨_, .onward leadsOn paged, ?_⟩⟩
            rw [List.append_assoc]
          · exact ⟨(start, answer) :: turns, rfl, .inr ⟨.onward leadsOn stalled, fails⟩⟩
        · obtain ⟨failure, fails⟩ :=
            afterPage_of_isStuck client repository filter before stuck
          rw [fails] at onward
          obtain ⟨rfl, rfl⟩ := Dialogue.leads_done_iff.mp onward
          exact ⟨[(start, answer)], rfl, .inr ⟨.stuck stuck, failure, rfl⟩⟩
  · obtain ⟨failure, fails⟩ := listFrom_of_not_canSend repository filter canSend start before
    rw [fails] at leads
    obtain ⟨rfl, rfl⟩ := Dialogue.leads_done_iff.mp leads
    exact ⟨[], rfl, .inr ⟨.unsent start, failure, rfl⟩⟩

/-- Where requests can be sent, the client can have any complete listing. -/
theorem leads_of_paged (repository : Repository) (filter : List Event)
    (canSend : client.CanSend client.base) {start : UInt32} {turns : List PageTurn}
    {hooks : List Webhook} (paged : Paged start turns hooks) (before : List Webhook) :
    Leads (client.listFrom repository filter start before)
      (turns.map (client.pageExchange repository filter)) (.ok (before ++ hooks)) := by
  induction paged generalizing before with
  | last ends =>
      rw [listFrom_of_canSend canSend]
      refine .ask ?_
      rw [afterPage_of_isLast before ends]
      exact .done _
  | onward leadsOn onward ih =>
      rw [listFrom_of_canSend canSend, ← List.append_assoc]
      refine .ask ?_
      rw [afterPage_of_leadsOn before leadsOn]
      exact ih _

end Client

end WebhookSync.Server
