import WebhookSync.Proofs.Gateway.Race
import WebhookSync.Proofs.Reconcile.Agreement
import WebhookSync.Proofs.Reconcile.Anchorage
import WebhookSync.Proofs.Reconcile.Course

/-!
# Reconciliations of one subscription side by side

Any number of reconciliations of one subscription race with each other.  Each of them acts on a
listing that may be out of date, but one thing in it is not: which webhook to keep.  As long as
there is none, every run that has listed the webhooks is about to create one (`Bare`).  From the
first creation on, or from the beginning, all runs keep the same webhook, and they delete only
others, which are there or were deleted by another run (`Peers`).  One of the two holds behind
every schedule (`bare_or_peers_play`).
-/

namespace WebhookSync.Reconcile

open Gateway (Call Exchange Race Session Store forall_mem_append_singleton)

section Definitions

variable {ι : Type} (wanted : Subscription) (kind shape : Shape) (id : Int64)
  (race : Race ι (Except Failure (Option Webhook)))

/-- Another run has deleted the webhook of an id. -/
def DeletedByAnother (history : List (Exchange ι)) (run : ι) (gone : Int64) : Prop :=
  ∃ other, other ≠ run ∧ ⟨other, .delete wanted.repository gone, .ok ()⟩ ∈ history

/-- What a run has still to delete: not the webhook of the id, each other webhook once, and if one
is missing, another run was faster. -/
structure Leftover (run : ι) (others : List Webhook) : Prop where
  distinct : (others.map Webhook.id).Nodup
  spared : ∀ hook ∈ others, hook.id ≠ id
  accounted : ∀ hook ∈ others,
    hook.id ∈ (race.store.webhooks wanted.repository).map Webhook.id ∨
      DeletedByAnother wanted race.history run hook.id

/-- How far a run has come where all keep the webhook of the id. -/
inductive Peer (run : ι) : Session (Except Failure (Option Webhook)) → Prop where
  | opening {questions : Nat} {session : Session (Except Failure (Option Webhook))}
      (opening : Opening wanted kind race.store.capabilities questions session) : Peer run session
  /-- there was no webhook to keep when the run listed them, but now there is one -/
  | creating (same : shape = kind)
      (firm : Firm wanted kind shape id (race.store.webhooks wanted.repository)) :
      Peer run (creation wanted kind)
  | rewriting {others : List Webhook} (leftover : Leftover wanted id race run others) :
      Peer run (rewriting wanted shape id others)
  | deleting {kept : Webhook} {others : List Webhook} (same : kept.id = id)
      (firm : Firm wanted kind shape id (race.store.webhooks wanted.repository))
      (leftover : Leftover wanted id race run others) :
      Peer run (deleteAll wanted.repository (some kept) others)
  | created {created : Webhook}
      (firm : Firm wanted kind shape id (race.store.webhooks wanted.repository))
      (made : ⟨run, .create wanted.repository wanted.name kind.events wanted.callbackUrl,
        .ok created⟩ ∈ race.history) :
      Peer run (.done (.ok (some created)))
  /-- another run was faster in deleting a webhook -/
  | missed {other : ι} {gone : Int64} (different : other ≠ run)
      (order : List.Sublist [⟨other, .delete wanted.repository gone, .ok ()⟩,
        ⟨run, .delete wanted.repository gone, .error (Store.noSuchWebhook gone)⟩] race.history) :
      Peer run (.done (.error (Store.noSuchWebhook gone)))

/-- The call has to do with the webhook of the id as it should: if a webhook to keep is listed, it
is that one; no other is rewritten, and that one is not deleted. -/
def Abides : Exchange ι → Prop
  | ⟨_, .list _ _, .ok hooks⟩ =>
      ∀ anchor, anchor? wanted (choose wanted kind hooks) hooks = some anchor → anchor.id = id
  | ⟨_, .update _ rewritten _ _ _, _⟩ => rewritten = id
  | ⟨_, .delete _ gone, _⟩ => gone ≠ id
  | _ => True

/-- All runs keep the webhook of the id. -/
structure Peers : Prop where
  sound : race.Sound wanted.repository
  anchored : Anchored wanted kind shape id (race.store.webhooks wanted.repository)
  peer : ∀ run, Peer wanted kind shape id race run (race.sessions run)
  past : ∀ exchange ∈ race.history, Abides wanted kind id exchange

/-- There is no webhook to keep yet. -/
structure Bare : Prop where
  sound : race.Sound wanted.repository
  nothing : anchor? wanted (choose wanted kind (race.store.webhooks wanted.repository))
    (race.store.webhooks wanted.repository) = none
  peer : ∀ run,
    (∃ questions, Opening wanted kind race.store.capabilities questions (race.sessions run)) ∨
      race.sessions run = creation wanted kind
  past : ∀ exchange ∈ race.history, ∀ id, Abides wanted kind id exchange

end Definitions

variable {ι : Type} {wanted : Subscription} {kind shape : Shape} {id : Int64}
  {race before after : Race ι (Except Failure (Option Webhook))} {run : ι}

/-! ## What the other runs are left with -/

theorem DeletedByAnother.later {gone : Int64}
    (deleted : DeletedByAnother wanted before.history run gone)
    (grown : before.history <+: after.history) :
    DeletedByAnother wanted after.history run gone := by
  obtain ⟨other, different, member⟩ := deleted
  exact ⟨other, different, grown.subset member⟩

/-- What a run has still to delete stays accounted for, if nothing but what another run deletes goes
missing. -/
theorem Leftover.later {others : List Webhook} (leftover : Leftover wanted id before run others)
    (grown : before.history <+: after.history)
    (accounted : ∀ gone ∈ (before.store.webhooks wanted.repository).map Webhook.id,
      gone ∈ (after.store.webhooks wanted.repository).map Webhook.id ∨
        DeletedByAnother wanted after.history run gone) :
    Leftover wanted id after run others := by
  refine ⟨leftover.distinct, leftover.spared, fun hook member => ?_⟩
  rcases leftover.accounted hook member with present | deleted
  · exact accounted hook.id present
  · exact .inr (deleted.later grown)

/-- A run is left where it is by what other runs do. -/
theorem Peer.later {session : Session (Except Failure (Option Webhook))}
    (peer : Peer wanted kind shape id before run session)
    (sameCapabilities : after.store.capabilities = before.store.capabilities)
    (stillFirm : Firm wanted kind shape id (before.store.webhooks wanted.repository) →
      Firm wanted kind shape id (after.store.webhooks wanted.repository))
    (grown : before.history <+: after.history)
    (accounted : ∀ gone ∈ (before.store.webhooks wanted.repository).map Webhook.id,
      gone ∈ (after.store.webhooks wanted.repository).map Webhook.id ∨
        DeletedByAnother wanted after.history run gone) :
    Peer wanted kind shape id after run session := by
  cases peer with
  | opening opening =>
      rw [← sameCapabilities] at opening
      exact .opening opening
  | creating same firm => exact .creating same (stillFirm firm)
  | rewriting leftover => exact .rewriting (leftover.later grown accounted)
  | deleting same firm leftover =>
      exact .deleting same (stillFirm firm) (leftover.later grown accounted)
  | created firm made => exact .created (stillFirm firm) (grown.subset made)
  | missed different order => exact .missed different (order.trans grown.sublist)

variable [DecidableEq ι]

/-- What is to be shown of a turn where all runs keep the same webhook. -/
structure Onward (wanted : Subscription) (kind shape : Shape) (id : Int64)
    (race : Race ι (Except Failure (Option Webhook))) (run : ι) : Prop where
  anchored : Anchored wanted kind shape id ((race.turn run).store.webhooks wanted.repository)
  stillFirm : Firm wanted kind shape id (race.store.webhooks wanted.repository) →
    Firm wanted kind shape id ((race.turn run).store.webhooks wanted.repository)
  accounted : ∀ other, other ≠ run →
    ∀ gone ∈ (race.store.webhooks wanted.repository).map Webhook.id,
      gone ∈ ((race.turn run).store.webhooks wanted.repository).map Webhook.id ∨
        DeletedByAnother wanted (race.turn run).history other gone
  peer : Peer wanted kind shape id (race.turn run) run ((race.turn run).sessions run)
  past : ∀ exchange ∈ (race.turn run).history, Abides wanted kind id exchange

theorem Peers.of_onward (peers : Peers wanted kind shape id race) (room : race.HasRoomAt run)
    (onward : Onward wanted kind shape id race run) :
    Peers wanted kind shape id (race.turn run) := by
  refine ⟨peers.sound.turn room, onward.anchored, fun other => ?_, onward.past⟩
  by_cases same : other = run
  · subst same
    exact onward.peer
  · rw [Race.sessions_turn_of_ne same]
    exact (peers.peer other).later (Race.capabilities_turn peers.sound.calm) onward.stillFirm
      Race.history_turn (onward.accounted other same)

/-! ## Turns where all runs keep the same webhook -/

section Turn

variable (peers : Peers wanted kind shape id race)

include peers

/-- A turn that leaves the webhooks alone changes nothing for the other runs. -/
theorem Peers.onward_of_same {call : Call}
    {next : Gateway.Answer call → Session (Except Failure (Option Webhook))}
    (asks : race.sessions run = .ask call next)
    (same : (race.store.perform call).2 = race.store)
    (peer : Peer wanted kind shape id (race.turn run) run (next (race.store.perform call).1))
    (abides : Abides wanted kind id ⟨run, call, (race.store.perform call).1⟩) :
    Onward wanted kind shape id race run := by
  have turned := Race.turn_of_ask peers.sound.calm asks
  rw [same] at turned
  rw [turned] at peer
  constructor <;> rw [turned]
  · exact peers.anchored
  · exact fun firm => firm
  · exact fun _ _ gone present => .inl present
  · simpa only [Function.update_self] using peer
  · exact forall_mem_append_singleton peers.past abides

/-- Behind the listing a run knows which webhook to keep. -/
theorem Peers.onward_opening {questions : Nat}
    (opening : Opening wanted kind race.store.capabilities questions (race.sessions run)) :
    Onward wanted kind shape id race run := by
  obtain ⟨call, next, asks⟩ := opening.asks
  rw [asks] at opening
  rcases opening.answered with ⟨_, rfl, listing⟩ | ⟨_, rfl, settles⟩
  · refine peers.onward_of_same asks (Store.perform_of_not_isMutation _ rfl) ?_ trivial
    rw [listing]
    exact .opening .listing
  · refine peers.onward_of_same asks rfl ?_ ?_
    · rw [settles, Race.turn_of_ask peers.sound.calm asks]
      obtain ⟨rfl, anchor, found, rfl⟩ := peers.anchored
      have listed : (others wanted (choose wanted kind (race.store.webhooks wanted.repository))
          anchor (race.store.webhooks wanted.repository)).Sublist
            (race.store.webhooks wanted.repository) :=
        List.filter_sublist.trans (gathered_sublist _ _ _)
      have leftover (other : Race ι (Except Failure (Option Webhook)))
          (same : other.store.webhooks = race.store.webhooks) :
          Leftover wanted anchor.id other run
            (others wanted (choose wanted kind (race.store.webhooks wanted.repository))
              anchor (race.store.webhooks wanted.repository)) := by
        refine ⟨peers.sound.numbered.distinct.sublist (listed.map _),
          fun hook member => (mem_others.mp member).2, fun hook member => ?_⟩
        rw [same]
        exact .inl (List.mem_map_of_mem (listed.subset member))
      cases fit : fits wanted (choose wanted kind (race.store.webhooks wanted.repository))
          anchor with
      | true =>
          rw [settle_of_fit found fit]
          exact .deleting rfl ⟨rfl, anchor, find?_fits_of_fit found fit, rfl⟩ (leftover _ rfl)
      | false =>
          rw [settle_of_unfit found fit]
          exact .rewriting (leftover _ rfl)
    · intro anchor found
      rw [anchor?_listed] at found
      obtain ⟨rfl, anchor', found', rfl⟩ := peers.anchored
      rw [found] at found'
      rw [Option.some.inj found']

/-- A webhook that is created late stands behind the one to keep. -/
theorem Peers.onward_creating (same : shape = kind)
    (firm : Firm wanted kind shape id (race.store.webhooks wanted.repository))
    (asks : race.sessions run = creation wanted kind) :
    Onward wanted kind shape id race run := by
  subst same
  have turned := Race.turn_of_reply peers.sound.calm asks rfl
  have webhooks := webhooks_create race.store wanted shape
  have stillFirm := firm.create race.store.nextId
  rw [← webhooks] at stillFirm
  constructor <;> rw [turned]
  · exact stillFirm.anchored
  · exact fun _ => stillFirm
  · intro _ _ gone present
    have stays : gone ∈ ((race.store.perform (.create wanted.repository wanted.name shape.events
        wanted.callbackUrl)).2.webhooks wanted.repository).map Webhook.id := by
      rw [webhooks, List.map_append]
      exact List.mem_append_left _ present
    exact .inl stays
  · simp only [Function.update_self]
    exact .created stillFirm (List.mem_append_right _ (List.mem_singleton_self _))
  · exact forall_mem_append_singleton peers.past trivial

/-- Rewriting the webhook brings it up to date. -/
theorem Peers.onward_rewriting {others : List Webhook}
    (leftover : Leftover wanted id race run others)
    (asks : race.sessions run = rewriting wanted shape id others) :
    Onward wanted kind shape id race run := by
  have distinct := peers.sound.numbered.distinct
  have isPresent : present race.store wanted.repository id = true := by
    obtain ⟨hook, member, same⟩ := List.mem_map.mp peers.anchored.mem_ids
    exact present_iff.mpr ⟨hook, member, same⟩
  have answered : (race.store.perform (.update wanted.repository id wanted.name shape.events
      wanted.callbackUrl)).1 =
        .ok ⟨id, wanted.name, shape.events.names, wanted.callbackUrl, true⟩ := by
    rw [perform_update_eq, isPresent, if_pos rfl]
  have turned := Race.turn_of_reply peers.sound.calm asks answered
  have firm := peers.anchored.update distinct
  rw [← webhooks_update distinct] at firm
  have sameIds := Store.ids_perform_update race.store wanted.repository id wanted.name shape.events
    wanted.callbackUrl
  have accounted (other : ι) : ∀ gone ∈ (race.store.webhooks wanted.repository).map Webhook.id,
      gone ∈ ((race.turn run).store.webhooks wanted.repository).map Webhook.id ∨
        DeletedByAnother wanted (race.turn run).history other gone := by
    intro gone member
    rw [turned]
    exact .inl (sameIds ▸ member)
  have leftoverThen : Leftover wanted id (race.turn run) run others :=
    leftover.later Race.history_turn (accounted run)
  rw [turned] at leftoverThen accounted
  constructor <;> rw [turned]
  · exact firm.anchored
  · exact fun _ => firm
  · exact fun other _ => accounted other
  · simp only [Function.update_self]
    exact .deleting rfl firm leftoverThen
  · exact forall_mem_append_singleton peers.past rfl

/-- Another webhook is deleted, unless another run has done so. -/
theorem Peers.onward_deleting {kept gone : Webhook} {rest : List Webhook} (same : kept.id = id)
    (firm : Firm wanted kind shape id (race.store.webhooks wanted.repository))
    (leftover : Leftover wanted id race run (gone :: rest))
    (asks : race.sessions run = deleteAll wanted.repository (some kept) (gone :: rest)) :
    Onward wanted kind shape id race run := by
  have spared := leftover.spared gone List.mem_cons_self
  cases isPresent : present race.store wanted.repository gone.id with
  | true =>
      have answered : (race.store.perform (.delete wanted.repository gone.id)).1 = .ok () := by
        rw [perform_delete_eq, isPresent, if_pos rfl]
      have turned := Race.turn_of_reply peers.sound.calm asks answered
      have webhooks := Store.webhooks_perform_delete race.store wanted.repository gone.id
      have stillFirm := firm.delete spared
      rw [← webhooks] at stillFirm
      have accounted (other : Int64)
          (present : other ∈ (race.store.webhooks wanted.repository).map Webhook.id)
          (different : other ≠ gone.id) :
          other ∈ ((race.store.perform (.delete wanted.repository gone.id)).2.webhooks
            wanted.repository).map Webhook.id := by
        obtain ⟨hook, member, rfl⟩ := List.mem_map.mp present
        rw [webhooks]
        exact List.mem_map_of_mem (List.mem_filter.mpr ⟨member, decide_eq_true different⟩)
      obtain ⟨distinct, sparedAll, accountedAll⟩ := leftover
      rw [List.map_cons, List.nodup_cons] at distinct
      constructor <;> rw [turned]
      · exact stillFirm.anchored
      · exact fun _ => stillFirm
      · intro other different id present
        by_cases isGone : id = gone.id
        · subst isGone
          exact .inr ⟨run, different.symm, List.mem_append_right _ (List.mem_singleton_self _)⟩
        · exact .inl (accounted id present isGone)
      · simp only [Function.update_self]
        refine .deleting same stillFirm ⟨distinct.2,
          fun hook member => sparedAll hook (List.mem_cons_of_mem gone member),
          fun hook member => ?_⟩
        rcases accountedAll hook (List.mem_cons_of_mem gone member) with present | deleted
        · left
          apply accounted hook.id present
          intro isGone
          exact distinct.1 (isGone ▸ List.mem_map_of_mem member)
        · exact .inr ⟨deleted.choose, deleted.choose_spec.1,
            List.mem_append_left _ deleted.choose_spec.2⟩
      · exact forall_mem_append_singleton peers.past spared
  | false =>
      have answered : (race.store.perform (.delete wanted.repository gone.id)).1 =
          .error (Store.noSuchWebhook gone.id) := by
        rw [perform_delete_eq, isPresent, if_neg Bool.false_ne_true]
      have absent : gone.id ∉ (race.store.webhooks wanted.repository).map Webhook.id := by
        intro member
        obtain ⟨hook, listed, sameId⟩ := List.mem_map.mp member
        rw [present_iff.mpr ⟨hook, listed, sameId⟩] at isPresent
        exact Bool.noConfusion isPresent
      obtain ⟨other, different, deleted⟩ :=
        (leftover.accounted gone List.mem_cons_self).resolve_left absent
      have unchanged : (race.store.perform (.delete wanted.repository gone.id)).2 = race.store := by
        have noWebhook : (race.store.webhooks wanted.repository).any (·.id = gone.id) = false :=
          isPresent
        simp only [Store.perform, noWebhook, Bool.false_eq_true, if_false]
      refine peers.onward_of_same asks unchanged ?_ spared
      rw [answered, Race.turn_of_failure peers.sound.calm asks answered]
      refine .missed different ?_
      exact (List.singleton_sublist.mpr deleted).append (List.Sublist.refl [_])

/-- Whatever a run does next, all runs keep the same webhook. -/
theorem Peers.turn (room : race.HasRoomAt run) : Peers wanted kind shape id (race.turn run) := by
  generalize asks : race.sessions run = session
  have peer := peers.peer run
  rw [asks] at peer
  cases peer with
  | opening opening =>
      rw [← asks] at opening
      exact peers.of_onward room (peers.onward_opening opening)
  | creating same firm => exact peers.of_onward room (peers.onward_creating same firm asks)
  | rewriting leftover => exact peers.of_onward room (peers.onward_rewriting leftover asks)
  | @deleting kept others same firm leftover =>
      cases others with
      | nil =>
          rw [Race.turn_of_ended asks]
          exact peers
      | cons gone rest =>
          exact peers.of_onward room (peers.onward_deleting same firm leftover asks)
  | created firm made =>
      rw [Race.turn_of_ended asks]
      exact peers
  | missed different order =>
      rw [Race.turn_of_ended asks]
      exact peers

end Turn

/-! ## Turns where there is no webhook to keep -/

/-- Whatever a run does next, there is still no webhook to keep, or from now on all runs keep the
one that it has created. -/
theorem Bare.turn (bare : Bare wanted kind race) (room : race.HasRoomAt run) :
    Bare wanted kind (race.turn run) ∨
      ∃ shape id, Peers wanted kind shape id (race.turn run) := by
  have sameCapabilities : (race.turn run).store.capabilities = race.store.capabilities :=
    Race.capabilities_turn bare.sound.calm
  rcases bare.peer run with ⟨questions, opening⟩ | asks
  · left
    obtain ⟨call, next, asks⟩ := opening.asks
    rw [asks] at opening
    have turned := Race.turn_of_ask bare.sound.calm asks
    have sound := bare.sound.turn room
    have others : ∀ other, other ≠ run →
        (∃ questions, Opening wanted kind (race.turn run).store.capabilities questions
          ((race.turn run).sessions other)) ∨
            (race.turn run).sessions other = creation wanted kind := by
      intro other different
      rw [Race.sessions_turn_of_ne different, sameCapabilities]
      exact bare.peer other
    have unchanged : (race.store.perform call).2 = race.store := by
      rcases opening.answered with ⟨_, rfl, _⟩ | ⟨_, rfl, _⟩
      · exact Store.perform_of_not_isMutation _ rfl
      · rfl
    rw [unchanged] at turned
    refine ⟨sound, ?_, fun other => ?_, ?_⟩
    · rw [turned]
      exact bare.nothing
    · by_cases same : other = run
      · subst same
        rw [turned]
        simp only [Function.update_self]
        rcases opening.answered with ⟨_, rfl, listing⟩ | ⟨_, rfl, settles⟩
        · rw [listing]
          exact .inl ⟨1, .listing⟩
        · rw [settles, settle_of_none bare.nothing]
          exact .inr rfl
      · exact others other same
    · rw [turned]
      refine forall_mem_append_singleton bare.past fun id => ?_
      rcases opening.answered with ⟨_, rfl, _⟩ | ⟨_, rfl, _⟩
      · trivial
      · intro anchor found
        rw [anchor?_listed, bare.nothing] at found
        exact absurd found.symm (Option.some_ne_none anchor)
  · right
    have turned := Race.turn_of_reply bare.sound.calm asks rfl
    have firm := firm_created bare.nothing race.store.nextId
    rw [← webhooks_create race.store wanted kind] at firm
    refine ⟨kind, race.store.nextId, bare.sound.turn room, ?_, fun other => ?_, ?_⟩
    · rw [turned]
      exact firm.anchored
    · by_cases same : other = run
      · subst same
        rw [turned]
        simp only [Function.update_self]
        exact .created firm (List.mem_append_right _ (List.mem_singleton_self _))
      · rw [Race.sessions_turn_of_ne same]
        rcases bare.peer other with ⟨questions, opening⟩ | creates
        · rw [← sameCapabilities] at opening
          exact .opening opening
        · rw [creates]
          refine .creating rfl ?_
          rw [turned]
          exact firm
    · rw [turned]
      exact forall_mem_append_singleton (fun exchange member => bare.past exchange member _) trivial

/-! ## Every schedule -/

/-- Reconciliations of one subscription that race with each other all keep the same webhook, or
there is none to keep yet. -/
theorem bare_or_peers_play {store : Store} {schedule : List ι} (calm : store.Calm)
    (numbered : store.Numbered wanted.repository)
    (asked : wantedEvents store.capabilities wanted = kind.events)
    (room : (Race.start store fun _ : ι => reconcile wanted).HasRoom schedule) :
    let race := (Race.start store fun _ : ι => reconcile wanted).play schedule
    Bare wanted kind race ∨ ∃ shape id, Peers wanted kind shape id race := by
  refine Race.play_induction
    (fun race => Bare wanted kind race ∨ ∃ shape id, Peers wanted kind shape id race)
    ?_ ?_ room
  · rintro race run (bare | ⟨shape, id, peers⟩) roomThere
    · exact bare.turn roomThere
    · exact .inr ⟨shape, id, peers.turn roomThere⟩
  · obtain ⟨questions, _, opening⟩ := opening_reconcile asked
    cases found : anchor? wanted (choose wanted kind (store.webhooks wanted.repository))
        (store.webhooks wanted.repository) with
    | none =>
        exact .inl ⟨⟨calm, numbered⟩, found, fun _ => .inl ⟨questions, opening⟩,
          fun _ member => absurd member List.not_mem_nil⟩
    | some anchor =>
        exact .inr ⟨_, anchor.id, ⟨calm, numbered⟩, ⟨rfl, anchor, found, rfl⟩,
          fun _ => .opening opening, fun _ member => absurd member List.not_mem_nil⟩

end WebhookSync.Reconcile
