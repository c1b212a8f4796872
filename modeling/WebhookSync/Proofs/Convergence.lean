import Mathlib.Data.Finset.Card
import WebhookSync.Proofs.Reconcile.Neighbours

/-!
# Convergence

Compatible subscriptions do not undo each other's work: behind its first reconciliation a
subscription stays settled, whichever of the subscriptions are reconciled in whichever order
(`reconcile_converges`).  Each of them takes at most one id, so ids run out only where there are
fewer of them left than subscriptions.
-/

namespace WebhookSync.Reconcile

open Gateway (Call Store)

/-- Reconcile subscriptions one after the other, as long as none fails. -/
def reconcileAll : List Subscription → Store → Except Failure Store
  | [], store => .ok store
  | wanted :: rest, store =>
      match store.run (reconcile wanted) with
      | (.ok _, after) => reconcileAll rest after
      | (.error failure, _) => .error failure

/-- The calls of a reconciliation that finds nothing to change. -/
def quietCalls (capabilities : Option EventSet) (wanted : Subscription) : List Call :=
  probes wanted ++
    if (wantedEvents capabilities wanted).isEmpty then [] else [.list wanted.repository Event.all]

/-- A reconciliation comes to the result without changing anything. -/
def IsQuiet (store : Store) (wanted : Subscription) (result : Option Webhook) : Prop :=
  store.run (reconcile wanted) =
    (.ok result, { store with journal := store.journal ++ quietCalls store.capabilities wanted })

theorem isQuiet_of_empty {store : Store} {wanted : Subscription} (calm : store.Calm)
    (nothing : wantedEvents store.capabilities wanted = .empty) : IsQuiet store wanted none := by
  rw [IsQuiet, run_reconcile_of_empty calm nothing, quietCalls, nothing]
  simp [EventSet.isEmpty_eq_true_iff, EventSet.empty]

theorem isQuiet_of_kept {store : Store} {wanted : Subscription} {kind : Shape} {kept : Webhook}
    (calm : store.Calm) (distinct : ((store.webhooks wanted.repository).map Webhook.id).Nodup)
    (asked : wantedEvents store.capabilities wanted = kind.events)
    (whole : Kept wanted kind (store.webhooks wanted.repository) kept []) :
    IsQuiet store wanted (some kept) := by
  have nothing : changes wanted kind (store.webhooks wanted.repository) = [] := whole.changes_eq
  rw [IsQuiet, run_reconcile_of_distinct calm distinct asked, completed_eq_self nothing, nothing,
    whole.outcome_eq, quietCalls, asked]
  simp [kind.events_isEmpty]

/-! ## What holds all along -/

/-- What holds while compatible subscriptions are reconciled, of which some are done: these have
nothing to change, and there is an id for each of the others. -/
structure Underway (store : Store) (requests finished : Finset Subscription) : Prop where
  calm : store.Calm
  numbered : ∀ repository, store.Numbered repository
  room : store.nextId.toInt + (requests \ finished).card ≤ Int64.maxValue.toInt
  settled : ∀ wanted ∈ finished, ∀ kind : Shape,
    wantedEvents store.capabilities wanted = kind.events →
      changes wanted kind (store.webhooks wanted.repository) = []

/-- One subscription more that is finished makes up for one id less. -/
theorem room_insert {requests finished : Finset Subscription} {wanted : Subscription}
    {before after : Int64} (requested : wanted ∈ requests)
    (room : before.toInt + (requests \ finished).card ≤ Int64.maxValue.toInt)
    (moved : after.toInt ≤ before.toInt + 1) (stays : wanted ∈ finished → after = before) :
    after.toInt + (requests \ insert wanted finished).card ≤ Int64.maxValue.toInt := by
  by_cases isFinished : wanted ∈ finished
  · rw [Finset.insert_eq_of_mem isFinished, stays isFinished]
    exact room
  · have member := Finset.mem_sdiff.mpr ⟨requested, isFinished⟩
    have fewer := Finset.card_erase_of_mem member
    have some := Finset.card_pos.mpr ⟨wanted, member⟩
    rw [Finset.sdiff_insert, fewer]
    omega

section Underway

variable {store : Store} {requests finished : Finset Subscription} {wanted : Subscription}
  (underway : Underway store requests finished)

include underway

/-- There is an id for whatever is still to be created. -/
theorem Underway.hasRoom (requested : wanted ∈ requests) {kind : Shape}
    (asked : wantedEvents store.capabilities wanted = kind.events) :
    HasRoom store wanted kind := by
  by_cases isFinished : wanted ∈ finished
  · intro call member
    rw [underway.settled wanted isFinished kind asked] at member
    exact absurd member List.not_mem_nil
  · intro call _ _
    have left : 0 < (requests \ finished).card :=
      Finset.card_pos.mpr ⟨wanted, Finset.mem_sdiff.mpr ⟨requested, isFinished⟩⟩
    have room := underway.room
    rw [Int64.lt_iff_toInt_lt]
    omega

/-- What is finished is quiet. -/
theorem Underway.isQuiet (isFinished : wanted ∈ finished) :
    ∃ result, IsQuiet store wanted result := by
  rcases wantedEvents_cases store.capabilities wanted with nothing | ⟨kind, asked⟩
  · exact ⟨none, isQuiet_of_empty underway.calm nothing⟩
  · have settled := underway.settled wanted isFinished kind asked
    obtain ⟨kept, whole⟩ := changes_eq_nil_iff.mp settled
    exact ⟨some kept, isQuiet_of_kept underway.calm (underway.numbered _).distinct asked whole⟩

/-- A reconciliation that has run to its end belongs to what is finished. -/
theorem Underway.reconcile
    (compatible : ∀ first ∈ requests, ∀ second ∈ requests, first.Compatible second)
    (within : finished ⊆ requests) (requested : wanted ∈ requests) :
    ∃ result after, store.run (reconcile wanted) = (.ok result, after) ∧
      IsQuiet after wanted result ∧ Underway after requests (insert wanted finished) := by
  rcases wantedEvents_cases store.capabilities wanted with nothing | ⟨kind, asked⟩
  · refine ⟨none, _, run_reconcile_of_empty underway.calm nothing,
      isQuiet_of_empty underway.calm nothing, underway.calm, ?_, ?_, ?_⟩
    · exact fun repository => (underway.numbered repository).congr rfl rfl
    · exact room_insert requested underway.room (Int.le_add_one (Int.le_refl _)) fun _ => rfl
    · intro other member kind asked
      rcases Finset.mem_insert.mp member with rfl | isFinished
      · rw [nothing] at asked
        exact absurd kind.events_isEmpty (by rw [← asked]; decide)
      · exact underway.settled other isFinished kind asked
  · have room := underway.hasRoom requested asked
    have numbered := underway.numbered
    have whole := kept_completed (numbered wanted.repository) room
    have numberedAfter := fun repository => numbered_completed (numbered repository) room
    have sameCapabilities := capabilities_completed store wanted kind
    have calmAfter : (completed store wanted kind).Calm := calm_completed underway.calm
    refine ⟨_, _, run_reconcile_of_distinct underway.calm (numbered _).distinct asked, ?_,
      calmAfter, ?_, ?_, ?_⟩
    · refine isQuiet_of_kept calmAfter (numberedAfter _).distinct ?_ whole
      rw [← asked, ← sameCapabilities]
    · exact fun repository => (numberedAfter repository).congr rfl rfl
    · refine room_insert requested underway.room (nextId_completed room) ?_
      intro isFinished
      rw [completed_eq_self (underway.settled wanted isFinished kind asked)]
    · intro other member otherKind otherAsked
      simp only [sameCapabilities] at otherAsked
      rcases Finset.mem_insert.mp member with rfl | isFinished
      · rw [Shape.events_inj (otherAsked.symm.trans asked)]
        exact whole.changes_eq
      · exact changes_eq_nil_of_neighbour (compatible other (within isFinished) wanted requested)
          (numbered _) room (underway.settled other isFinished otherKind otherAsked)

end Underway

/-! ## Sequences -/

/-- No subscription of a sequence fails, and in the end all of them are finished. -/
theorem Underway.reconcileAll {requests : Finset Subscription}
    (compatible : ∀ first ∈ requests, ∀ second ∈ requests, first.Compatible second)
    {order : List Subscription} (requested : ∀ wanted ∈ order, wanted ∈ requests) {store : Store}
    {finished : Finset Subscription} (within : finished ⊆ requests)
    (underway : Underway store requests finished) :
    ∃ last, Reconcile.reconcileAll order store = .ok last ∧
      Underway last requests (finished ∪ order.toFinset) := by
  induction order generalizing store finished with
  | nil =>
      refine ⟨store, rfl, ?_⟩
      rw [List.toFinset_nil, Finset.union_empty]
      exact underway
  | cons wanted rest inductionHypothesis =>
      have first := requested wanted List.mem_cons_self
      have later : ∀ other ∈ rest, other ∈ requests :=
        fun other member => requested other (List.mem_cons_of_mem wanted member)
      obtain ⟨result, after, run, _, onward⟩ := underway.reconcile compatible within first
      obtain ⟨last, runs, ends⟩ := inductionHypothesis later
        (Finset.insert_subset first within) onward
      refine ⟨last, ?_, ?_⟩
      · rw [Reconcile.reconcileAll, run]
        exact runs
      · rw [List.toFinset_cons, Finset.union_insert, ← Finset.insert_union]
        exact ends

/-- Where no call is set to fail, a subscription of a set of compatible ones stays settled once it
is reconciled: however many of the set are reconciled behind it, in whichever order, reconciling it
again asks what it has to know and changes nothing.  So one pass over the set, in any order, leads
to a store in which all of them are settled.  Reconciled twice in a row, a subscription comes to the
same webhook. -/
theorem reconcile_converges {store : Store} {requests : Finset Subscription}
    (compatible : ∀ first ∈ requests, ∀ second ∈ requests, first.Compatible second)
    (calm : store.Calm) (numbered : ∀ repository, store.Numbered repository)
    (room : store.nextId.toInt + requests.card ≤ Int64.maxValue.toInt) :
    (∀ wanted ∈ requests, ∃ result after,
      store.run (reconcile wanted) = (.ok result, after) ∧ IsQuiet after wanted result ∧
        ∀ later : List Subscription, (∀ other ∈ later, other ∈ requests) →
          ∃ last, reconcileAll later after = .ok last ∧ ∃ final, IsQuiet last wanted final) ∧
      ∀ pass : List Subscription, (∀ wanted, wanted ∈ pass ↔ wanted ∈ requests) →
        ∃ last, reconcileAll pass store = .ok last ∧
          ∀ wanted ∈ requests, ∃ final, IsQuiet last wanted final := by
  have underway : Underway store requests ∅ := by
    refine ⟨calm, numbered, ?_, ?_⟩
    · rw [Finset.sdiff_empty]
      exact room
    · exact fun wanted member => absurd member (Finset.notMem_empty wanted)
  constructor
  · intro wanted requested
    obtain ⟨result, after, run, quiet, onward⟩ :=
      underway.reconcile compatible (Finset.empty_subset requests) requested
    refine ⟨result, after, run, quiet, fun later laterRequested => ?_⟩
    have within : insert wanted ∅ ⊆ requests :=
      Finset.insert_subset requested (Finset.empty_subset requests)
    obtain ⟨last, runs, ends⟩ := onward.reconcileAll compatible laterRequested within
    exact ⟨last, runs, ends.isQuiet (Finset.mem_union_left _ (Finset.mem_insert_self wanted ∅))⟩
  · intro pass isPass
    obtain ⟨last, runs, ends⟩ := underway.reconcileAll compatible
      (fun wanted => (isPass wanted).mp) (Finset.empty_subset requests)
    refine ⟨last, runs, fun wanted requested => ends.isQuiet ?_⟩
    exact Finset.mem_union_right ∅ (List.mem_toFinset.mpr ((isPass wanted).mpr requested))

theorem reconcile_converges_pass :
    let store := (Store.empty.perform (.create ⟨"P", "r"⟩ "ci" .refChange "https://old")).2
    let mirror : Subscription := ⟨⟨"P", "r"⟩, "ci", "https://ci", true, false, false⟩
    let triggers : Subscription := ⟨⟨"P", "r"⟩, "ci", "https://ci", false, true, true⟩
    let requests : Finset Subscription := {mirror, triggers}
    store.Calm ∧ (∀ repository, store.Numbered repository) ∧
      (∀ first ∈ requests, ∀ second ∈ requests, first.Compatible second) ∧
      store.nextId.toInt + requests.card ≤ Int64.maxValue.toInt ∧
      ∃ last, reconcileAll [triggers, mirror] store = .ok last ∧
        ∀ wanted ∈ requests, ∃ final, IsQuiet last wanted final := by
  intro store mirror triggers requests
  have calm : store.Calm := Store.calm_empty.perform _
  have numbered (repository : Repository) : store.Numbered repository :=
    (Store.numbered_empty repository).perform fun _ => by decide
  have compatible : ∀ first ∈ requests, ∀ second ∈ requests, first.Compatible second := by decide
  have room : store.nextId.toInt + requests.card ≤ Int64.maxValue.toInt := by decide
  refine ⟨calm, numbered, compatible, room, ?_⟩
  apply (reconcile_converges compatible calm numbered room).2
  intro wanted
  simp [requests, or_comm]

end WebhookSync.Reconcile
