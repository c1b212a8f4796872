import WebhookSync.Proofs.Reconcile.Course
import WebhookSync.Proofs.Reconcile.Neighbours

/-!
# Webhooks of different kinds

A reconciliation looks at nothing but what the broadest shape of its kind gathers.  Where no own
webhook is gathered for two kinds, a change for one kind leaves alone what is gathered for the
other, so the other reconciliation does not notice it (`Due.gathered_of_apart`).
-/

namespace WebhookSync.Reconcile

open Gateway (Call Session Store)

/-! ## What a reconciliation looks at -/

/-- A shape gathers out of what a greater one gathers. -/
theorem gathered_eq_filter_of_le (wanted : Subscription) {shape other : Shape}
    (below : shape ≤ other) (hooks : List Webhook) :
    gathered wanted shape hooks = (gathered wanted other hooks).filter shape.gathers := by
  rw [gathered, gathered, List.filter_filter]
  apply List.filter_congr
  intro hook _
  cases gathers : shape.gathers hook with
  | false => rfl
  | true => rw [Shape.gathers_mono below gathers, Bool.and_self]

theorem choose_le_broadest (wanted : Subscription) (kind : Shape) (hooks : List Webhook) :
    choose wanted kind hooks ≤ kind.broadest := by
  rcases choose_eq_or wanted kind hooks with chosen | chosen
  · rw [chosen]
    exact kind.le_broadest
  · rw [chosen]
    exact Shape.le_refl _

section Same

variable {wanted : Subscription} {kind : Shape} {hooks hooks' : List Webhook}
  (same : gathered wanted kind.broadest hooks' = gathered wanted kind.broadest hooks)

include same

theorem gathered_of_broadest {shape : Shape} (below : shape ≤ kind.broadest) :
    gathered wanted shape hooks' = gathered wanted shape hooks := by
  rw [gathered_eq_filter_of_le wanted below, gathered_eq_filter_of_le wanted below, same]

theorem choose_of_broadest : choose wanted kind hooks' = choose wanted kind hooks := by
  rw [choose, choose, gathered_of_broadest same kind.le_broadest]

/-- What the chosen shape gathers is all that counts. -/
theorem gathered_choose_of_broadest :
    gathered wanted (choose wanted kind hooks') hooks' =
      gathered wanted (choose wanted kind hooks) hooks := by
  rw [choose_of_broadest same]
  exact gathered_of_broadest same (choose_le_broadest wanted kind hooks)

theorem anchor?_of_broadest :
    anchor? wanted (choose wanted kind hooks') hooks' =
      anchor? wanted (choose wanted kind hooks) hooks := by
  rw [anchor?, anchor?, gathered_choose_of_broadest same, choose_of_broadest same]

theorem others_of_broadest (anchor : Webhook) :
    others wanted (choose wanted kind hooks') anchor hooks' =
      others wanted (choose wanted kind hooks) anchor hooks := by
  rw [others, others, gathered_choose_of_broadest same]

theorem settle_of_broadest : settle wanted kind hooks' = settle wanted kind hooks := by
  rw [settle, settle, anchor?_of_broadest same]
  congr 1
  funext anchor
  rw [keep, keep, others_of_broadest same, choose_of_broadest same]

theorem changes_of_broadest : changes wanted kind hooks' = changes wanted kind hooks := by
  rw [changes, changes, anchor?_of_broadest same]
  split
  · rfl
  · dsimp only
    rw [others_of_broadest same, choose_of_broadest same]

theorem outcome_of_broadest (nextId : Int64) :
    outcome wanted kind hooks' nextId = outcome wanted kind hooks nextId := by
  rw [outcome, outcome, anchor?_of_broadest same, choose_of_broadest same]

/-- A reconciliation does not notice what happens to other webhooks. -/
theorem Course.of_broadest {capabilities : Option EventSet} {left : Nat}
    {session : Session (Except Failure (Option Webhook))}
    (course : Course wanted kind capabilities hooks left session) :
    Course wanted kind capabilities hooks' left session := by
  cases course with
  | opening opening =>
      rw [← changes_of_broadest same]
      exact .opening opening
  | settling =>
      rw [← changes_of_broadest same, ← settle_of_broadest same]
      exact .settling

end Same

/-! ## Kinds that are apart -/

/-- No own webhook is gathered by two shapes. -/
def Apart (wanted : Subscription) (first second : Shape) (hooks : List Webhook) : Prop :=
  ∀ hook ∈ gathered wanted first hooks, second.gathers hook = false

theorem Apart.symm {wanted : Subscription} {first second : Shape} {hooks : List Webhook}
    (apart : Apart wanted first second hooks) : Apart wanted second first hooks := by
  intro hook member
  obtain ⟨listed, own, gathers⟩ := mem_gathered.mp member
  by_contra both
  rw [Bool.not_eq_false] at both
  have neither := apart hook (mem_gathered.mpr ⟨listed, own, both⟩)
  rw [gathers] at neither
  exact Bool.noConfusion neither

section Due

variable {store : Store} {wanted : Subscription} {kind other : Shape} {call : Call}
  {leftover : List Webhook} (numbered : store.Numbered wanted.repository)
  (apart : Apart wanted kind.broadest other (store.webhooks wanted.repository))
  (distant : ∀ shape ≤ kind.broadest, ¬shape ≤ other)
  (due : Due wanted kind (store.webhooks wanted.repository) call leftover)

omit numbered in
include apart in
/-- What is gathered for the one kind is not gathered for the other. -/
theorem not_gathers_of_apart {shape : Shape} (below : shape ≤ kind.broadest) {hook : Webhook}
    (member : hook ∈ gathered wanted shape (store.webhooks wanted.repository)) :
    other.gathers hook = false := by
  apply apart
  rw [gathered_eq_filter_of_le wanted below] at member
  exact List.mem_of_mem_filter member

omit numbered in
include distant in
/-- What is written for the one kind is not gathered for the other. -/
theorem not_gathers_of_fits {shape : Shape} (below : shape ≤ kind.broadest) {hook : Webhook}
    (fit : fits wanted shape hook = true) : other.gathers hook = false := by
  rw [← Bool.not_eq_true, gathers_iff_le_of_fits fit]
  exact distant shape below

include numbered apart distant due

/-- A change for the one kind leaves alone what is gathered for the other. -/
theorem Due.gathered_of_apart :
    gathered wanted other ((store.perform call).2.webhooks wanted.repository) =
      gathered wanted other (store.webhooks wanted.repository) := by
  have distinct := numbered.distinct
  have below := choose_le_broadest wanted kind (store.webhooks wanted.repository)
  cases due with
  | create nothing =>
      have outside := not_gathers_of_fits distant kind.le_broadest
        (fits_fresh wanted kind store.nextId)
      rw [webhooks_create, gathered_eq_filter, List.filter_append, ← gathered_eq_filter,
        List.filter_cons_of_neg (by simp [outside]), List.filter_nil, List.append_nil]
  | @update anchor found unfit =>
      have member := anchor_mem found
      have listed := (mem_gathered.mp member).1
      have outside := not_gathers_of_apart apart below member
      have outsideThen := not_gathers_of_fits distant below
        (Webhook.isUpToDate_rewrittenFor wanted _ anchor)
      have sameTest : ∀ hook ∈ store.webhooks wanted.repository,
          ((fun hook : Webhook => hook.isOwnedBy wanted && other.gathers hook) ∘ fun hook =>
            if hook.id = anchor.id then
              hook.rewrittenFor wanted
                (choose wanted kind (store.webhooks wanted.repository)).events
            else hook) hook = (hook.isOwnedBy wanted && other.gathers hook) := by
        intro hook hookListed
        simp only [Function.comp_apply]
        split
        · rename_i same
          obtain rfl := List.inj_on_of_nodup_map distinct hookListed listed same
          rw [outside, outsideThen, Bool.and_false, Bool.and_false]
        · rfl
      rw [webhooks_update distinct, rewriteAt, gathered_eq_filter, List.filter_map,
        List.filter_congr sameTest, ← gathered_eq_filter]
      rw [List.map_congr_left (g := id), List.map_id]
      intro hook hookMember
      apply if_neg
      intro same
      obtain ⟨hookListed, _, gathers⟩ := mem_gathered.mp hookMember
      obtain rfl := List.inj_on_of_nodup_map distinct hookListed listed same
      rw [outside] at gathers
      exact Bool.noConfusion gathers
  | @delete kept gone leftover whole =>
      have isOther : gone ∈ others wanted (choose wanted kind (store.webhooks wanted.repository))
          kept (store.webhooks wanted.repository) := whole.rest ▸ List.mem_cons_self
      have member := (mem_others.mp isOther).1
      have outside := not_gathers_of_apart apart below member
      rw [Store.webhooks_perform_delete, gathered_filter, List.filter_eq_self]
      intro hook hookMember
      apply decide_eq_true
      intro same
      obtain ⟨hookListed, _, gathers⟩ := mem_gathered.mp hookMember
      obtain rfl := List.inj_on_of_nodup_map distinct hookListed (mem_gathered.mp member).1 same
      rw [outside] at gathers
      exact Bool.noConfusion gathers

/-- A change for the one kind gives no webhook to both. -/
theorem Due.stillApart :
    Apart wanted kind.broadest other ((store.perform call).2.webhooks wanted.repository) := by
  intro hook member
  obtain ⟨listed, own, gathers⟩ := mem_gathered.mp member
  by_contra both
  rw [Bool.not_eq_false] at both
  have inside := mem_gathered.mpr ⟨listed, own, both⟩
  rw [due.gathered_of_apart numbered apart distant] at inside
  have neither := apart.symm hook inside
  rw [gathers] at neither
  exact Bool.noConfusion neither

end Due

/-- A change for one of two kinds that are apart neither adds to what both leave alone nor takes
from it. -/
theorem Due.untouched_both_iff {store : Store} {wanted : Subscription} {kind otherKind : Shape}
    {call : Call} {leftover : List Webhook} (numbered : store.Numbered wanted.repository)
    (apart : Apart wanted kind.broadest otherKind.broadest (store.webhooks wanted.repository))
    (distant : ∀ shape ≤ kind.broadest, ¬shape ≤ otherKind.broadest)
    (due : Due wanted kind (store.webhooks wanted.repository) call leftover) {hook : Webhook} :
    Untouched wanted kind ((store.perform call).2.webhooks wanted.repository) hook ∧
        Untouched wanted otherKind ((store.perform call).2.webhooks wanted.repository) hook ↔
      Untouched wanted kind (store.webhooks wanted.repository) hook ∧
        Untouched wanted otherKind (store.webhooks wanted.repository) hook := by
  have other := gathered_choose_of_broadest (due.gathered_of_apart numbered apart distant)
  constructor
  · rintro ⟨ownThen, otherThen⟩
    have ownBefore := (due.untouched_iff numbered.distinct).mp ownThen
    exact ⟨ownBefore, ownBefore.1, other ▸ otherThen.2⟩
  · rintro ⟨ownBefore, otherBefore⟩
    have ownThen := (due.untouched_iff numbered.distinct).mpr ownBefore
    exact ⟨ownThen, ownThen.1, other ▸ otherBefore.2⟩

end WebhookSync.Reconcile
