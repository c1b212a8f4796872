import WebhookSync.Proofs.Gateway.Errand
import WebhookSync.Proofs.Reconcile.Course

/-!
# Reconciliations as errands

Behind its listing, a reconciliation makes calls that the listed webhooks have settled, and nothing
that comes back changes them.  However far it gets, it has created a webhook and nothing else, or it
has at most rewritten an own webhook and then deleted own webhooks with other ids (`Permitted`).
-/

namespace WebhookSync.Reconcile

open Gateway (Call Errand)

variable {wanted : Subscription} {kind : Shape} {hooks : List Webhook}

/-! ## The errand -/

theorem deleteAll_errand {α : Type} {Ends : α → Prop} {result : α} (ends : Ends result)
    (repository : Repository) (hooks : List Webhook) :
    Errand Ends (deletions repository hooks) (deleteAll repository result hooks) := by
  induction hooks with
  | nil => exact .done ends
  | cons hook rest ih => exact .require fun _ => ih

/-- A reconciliation that succeeds ends with a webhook, which is the one to keep if that was up to
date. -/
def EndsWell (wanted : Subscription) (kind : Shape) (hooks : List Webhook)
    (webhook : Option Webhook) : Prop :=
  ∃ hook, webhook = some hook ∧
    ∀ anchor, anchor? wanted (choose wanted kind hooks) hooks = some anchor →
      fits wanted (choose wanted kind hooks) anchor = true → hook = anchor

/-- The settled course is an errand of its changes. -/
theorem settle_errand (wanted : Subscription) (kind : Shape) (hooks : List Webhook) :
    Errand (EndsWell wanted kind hooks) (changes wanted kind hooks)
      (settle wanted kind hooks) := by
  unfold changes
  cases found : anchor? wanted (choose wanted kind hooks) hooks with
  | none =>
      rw [settle_of_none found]
      refine .require fun created => .done ⟨created, rfl, fun anchor isAnchor => ?_⟩
      rw [found] at isAnchor
      cases isAnchor
  | some anchor =>
      cases fit : fits wanted (choose wanted kind hooks) anchor with
      | true =>
          rw [settle_of_fit found fit]
          simp only [fit, if_true, List.nil_append]
          refine deleteAll_errand ⟨anchor, rfl, fun other isAnchor _ => ?_⟩ _ _
          exact Option.some.inj (found.symm.trans isAnchor)
      | false =>
          rw [settle_of_unfit found fit]
          simp only [fit, Bool.false_eq_true, if_false, List.singleton_append]
          refine .require fun updated =>
            deleteAll_errand ⟨updated, rfl, fun other isAnchor fits => ?_⟩ _ _
          obtain rfl := Option.some.inj (found.symm.trans isAnchor)
          rw [fit] at fits
          cases fits

/-! ## How far it can get -/

/-- What a reconciliation that ends so may have done where these webhooks were listed. -/
inductive Permitted (wanted : Subscription) (hooks : List Webhook)
    (result : Except Failure (Option Webhook)) : List Call → Prop where
  | creation (events : EventSet) :
      Permitted wanted hooks result
        [.create wanted.repository wanted.name events wanted.callbackUrl]
  | rewriting {anchor : Webhook} {others : List Webhook} (events : EventSet)
      (own : anchor ∈ owned wanted hooks)
      (apart : ∀ other ∈ others, other ∈ owned wanted hooks ∧ other.id ≠ anchor.id) :
      Permitted wanted hooks result
        (.update wanted.repository anchor.id wanted.name events wanted.callbackUrl ::
          deletions wanted.repository others)
  | clearing {anchor : Webhook} {others : List Webhook} (own : anchor ∈ owned wanted hooks)
      (apart : ∀ other ∈ others, other ∈ owned wanted hooks ∧ other.id ≠ anchor.id)
      (kept : ∀ webhook, result = .ok webhook → webhook = some anchor) :
      Permitted wanted hooks result (deletions wanted.repository others)

theorem mem_owned_of_mem_gathered {shape : Shape} {hook : Webhook}
    (member : hook ∈ gathered wanted shape hooks) : hook ∈ owned wanted hooks :=
  List.mem_of_mem_filter member

theorem exists_of_prefix_deletions {repository : Repository} {hooks : List Webhook}
    {calls : List Call} (part : calls <+: deletions repository hooks) :
    ∃ some, some <+: hooks ∧ calls = deletions repository some := by
  obtain ⟨rest, split⟩ := part
  obtain ⟨first, second, rfl, rfl, _⟩ := List.map_eq_append_iff.mp split.symm
  exact ⟨first, List.prefix_append first second, rfl⟩

/-- Whatever part of its changes a reconciliation has made, it was permitted to. -/
theorem permitted_of_prefix {result : Except Failure (Option Webhook)} {made : List Call}
    (ends : ∀ webhook, result = .ok webhook → EndsWell wanted kind hooks webhook)
    (part : made <+: changes wanted kind hooks) (something : made ≠ []) :
    Permitted wanted hooks result made := by
  unfold changes at part
  cases found : anchor? wanted (choose wanted kind hooks) hooks with
  | none =>
      rw [found] at part
      obtain nothing | ⟨rest, rfl, isNil⟩ := List.prefix_cons_iff.mp part
      · exact absurd nothing something
      · rw [List.prefix_nil.mp isNil]
        exact .creation _
  | some anchor =>
      rw [found] at part
      have own := mem_owned_of_mem_gathered (anchor_mem found)
      have allowed {some : List Webhook}
          (isPart : some <+: others wanted (choose wanted kind hooks) anchor hooks) :
          ∀ other ∈ some, other ∈ owned wanted hooks ∧ other.id ≠ anchor.id := by
        intro other member
        obtain ⟨gathers, differs⟩ := mem_others.mp (isPart.subset member)
        exact ⟨mem_owned_of_mem_gathered gathers, differs⟩
      cases fit : fits wanted (choose wanted kind hooks) anchor with
      | true =>
          simp only [fit, if_true, List.nil_append] at part
          obtain ⟨some, isPart, rfl⟩ := exists_of_prefix_deletions part
          refine .clearing own (allowed isPart) fun webhook isOk => ?_
          obtain ⟨hook, rfl, kept⟩ := ends webhook isOk
          rw [kept anchor found fit]
      | false =>
          simp only [fit, Bool.false_eq_true, if_false, List.singleton_append] at part
          obtain nothing | ⟨rest, rfl, isDeletions⟩ := List.prefix_cons_iff.mp part
          · exact absurd nothing something
          · obtain ⟨some, isPart, rfl⟩ := exists_of_prefix_deletions isDeletions
            exact .rewriting _ own (allowed isPart)

end WebhookSync.Reconcile
