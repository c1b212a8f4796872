import WebhookSync.Proofs.Reconcile.Neighbours

/-!
# The webhook that all keep

Of the webhooks of a repository, a reconciliation keeps one, and which one it is does not change
under what other reconciliations of the same subscription do: they rewrite just this webhook, they
delete others, and they create webhooks behind it.  Once it has been rewritten it is up to date, and
stays so.
-/

namespace WebhookSync.Reconcile

/-- The webhook of an id is the one to keep, with a shape to strive for. -/
structure Anchored (wanted : Subscription) (kind shape : Shape) (id : Int64)
    (hooks : List Webhook) : Prop where
  chosen : choose wanted kind hooks = shape
  anchor : ∃ anchor, anchor? wanted shape hooks = some anchor ∧ anchor.id = id

/-- The webhook of an id is the one to keep, and it is up to date. -/
structure Firm (wanted : Subscription) (kind shape : Shape) (id : Int64) (hooks : List Webhook) :
    Prop where
  chosen : choose wanted kind hooks = shape
  anchor : ∃ anchor, (gathered wanted shape hooks).find? (fits wanted shape) = some anchor ∧
    anchor.id = id

section

variable {wanted : Subscription} {kind shape : Shape} {id : Int64} {hooks : List Webhook}

theorem Firm.anchored (firm : Firm wanted kind shape id hooks) :
    Anchored wanted kind shape id hooks := by
  obtain ⟨chosen, anchor, found, same⟩ := firm
  exact ⟨chosen, anchor, anchor?_eq_some_of_find? found, same⟩

theorem Anchored.mem_ids (anchored : Anchored wanted kind shape id hooks) :
    id ∈ hooks.map Webhook.id := by
  obtain ⟨_, anchor, found, rfl⟩ := anchored
  exact List.mem_map_of_mem (mem_gathered.mp (anchor_mem found)).1

/-- A webhook that is up to date covers the subscription. -/
theorem Firm.covered (firm : Firm wanted kind shape id hooks) : Covered wanted kind hooks := by
  obtain ⟨rfl, anchor, found, _⟩ := firm
  have listed := (mem_gathered.mp (List.mem_of_find?_eq_some found)).1
  exact ⟨_, le_choose wanted kind hooks, anchor, listed, List.find?_some found⟩

/-- Rewriting the webhook brings it up to date. -/
theorem Anchored.update (distinct : (hooks.map Webhook.id).Nodup)
    (anchored : Anchored wanted kind shape id hooks) :
    Firm wanted kind shape id (rewriteAt wanted shape.events id hooks) := by
  obtain ⟨rfl, anchor, found, rfl⟩ := anchored
  exact ⟨choose_rewritten distinct found, _, find?_rewritten distinct found, rfl⟩

/-- Deleting another webhook leaves it up to date. -/
theorem Firm.delete (firm : Firm wanted kind shape id hooks) {other : Int64}
    (different : other ≠ id) :
    Firm wanted kind shape id (hooks.filter fun hook => hook.id ≠ other) := by
  obtain ⟨rfl, anchor, found, rfl⟩ := firm
  have stays : decide (anchor.id ≠ other) = true := decide_eq_true different.symm
  refine ⟨choose_filter (List.mem_of_find?_eq_some found) stays, anchor, ?_, rfl⟩
  rw [gathered_filter]
  exact find?_filter_of_find? found stays

/-- A webhook created behind it leaves it up to date. -/
theorem Firm.create (firm : Firm wanted kind kind id hooks) (next : Int64) :
    Firm wanted kind kind id (hooks ++ [fresh wanted kind next]) := by
  obtain ⟨chosen, anchor, found, same⟩ := firm
  have first : (gathered wanted kind (hooks ++ [fresh wanted kind next])).find?
      (fits wanted kind) = some anchor := by
    rw [gathered_eq_filter, List.filter_append, ← gathered_eq_filter, List.find?_append, found]
    rfl
  refine ⟨?_, anchor, first, same⟩
  by_contra different
  have nothing := gathered_eq_nil_of_choose_ne different
  rw [nothing] at first
  exact absurd first.symm (Option.some_ne_none anchor)

/-- Where there was none to keep, a webhook that is created is the one to keep, up to date. -/
theorem firm_created (nothing : anchor? wanted (choose wanted kind hooks) hooks = none)
    (next : Int64) : Firm wanted kind kind next (hooks ++ [fresh wanted kind next]) := by
  refine ⟨choose_created nothing next, fresh wanted kind next, ?_, rfl⟩
  rw [gathered_created nothing]
  exact List.find?_cons_of_pos (fits_fresh wanted kind next)

end

end WebhookSync.Reconcile
