import WebhookSync.Proofs.Reconcile.Run

/-!
# Neighbouring subscriptions

Subscriptions of one repository get into each other's way only where they own webhooks together.
If two of them have the same name and address, they own the same webhooks, and the order of shapes
decides which of these stay; if they differ in both, neither owns what the other one writes.  Either
way, a reconciliation that has nothing to change has nothing to change behind a reconciliation of
the other subscription (`changes_eq_nil_of_neighbour`).
-/

namespace WebhookSync

/-- Two subscriptions of one repository have the same name and the same callback address, or they
differ in both. -/
def Subscription.Compatible (first second : Subscription) : Prop :=
  first.repository = second.repository →
    first.name = second.name ∧ first.callbackUrl = second.callbackUrl ∨
      first.name ≠ second.name ∧ first.callbackUrl ≠ second.callbackUrl

instance (first second : Subscription) : Decidable (first.Compatible second) :=
  inferInstanceAs (Decidable (_ → _))

namespace Reconcile

open Gateway (Call Store)

/-! ## Settled subscriptions -/

/-- A webhook fits only one shape. -/
theorem shape_eq_of_fits {wanted : Subscription} {first second : Shape} {hook : Webhook}
    (fitsFirst : fits wanted first hook = true) (fitsSecond : fits wanted second hook = true) :
    first = second := by
  have firstEvents := (Webhook.isUpToDate_iff.mp fitsFirst).2.2.2
  have secondEvents := (Webhook.isUpToDate_iff.mp fitsSecond).2.2.2
  exact Shape.events_inj (EventSet.names_inj.mp (firstEvents.symm.trans secondEvents))

/-- A webhook that fits a shape is gathered by the shapes above this one. -/
theorem gathers_iff_le_of_fits {wanted : Subscription} {shape other : Shape} {hook : Webhook}
    (fit : fits wanted shape hook = true) : other.gathers hook = true ↔ shape ≤ other :=
  Shape.gathers_iff_le (Webhook.isUpToDate_iff.mp fit).2.2.2

theorem mem_gathered_of_fits {wanted : Subscription} {shape other : Shape} {hooks : List Webhook}
    {hook : Webhook} (member : hook ∈ hooks) (fit : fits wanted shape hook = true)
    (below : shape ≤ other) : hook ∈ gathered wanted other hooks :=
  mem_gathered.mpr
    ⟨member, Webhook.isOwnedBy_of_isUpToDate fit, (gathers_iff_le_of_fits fit).mpr below⟩

/-- A shape with the wanted events that gathers a fitting webhook and no other is the one that is
chosen. -/
theorem choose_eq_of_alone {wanted : Subscription} {kind shape : Shape} {hooks : List Webhook}
    {kept : Webhook} (below : kind ≤ shape) (listed : kept ∈ hooks)
    (fit : fits wanted shape kept = true)
    (alone : ∀ hook ∈ gathered wanted shape hooks, hook = kept) :
    choose wanted kind hooks = shape := by
  by_cases empty : gathered wanted kind hooks = []
  · rw [choose, empty, List.isEmpty_nil, if_pos rfl]
    rcases Shape.le_iff.mp below with rfl | rfl
    · have member := mem_gathered_of_fits listed fit shape.le_refl
      rw [empty] at member
      exact absurd member List.not_mem_nil
    · rfl
  · obtain ⟨hook, member⟩ := List.exists_mem_of_ne_nil _ empty
    obtain ⟨hookListed, own, gathers⟩ := mem_gathered.mp member
    have isKept := alone hook
      (mem_gathered.mpr ⟨hookListed, own, Shape.gathers_mono below gathers⟩)
    rw [isKept] at gathers
    have above : shape ≤ kind := (gathers_iff_le_of_fits fit).mp gathers
    rw [choose, if_neg fun isEmpty => empty (List.isEmpty_iff.mp isEmpty)]
    exact Shape.le_antisymm below above

/-- Nothing is to be done for a subscription just when some shape with the wanted events gathers a
fitting webhook and no other. -/
theorem kept_nil_iff {wanted : Subscription} {kind : Shape} {hooks : List Webhook} {kept : Webhook}
    (distinct : (hooks.map Webhook.id).Nodup) :
    Kept wanted kind hooks kept [] ↔
      ∃ shape, kind ≤ shape ∧ kept ∈ hooks ∧ fits wanted shape kept = true ∧
        ∀ hook ∈ gathered wanted shape hooks, hook = kept := by
  constructor
  · intro whole
    have listed := (mem_gathered.mp (anchor_mem whole.anchor)).1
    refine ⟨choose wanted kind hooks, le_choose wanted kind hooks, listed, whole.fit, ?_⟩
    intro hook member
    rcases (whole.mem_iff distinct).mp (mem_gathered.mp member).1 with same | untouched
    · exact same
    · exact absurd member untouched.2
  · rintro ⟨shape, below, listed, fit, alone⟩
    have chosen := choose_eq_of_alone below listed fit alone
    have member := mem_gathered_of_fits listed fit shape.le_refl
    constructor
    · rw [chosen]
      cases found : anchor? wanted shape hooks with
      | none =>
          rw [anchor?_eq_none_iff.mp found] at member
          exact absurd member List.not_mem_nil
      | some anchor => rw [alone anchor (anchor_mem found)]
    · rw [chosen]
      exact fit
    · rw [chosen, List.eq_nil_iff_forall_not_mem]
      intro hook other
      obtain ⟨gatheredToo, different⟩ := mem_others.mp other
      exact different (congrArg Webhook.id (alone hook gatheredToo))

/-! ## Namesakes and strangers -/

section SameIdentity

variable {first second : Subscription} (sameName : first.name = second.name)
  (sameUrl : first.callbackUrl = second.callbackUrl)

include sameName sameUrl

theorem fits_congr : fits first = fits second := by
  funext shape hook
  rw [fits, fits, sameName, sameUrl]

/-- What a subscription keeps is a matter of its name and address. -/
theorem Kept.congr {kind : Shape} {hooks leftover : List Webhook} {kept : Webhook}
    (whole : Kept first kind hooks kept leftover) : Kept second kind hooks kept leftover := by
  have sameFits := fits_congr sameName sameUrl
  have sameGathered : gathered first = gathered second := by
    funext shape hooks
    simp only [gathered_eq_filter, Webhook.isOwnedBy, sameName, sameUrl]
  obtain ⟨found, fit, rest⟩ := whole
  simp only [anchor?, choose, Reconcile.others, sameFits, sameGathered] at found fit rest
  exact ⟨found, fit, rest⟩

end SameIdentity

/-- What fits a subscription is not owned by one that differs in name and address. -/
theorem not_isOwnedBy_of_fits {first second : Subscription} {shape : Shape} {hook : Webhook}
    (differentName : first.name ≠ second.name)
    (differentUrl : first.callbackUrl ≠ second.callbackUrl)
    (fit : fits first shape hook = true) : hook.isOwnedBy second ≠ true := by
  obtain ⟨name, url, _, _⟩ := Webhook.isUpToDate_iff.mp fit
  intro own
  rcases Webhook.isOwnedBy_iff.mp own with sameName | sameUrl
  · exact differentName (name.symm.trans sameName)
  · exact differentUrl (url.symm.trans sameUrl)

/-! ## Behind the reconciliation of another subscription -/

section Neighbour

variable {store : Store} {other wanted : Subscription} {kind otherKind : Shape}

/-- Where something is gathered, the outcome has the shape that is chosen. -/
theorem fits_outcome {hooks : List Webhook} (nextId : Int64)
    (something : gathered other (choose other otherKind hooks) hooks ≠ []) :
    fits other (choose other otherKind hooks) (outcome other otherKind hooks nextId) = true := by
  cases found : anchor? other (choose other otherKind hooks) hooks with
  | none => exact absurd (anchor?_eq_none_iff.mp found) something
  | some anchor =>
      rw [outcome, found]
      exact Webhook.isUpToDate_rewrittenFor other _ anchor

/-- The outcome is among what the chosen shape gathers. -/
theorem outcome_gathered {hooks : List Webhook} (nextId : Int64) :
    (choose other otherKind hooks).gathers (outcome other otherKind hooks nextId) = true := by
  by_cases something : gathered other (choose other otherKind hooks) hooks = []
  · rw [outcome, anchor?_eq_none_iff.mpr something]
    exact (gathers_iff_le_of_fits (fits_fresh other otherKind nextId)).mpr (le_choose _ _ _)
  · exact (gathers_iff_le_of_fits (fits_outcome nextId something)).mpr (Shape.le_refl _)

/-- What a reconciliation has gathered comes down to its outcome. -/
theorem gathered_completed (numbered : store.Numbered other.repository)
    (room : HasRoom store other otherKind) :
    gathered other (choose other otherKind (store.webhooks other.repository))
        ((completed store other otherKind).webhooks other.repository) =
      [outcome other otherKind (store.webhooks other.repository) store.nextId] := by
  have distinct := (numbered_completed numbered room).distinct
  refine eq_singleton (distinct_gathered distinct other _) ?_ ?_
  · have fit := (kept_completed numbered room).fit
    refine mem_gathered.mpr ⟨(mem_completed numbered.distinct).mpr (.inl rfl),
      Webhook.isOwnedBy_of_isUpToDate fit, outcome_gathered store.nextId⟩
  · intro hook member
    obtain ⟨listed, own, gathers⟩ := mem_gathered.mp member
    rcases (mem_completed numbered.distinct).mp listed with same | ⟨old, outside⟩
    · exact same
    · exact absurd (mem_gathered.mpr ⟨old, own, gathers⟩) outside

/-- A stranger leaves alone what is settled. -/
theorem changes_eq_nil_of_stranger (differentName : wanted.name ≠ other.name)
    (differentUrl : wanted.callbackUrl ≠ other.callbackUrl)
    (sameRepository : wanted.repository = other.repository)
    (numbered : store.Numbered other.repository) (room : HasRoom store other otherKind)
    (settled : changes wanted kind (store.webhooks wanted.repository) = []) :
    changes wanted kind ((completed store other otherKind).webhooks
        wanted.repository) = [] := by
  rw [sameRepository] at settled ⊢
  obtain ⟨kept, whole⟩ := changes_eq_nil_iff.mp settled
  obtain ⟨shape, below, listed, fit, alone⟩ := (kept_nil_iff numbered.distinct).mp whole
  have distinctAfter := (numbered_completed numbered room).distinct
  refine changes_eq_nil_iff.mpr ⟨kept, (kept_nil_iff distinctAfter).mpr ?_⟩
  refine ⟨shape, below, ?_, fit, ?_⟩
  · refine (mem_completed numbered.distinct).mpr (.inr ⟨listed, ?_⟩)
    intro member
    exact not_isOwnedBy_of_fits differentName differentUrl fit (mem_gathered.mp member).2.1
  · intro hook member
    obtain ⟨listedAfter, own, gathers⟩ := mem_gathered.mp member
    rcases (mem_completed numbered.distinct).mp listedAfter with rfl | ⟨old, _⟩
    · have outcomeFit := (kept_completed numbered room).fit
      exact absurd own
        (not_isOwnedBy_of_fits differentName.symm differentUrl.symm outcomeFit)
    · exact alone hook (mem_gathered.mpr ⟨old, own, gathers⟩)

/-- What is settled stays settled when the same subscription is reconciled towards another shape:
the kept webhook is taken over by a greater shape, or it is not gathered. -/
theorem exists_kept_of_kind {kept : Webhook} (numbered : store.Numbered other.repository)
    (room : HasRoom store other otherKind)
    (whole : Kept other kind (store.webhooks other.repository) kept []) :
    ∃ kept, Kept other kind ((completed store other otherKind).webhooks
        other.repository) kept [] := by
  have distinctAfter := (numbered_completed numbered room).distinct
  obtain ⟨shape, below, listed, fit, alone⟩ := (kept_nil_iff numbered.distinct).mp whole
  obtain ⟨last, lastBelow, lastListed, lastFit, lastAlone⟩ :=
    (kept_nil_iff distinctAfter).mp (kept_completed numbered room)
  by_cases taken : shape ≤ last
  · exact ⟨_, (kept_nil_iff distinctAfter).mpr
      ⟨last, Shape.le_trans below taken, lastListed, lastFit, lastAlone⟩⟩
  · have untouched : Untouched other otherKind (store.webhooks other.repository) kept := by
      refine ⟨listed, fun member => taken ?_⟩
      rw [shape_eq_of_fits lastFit (fits_outcome _ (List.ne_nil_of_mem member))]
      exact (gathers_iff_le_of_fits fit).mp (mem_gathered.mp member).2.2
    refine ⟨kept, (kept_nil_iff distinctAfter).mpr ⟨shape, below, ?_, fit, ?_⟩⟩
    · exact (mem_completed numbered.distinct).mpr (.inr untouched)
    · intro hook member
      obtain ⟨listedAfter, own, gathers⟩ := mem_gathered.mp member
      rcases (mem_completed numbered.distinct).mp listedAfter with rfl | ⟨old, _⟩
      · have above : last ≤ shape := (gathers_iff_le_of_fits lastFit).mp gathers
        have chosen := choose_eq_of_alone (Shape.le_trans lastBelow above) listed fit alone
        have taken := untouched.2
        rw [chosen] at taken
        exact absurd (mem_gathered_of_fits listed fit shape.le_refl) taken
      · exact alone hook (mem_gathered.mpr ⟨old, own, gathers⟩)

/-- A subscription for which nothing is to be done stays so when a compatible one is reconciled. -/
theorem changes_eq_nil_of_neighbour (compatible : wanted.Compatible other)
    (numbered : store.Numbered other.repository) (room : HasRoom store other otherKind)
    (settled : changes wanted kind (store.webhooks wanted.repository) = []) :
    changes wanted kind ((completed store other otherKind).webhooks
        wanted.repository) = [] := by
  by_cases sameRepository : wanted.repository = other.repository
  · rcases compatible sameRepository with ⟨sameName, sameUrl⟩ | ⟨differentName, differentUrl⟩
    · rw [sameRepository] at settled ⊢
      obtain ⟨kept, whole⟩ := changes_eq_nil_iff.mp settled
      obtain ⟨last, lastWhole⟩ :=
        exists_kept_of_kind numbered room (Kept.congr sameName sameUrl whole)
      exact changes_eq_nil_iff.mpr ⟨last, Kept.congr sameName.symm sameUrl.symm lastWhole⟩
    · exact changes_eq_nil_of_stranger differentName differentUrl sameRepository numbered room
        settled
  · rw [webhooks_completed sameRepository]
    exact settled

/-! ## In the middle of the reconciliation of another subscription -/

/-- A listed webhook is what a subscription asks of one with at least the events of a shape. -/
def Covered (wanted : Subscription) (kind : Shape) (hooks : List Webhook) : Prop :=
  ∃ shape, kind ≤ shape ∧ ∃ hook ∈ hooks, fits wanted shape hook = true

theorem Due.target?_eq {hooks leftover : List Webhook} {call : Call}
    (due : Due other otherKind hooks call leftover) :
    Store.target? call = some other.repository := by
  cases due with
  | create _ => rfl
  | update _ _ => rfl
  | delete _ => rfl

/-- No single change uncovers a compatible subscription: what it needs is left alone, or is gathered
together with the webhook that is kept, which has the greater shape already. -/
theorem Due.covered {call : Call} {leftover : List Webhook} (compatible : wanted.Compatible other)
    (numbered : store.Numbered other.repository)
    (due : Due other otherKind (store.webhooks other.repository) call leftover)
    (covered : Covered wanted kind (store.webhooks wanted.repository)) :
    Covered wanted kind ((store.perform call).2.webhooks wanted.repository) := by
  by_cases sameRepository : wanted.repository = other.repository
  · rw [sameRepository] at covered ⊢
    obtain ⟨shape, below, hook, listed, fit⟩ := covered
    by_cases inside : hook ∈ gathered other
        (choose other otherKind (store.webhooks other.repository)) (store.webhooks other.repository)
    · rcases compatible sameRepository with ⟨sameName, sameUrl⟩ | ⟨differentName, differentUrl⟩
      · have whole := due.kept numbered.distinct
        have outcomeFit := fits_outcome store.nextId (List.ne_nil_of_mem inside)
        have upper := (gathers_iff_le_of_fits fit).mp (mem_gathered.mp inside).2.2
        rw [← fits_congr sameName sameUrl] at outcomeFit
        exact ⟨_, Shape.le_trans below upper, _, (mem_gathered.mp (anchor_mem whole.anchor)).1,
          outcomeFit⟩
      · exact absurd (mem_gathered.mp inside).2.1
          (not_isOwnedBy_of_fits differentName differentUrl fit)
    · have untouched := (due.untouched_iff numbered.distinct).mpr ⟨listed, inside⟩
      exact ⟨shape, below, hook, untouched.1, fit⟩
  · have elsewhere : Store.target? call ≠ some wanted.repository := by
      rw [due.target?_eq]
      exact fun same => sameRepository (Option.some.inj same).symm
    rw [Store.webhooks_perform_of_target_ne store elsewhere]
    exact covered

end Neighbour

end Reconcile

end WebhookSync
