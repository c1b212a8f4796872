import WebhookSync.Proofs.Gateway.Race
import WebhookSync.Proofs.Reconcile.Agreement
import WebhookSync.Proofs.Reconcile.Apart

/-!
# Contests

Two reconciliations with one name and address, but for different triggers, have listed the same
webhooks, and each has found one to keep.  They may get in each other's way: a run that keeps a
webhook for few events can update or delete the webhook that the other one has just broadened
(`Contest.Lost`).  As long as this does not happen, each run has its webhook as it wants it, or it
has made way for a broader one (`Contest.Secured`).  Here is what a call does to this that updates
or deletes a webhook.
-/

namespace WebhookSync.Reconcile

open Gateway (Call Exchange Race Session forall_mem_append_singleton
  pair_sublist_append_singleton)

/-! ## What may be lost -/

/-- All events of a set are heard by active webhooks with the name and address of a subscription. -/
def Heard (wanted : Subscription) (events : EventSet) (hooks : List Webhook) : Prop :=
  ∀ event, events.contains event = true → ∃ hook ∈ hooks, hook.active = true ∧
    hook.name = wanted.name ∧ hook.url = wanted.callbackUrl ∧ hook.subscribesTo event = true

/-- The call updates or deletes the webhook of an id, or tries to. -/
def Touches (repository : Repository) (id : Int64) : Call → Prop
  | .update other touched _ _ _ | .delete other touched => other = repository ∧ touched = id
  | _ => False

/-- A run has updated a webhook to some events, and later the other run has updated or deleted this
webhook, although the webhook with which it ends lacks some of these events. -/
def Overruled (repository : Repository)
    (race : Race Bool (Except Failure (Option Webhook))) : Prop :=
  ∃ earlier later, List.Sublist [earlier, later] race.history ∧ earlier.run ≠ later.run ∧
    ∃ id name events url, earlier.call = .update repository id name events url ∧
      Touches repository id later.call ∧
      ∃ result, race.Ended later.run (.ok (some result)) ∧
        ∃ event, events.contains event = true ∧ result.subscribesTo event = false

theorem Touches.id_eq {repository : Repository} {first second : Int64} {call : Call}
    (touchesFirst : Touches repository first call)
    (touchesSecond : Touches repository second call) : first = second := by
  cases call with
  | update other touched name events url => exact touchesFirst.2.symm.trans touchesSecond.2
  | delete other touched => exact touchesFirst.2.symm.trans touchesSecond.2
  | supportedEvents => exact touchesFirst.elim
  | list other filter => exact touchesFirst.elim
  | create other name events url => exact touchesFirst.elim

/-- A webhook of a greater shape hears all events of a shape. -/
theorem heard_of_fits {wanted : Subscription} {kind shape : Shape} {hooks : List Webhook}
    {hook : Webhook} (below : kind ≤ shape) (member : hook ∈ hooks)
    (fit : fits wanted shape hook = true) : Heard wanted kind.events hooks := by
  intro event contained
  obtain ⟨name, url, active, sameEvents⟩ := Webhook.isUpToDate_iff.mp fit
  exact ⟨hook, member, active, name, url, Shape.subscribesTo_of_le below sameEvents contained⟩

theorem exists_event_of_not_le {shape other : Shape} (notBelow : ¬shape ≤ other) :
    ∃ event, shape.events.contains event = true ∧ other.events.contains event = false := by
  rw [Shape.le_def] at notBelow
  push Not at notBelow
  obtain ⟨event, contained, lacking⟩ := notBelow
  exact ⟨event, contained, Bool.eq_false_iff.mpr lacking⟩

/-! ## The contest -/

/-- Two reconciliations for triggers that have listed the same webhooks, where there is one to keep
for each of them. -/
structure Contest (wanted : Subscription) (kind : Bool → Shape) where
  /-- the webhooks that both have listed -/
  base : List Webhook
  /-- the webhooks to keep -/
  anchor : Bool → Webhook
  distinct : (base.map Webhook.id).Nodup
  broadest : ∀ side, (kind side).broadest = .combined
  found : ∀ side, anchor? wanted (choose wanted (kind side) base) base = some (anchor side)

namespace Contest

variable {wanted : Subscription} {kind : Bool → Shape} (contest : Contest wanted kind)

/-- The shape that a side strives for. -/
def aim (side : Bool) : Shape :=
  choose wanted (kind side) contest.base

/-- The webhooks that a side deletes. -/
def rest (side : Bool) : List Webhook :=
  others wanted (contest.aim side) (contest.anchor side) contest.base

/-- The call by which a side rewrites the webhook that it keeps. -/
def rewrite (side : Bool) : Call :=
  .update wanted.repository (contest.anchor side).id wanted.name (contest.aim side).events
    wanted.callbackUrl

/-- The ids of the listed webhooks that are for triggers. -/
def ids : List Int64 :=
  (gathered wanted .combined contest.base).map Webhook.id

theorem touches_rewrite (side : Bool) :
    Touches wanted.repository (contest.anchor side).id (contest.rewrite side) :=
  ⟨rfl, rfl⟩

/-! ## What the sides strive for -/

section Aims

theorem anchor_mem_gathered (side : Bool) :
    contest.anchor side ∈ gathered wanted (contest.aim side) contest.base :=
  anchor_mem (contest.found side)

theorem aim_le_combined (side : Bool) : contest.aim side ≤ .combined := by
  have below := choose_le_broadest wanted (kind side) contest.base
  rwa [contest.broadest side] at below

theorem kind_le_aim (side : Bool) : kind side ≤ contest.aim side :=
  le_choose _ _ _

variable {contest} {side other : Bool}

theorem mem_ids_of_gathered {hook : Webhook}
    (member : hook ∈ gathered wanted (contest.aim side) contest.base) :
    hook.id ∈ contest.ids := by
  rw [gathered_eq_filter_of_le _ (contest.aim_le_combined side)] at member
  exact List.mem_map_of_mem (List.mem_of_mem_filter member)

/-- Sides that strive for the same shape keep the same webhook. -/
theorem anchor_eq_of_aim_eq (same : contest.aim side = contest.aim other) :
    contest.anchor side = contest.anchor other := by
  have found := contest.found side
  change anchor? _ (contest.aim side) _ = _ at found
  rw [same] at found
  exact Option.some.inj (found.symm.trans (contest.found other))

theorem eq_anchor_of_id_eq {hook : Webhook}
    (member : hook ∈ gathered wanted (contest.aim other) contest.base)
    (sameId : hook.id = (contest.anchor side).id) : hook = contest.anchor side :=
  List.inj_on_of_nodup_map contest.distinct (mem_gathered.mp member).1
    (mem_gathered.mp (contest.anchor_mem_gathered side)).1 sameId

/-- A side that is for all triggers deletes all that it does not keep. -/
theorem mem_rest_of_mem_ids (wide : contest.aim side = .combined) {id : Int64}
    (member : id ∈ contest.ids) :
    id = (contest.anchor side).id ∨ id ∈ (contest.rest side).map Webhook.id := by
  obtain ⟨hook, inside, rfl⟩ := List.mem_map.mp member
  by_cases same : hook.id = (contest.anchor side).id
  · exact .inl same
  · right
    rw [← wide] at inside
    exact List.mem_map_of_mem (mem_others.mpr ⟨inside, same⟩)

/-- A side that keeps a webhook for few events leaves the other side only with all triggers, if that
one strives for more and both have gathered the webhook. -/
theorem aim_eq_combined (broader : ¬contest.aim side ≤ contest.aim other)
    (member : contest.anchor side ∈ gathered wanted (contest.aim other) contest.base) :
    contest.aim side = .combined ∧ ¬kind side ≤ contest.aim other := by
  have narrow : contest.aim other ≠ .combined := by
    intro wide
    exact broader (wide ▸ contest.aim_le_combined side)
  have widest : (contest.aim other).broadest = .combined :=
    ((Shape.le_iff.mp (contest.aim_le_combined other)).resolve_left narrow.symm).symm
  have sameEvents : (contest.anchor side).events = (contest.aim other).events.names :=
    Shape.events_eq_of_gathers (widest ▸ narrow) (mem_gathered.mp member).2.2
  have upper : contest.aim other ≤ contest.aim side :=
    (Shape.gathers_iff_le sameEvents).mp (mem_gathered.mp (contest.anchor_mem_gathered side)).2.2
  have wide : contest.aim side = .combined := by
    rcases Shape.le_iff.mp upper with same | same
    · exact absurd (same ▸ Shape.le_refl _) broader
    · exact same.trans widest
  refine ⟨wide, fun below => ?_⟩
  rcases Shape.le_iff.mp below with same | same
  · have nothing : gathered wanted (kind side) contest.base = [] := by
      apply gathered_eq_nil_of_choose_ne
      intro chosen
      apply broader
      rw [aim, chosen]
      exact below
    rw [same, nothing] at member
    exact absurd member List.not_mem_nil
  · exact narrow (same.trans (contest.broadest side))

end Aims

/-! ## The invariant -/

/-- The call has to do with a listed webhook that its run has gathered, or it has deleted one before
the listing.  An update writes the events that the webhook had at the listing, or it is the one by
which the run rewrites the webhook that it keeps. -/
def InOrder (exchange : Exchange Bool) : Prop :=
  ∀ id, Touches wanted.repository id exchange.call →
    exchange.call = .delete wanted.repository id ∧ id ∉ contest.base.map Webhook.id ∨
    ∃ hook ∈ gathered wanted (contest.aim exchange.run) contest.base, hook.id = id ∧
      ∀ name events url, exchange.call = .update wanted.repository id name events url →
        (∃ shape : Shape, events = shape.events ∧ hook.events = shape.events.names) ∨
          exchange.call = contest.rewrite exchange.run

/-- The other side has touched the webhook that a side keeps after this side had rewritten it. -/
def Overridden (history : List (Exchange Bool)) (side : Bool) : Prop :=
  ∃ earlier later, List.Sublist [earlier, later] history ∧ earlier.run = side ∧
    later.run = !side ∧ earlier.call = contest.rewrite side ∧
    Touches wanted.repository (contest.anchor side).id later.call

/-- A side that is for fewer events has touched the webhook that the other one had broadened. -/
def Lost (history : List (Exchange Bool)) : Prop :=
  ∃ side, ¬contest.aim side ≤ contest.aim !side ∧ contest.Overridden history side

variable (race : Race Bool (Except Failure (Option Webhook)))

/-- The webhook that a side keeps is there, and it is as it should be. -/
structure Sure (side : Bool) : Prop where
  settled : fits wanted (contest.aim side) (contest.anchor side) = true ∨
    ∃ exchange ∈ race.history, exchange.run = side ∧ exchange.call = contest.rewrite side
  present : ∃ hook ∈ race.store.webhooks wanted.repository,
    hook.id = (contest.anchor side).id ∧ fits wanted (contest.aim side) hook = true

/-- Some side keeps a webhook for all events of a shape, unless events have been lost. -/
def Secured (shape : Shape) : Prop :=
  (∃ side, shape ≤ contest.aim side ∧ contest.Sure race side) ∨ contest.Lost race.history

/-- How far a side has come. -/
inductive Stance (side : Bool) : Session (Except Failure (Option Webhook)) → Prop where
  | rewriting
      (none : ∀ exchange ∈ race.history, exchange.run = side →
        exchange.call ≠ contest.rewrite side) :
      Stance side
        (rewriting wanted (contest.aim side) (contest.anchor side).id (contest.rest side))
  | deleting {kept : Webhook} {leftover : List Webhook}
      (fit : fits wanted (contest.aim side) kept = true)
      (within : ∀ hook ∈ leftover, hook ∈ contest.rest side)
      (secured : contest.Secured race (contest.aim side))
      (cleared : contest.aim side = .combined →
        ∀ hook ∈ race.store.webhooks wanted.repository, hook.id ∈ contest.ids →
          hook.id = (contest.anchor side).id ∨ hook.id ∈ leftover.map Webhook.id) :
      Stance side (deleteAll wanted.repository (some kept) leftover)

/-- The last call has updated or deleted a webhook that its run has gathered: now the webhook has
the events that the run strives for, or it is not there. -/
structure Touch (before after : Race Bool (Except Failure (Option Webhook)))
    (last : Exchange Bool) (touched : Int64) : Prop where
  grown : after.history = before.history ++ [last]
  touches : Touches wanted.repository touched last.call
  known : ∃ hook ∈ gathered wanted (contest.aim last.run) contest.base, hook.id = touched
  /-- a side touches the webhook that it keeps only once -/
  first : touched = (contest.anchor last.run).id →
    ∀ exchange ∈ before.history, exchange.run = last.run →
      exchange.call ≠ contest.rewrite last.run
  stays : ∀ hook ∈ before.store.webhooks wanted.repository, hook.id ≠ touched →
    hook ∈ after.store.webhooks wanted.repository
  changed : ∀ hook ∈ after.store.webhooks wanted.repository,
    (hook ∈ before.store.webhooks wanted.repository ∧ hook.id ≠ touched) ∨
      (hook.id = touched ∧ hook.events = (contest.aim last.run).events.names ∧
        touched ∈ (before.store.webhooks wanted.repository).map Webhook.id)

variable {contest race}
variable {before after : Race Bool (Except Failure (Option Webhook))} {last : Exchange Bool}

/-! ## Behind another call -/

theorem Overridden.later {history : List (Exchange Bool)} {side : Bool}
    (overridden : contest.Overridden history side) (last : Exchange Bool) :
    contest.Overridden (history ++ [last]) side := by
  obtain ⟨earlier, later, order, rest⟩ := overridden
  exact ⟨earlier, later, order.trans (List.sublist_append_left history [last]), rest⟩

theorem Lost.later {history : List (Exchange Bool)} (lost : contest.Lost history)
    (last : Exchange Bool) : contest.Lost (history ++ [last]) := by
  obtain ⟨side, broader, overridden⟩ := lost
  exact ⟨side, broader, overridden.later last⟩

theorem Secured.mono {shape other : Shape} (below : shape ≤ other)
    (secured : contest.Secured race other) : contest.Secured race shape := by
  rcases secured with ⟨side, upper, sure⟩ | lost
  · exact .inl ⟨side, Shape.le_trans below upper, sure⟩
  · exact .inr lost

section Touch

variable {touched : Int64} (touch : contest.Touch before after last touched)

include touch

/-- A webhook that is not touched stays as it is. -/
theorem Sure.of_ne {side : Bool} (sure : contest.Sure before side)
    (different : (contest.anchor side).id ≠ touched) : contest.Sure after side := by
  obtain ⟨settled, hook, member, sameId, fit⟩ := sure
  refine ⟨?_, hook, touch.stays hook member (sameId ▸ different), sameId, fit⟩
  rcases settled with already | ⟨exchange, inside, written⟩
  · exact .inl already
  · right
    rw [touch.grown]
    exact ⟨exchange, List.mem_append_left [last] inside, written⟩

/-- The webhook that a side keeps is touched by the other side only where that one strives for more,
or else events are lost. -/
theorem Sure.le_or_lost {side : Bool} (sure : contest.Sure before side)
    (other : last.run = !side) (same : (contest.anchor side).id = touched) :
    contest.aim side ≤ contest.aim last.run ∨ contest.Lost after.history := by
  subst same
  obtain ⟨hook, member, sameId⟩ := touch.known
  by_cases below : contest.aim side ≤ contest.aim last.run
  · exact .inl below
  · right
    rcases sure.settled with fit | ⟨earlier, inside, ofSide, rewrites⟩
    · obtain rfl := eq_anchor_of_id_eq member sameId
      exact absurd ((gathers_iff_le_of_fits fit).mp (mem_gathered.mp member).2.2) below
    · refine ⟨side, other ▸ below, earlier, last, ?_, ofSide, other, rewrites, touch.touches⟩
      rw [touch.grown]
      exact (List.singleton_sublist.mpr inside).append (List.Sublist.refl [last])

/-- What is secured stays so, if what the run of the call strives for is secured. -/
theorem Secured.later {shape : Shape} (secured : contest.Secured before shape)
    (own : contest.Secured after (contest.aim last.run)) : contest.Secured after shape := by
  rcases secured with ⟨side, below, sure⟩ | lost
  · by_cases same : (contest.anchor side).id = touched
    · by_cases ofSide : last.run = side
      · exact own.mono (ofSide ▸ below)
      · rcases sure.le_or_lost touch (Bool.eq_not.mpr ofSide) same with upper | lost
        · exact own.mono (Shape.le_trans below upper)
        · exact .inr lost
    · exact .inl ⟨side, below, sure.of_ne touch same⟩
  · right
    rw [touch.grown]
    exact lost.later last

/-- A side is left where it is by what the other side does. -/
theorem Stance.later {side : Bool} {session : Session (Except Failure (Option Webhook))}
    (stance : contest.Stance before side session) (other : last.run ≠ side)
    (own : contest.Secured after (contest.aim last.run)) : contest.Stance after side session := by
  cases stance with
  | rewriting none =>
      apply Stance.rewriting
      rw [touch.grown]
      exact forall_mem_append_singleton none fun ofSide => absurd ofSide other
  | deleting fit within secured cleared =>
      refine .deleting fit within (secured.later touch own) fun wide hook member known => ?_
      rcases touch.changed hook member with ⟨old, _⟩ | ⟨sameId, _, present⟩
      · exact cleared wide hook old known
      · obtain ⟨old, oldListed, sameIdOld⟩ := List.mem_map.mp present
        rw [sameId, ← sameIdOld] at known ⊢
        exact cleared wide old oldListed known

/-- No webhook for triggers has been added by the call. -/
theorem Touch.inside
    (inside : ∀ hook ∈ gathered wanted .combined (before.store.webhooks wanted.repository),
      hook.id ∈ contest.ids) :
    ∀ hook ∈ gathered wanted .combined (after.store.webhooks wanted.repository),
      hook.id ∈ contest.ids := by
  intro hook member
  obtain ⟨listed, own, gathers⟩ := mem_gathered.mp member
  rcases touch.changed hook listed with ⟨old, _⟩ | ⟨sameId, _, _⟩
  · exact inside hook (mem_gathered.mpr ⟨old, own, gathers⟩)
  · obtain ⟨known, gatheredThen, sameIdThen⟩ := touch.known
    rw [sameId, ← sameIdThen]
    exact mem_ids_of_gathered gatheredThen

/-- A webhook that has been touched last by the side that is for fewer events is for these, or it is
not there. -/
theorem Touch.narrowed {side : Bool}
    (narrowed : contest.Overridden before.history side →
      ∀ hook ∈ before.store.webhooks wanted.repository,
        hook.id = (contest.anchor side).id → hook.events = (contest.aim !side).events.names)
    (overridden : contest.Overridden after.history side) {hook : Webhook}
    (member : hook ∈ after.store.webhooks wanted.repository)
    (isAnchor : hook.id = (contest.anchor side).id) :
    hook.events = (contest.aim !side).events.names := by
  obtain ⟨earlier, later, order, ofSide, ofOther, rewrites, touchesLater⟩ := overridden
  rw [touch.grown] at order
  obtain ⟨inside, before⟩ := pair_sublist_append_singleton order
  rcases touch.changed hook member with ⟨oldMember, different⟩ | ⟨sameId, sameEvents, _⟩
  · rcases before with orderBefore | rfl
    · exact narrowed ⟨earlier, later, orderBefore, ofSide, ofOther, rewrites, touchesLater⟩ hook
        oldMember isAnchor
    · exact absurd (isAnchor.trans (touchesLater.id_eq touch.touches)) different
  · by_cases ofLast : last.run = side
    · subst ofLast
      exact absurd rewrites (touch.first (sameId.symm.trans isAnchor) earlier inside ofSide)
    · rw [sameEvents, Bool.eq_not.mpr ofLast]

end Touch

/-! ## Calls that touch a webhook -/

section Calls

variable {run : Bool}

/-- A side rewrites the webhook that it keeps. -/
theorem touch_of_rewrite {answer : Gateway.Answer (contest.rewrite run)} {old : Webhook}
    (distinct : ((before.store.webhooks wanted.repository).map Webhook.id).Nodup)
    (listed : old ∈ before.store.webhooks wanted.repository)
    (sameId : old.id = (contest.anchor run).id)
    (none : ∀ exchange ∈ before.history, exchange.run = run →
      exchange.call ≠ contest.rewrite run)
    (grown : after.history = before.history ++ [⟨run, contest.rewrite run, answer⟩])
    (webhooks : after.store.webhooks wanted.repository =
      rewriteAt wanted (contest.aim run).events old.id (before.store.webhooks wanted.repository)) :
    contest.Touch before after ⟨run, contest.rewrite run, answer⟩ (contest.anchor run).id where
  grown := grown
  touches := ⟨rfl, rfl⟩
  known := ⟨_, contest.anchor_mem_gathered run, rfl⟩
  first := fun _ => none
  stays := by
    intro hook member different
    rw [webhooks]
    refine (mem_rewriteAt distinct listed).mpr (.inr ⟨member, ?_⟩)
    rintro rfl
    exact different sameId
  changed := by
    intro hook member
    rw [webhooks] at member
    rcases (mem_rewriteAt distinct listed).mp member with rfl | ⟨unchanged, different⟩
    · exact .inr ⟨sameId, rfl, sameId ▸ List.mem_map_of_mem listed⟩
    · left
      refine ⟨unchanged, fun same => different ?_⟩
      exact List.inj_on_of_nodup_map distinct unchanged listed (same.trans sameId.symm)

/-- A side deletes another webhook. -/
theorem touch_of_deletion {gone : Webhook}
    {answer : Gateway.Answer (.delete wanted.repository gone.id)} (member : gone ∈ contest.rest run)
    (grown : after.history = before.history ++ [⟨run, .delete wanted.repository gone.id, answer⟩])
    (webhooks : after.store.webhooks wanted.repository =
      (before.store.webhooks wanted.repository).filter fun hook => hook.id ≠ gone.id) :
    contest.Touch before after ⟨run, .delete wanted.repository gone.id, answer⟩ gone.id where
  grown := grown
  touches := ⟨rfl, rfl⟩
  known := ⟨gone, (mem_others.mp member).1, rfl⟩
  first := fun same => absurd same (mem_others.mp member).2
  stays := by
    intro hook listed different
    rw [webhooks]
    exact List.mem_filter.mpr ⟨listed, decide_eq_true different⟩
  changed := by
    intro hook listed
    rw [webhooks] at listed
    obtain ⟨unchanged, different⟩ := List.mem_filter.mp listed
    exact .inl ⟨unchanged, of_decide_eq_true different⟩

/-- The side that has rewritten its webhook keeps it as it should be. -/
theorem sure_of_rewrite {answer : Gateway.Answer (contest.rewrite run)} {old : Webhook}
    (distinct : ((before.store.webhooks wanted.repository).map Webhook.id).Nodup)
    (listed : old ∈ before.store.webhooks wanted.repository)
    (sameId : old.id = (contest.anchor run).id)
    (grown : after.history = before.history ++ [⟨run, contest.rewrite run, answer⟩])
    (webhooks : after.store.webhooks wanted.repository =
      rewriteAt wanted (contest.aim run).events old.id (before.store.webhooks wanted.repository)) :
    contest.Sure after run := by
  constructor
  · right
    rw [grown]
    exact ⟨_, List.mem_append_right _ (List.mem_singleton_self _), rfl, rfl⟩
  · refine ⟨old.rewrittenFor wanted (contest.aim run).events, ?_, sameId,
      Webhook.isUpToDate_rewrittenFor _ _ _⟩
    rw [webhooks]
    exact (mem_rewriteAt distinct listed).mpr (.inl rfl)

/-- What a side has secured stays so when it deletes another webhook: if the other side keeps that
one, it strives for less, or events are lost. -/
theorem Secured.of_deletion {gone : Webhook}
    {answer : Gateway.Answer (.delete wanted.repository gone.id)} (member : gone ∈ contest.rest run)
    (touch : contest.Touch before after ⟨run, .delete wanted.repository gone.id, answer⟩ gone.id)
    (secured : contest.Secured before (contest.aim run)) :
    contest.Secured after (contest.aim run) := by
  rcases secured with ⟨side, below, sure⟩ | lost
  · by_cases same : (contest.anchor side).id = gone.id
    · right
      have spared (other : Bool) (sameAim : contest.aim other = contest.aim run) :
          (contest.anchor other).id ≠ gone.id := by
        rw [anchor_eq_of_aim_eq sameAim]
        exact (mem_others.mp member).2.symm
      have other : run = !side := by
        apply Bool.eq_not.mpr
        rintro rfl
        exact spared run rfl same
      apply (sure.le_or_lost touch other same).resolve_left
      intro upper
      exact spared side (Shape.le_antisymm upper below) same
    · exact .inl ⟨side, below, sure.of_ne touch same⟩
  · right
    rw [touch.grown]
    exact lost.later _

end Calls

end Contest

end WebhookSync.Reconcile
