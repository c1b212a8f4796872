import WebhookSync.Proofs.Reconcile.Contest

/-!
# Rivals

Two reconciliations for different triggers that have listed the same webhooks go on until both have
ended or one fails.  No event is lost before the one that is for fewer events touches the webhook
that the other one has broadened; when it has done so, the webhook is for few events or gone
(`Rivals.narrowed`), and nothing else is left that hears the others.  So behind the two runs all
wanted events are heard just when neither run has overruled the other (`Rivals.heard_iff`).
-/

namespace WebhookSync.Reconcile

open Gateway (Call Exchange Race Store forall_mem_append_singleton mem_of_pair_sublist)

/-! ## One side ahead -/

/-- The call leaves the webhooks alone, or it belongs to the course that a side has taken so far: it
has rewritten the webhook that the side keeps, or deleted one. -/
def Trail (wanted : Subscription) (kind : Shape) (hooks : List Webhook) (side : Bool)
    (exchange : Exchange Bool) : Prop :=
  ∀ id, Touches wanted.repository id exchange.call → exchange.run = side ∧
    ∃ kept leftover, Kept wanted kind hooks kept leftover ∧
      (exchange.call = .delete wanted.repository id ∧ id ∉ hooks.map Webhook.id ∨
        kept.id = id ∧ exchange.call = .update wanted.repository id wanted.name
          (choose wanted kind hooks).events wanted.callbackUrl)

section Trail

variable {store : Store} {wanted : Subscription} {kind : Shape} {side : Bool} {call : Call}
  {leftover : List Webhook}
  (distinct : ((store.webhooks wanted.repository).map Webhook.id).Nodup)
  (due : Due wanted kind (store.webhooks wanted.repository) call leftover)

include distinct due

/-- What a side has done so far still belongs to its course when it makes its next change. -/
theorem Trail.later {exchange : Exchange Bool}
    (trail : Trail wanted kind (store.webhooks wanted.repository) side exchange) :
    Trail wanted kind ((store.perform call).2.webhooks wanted.repository) side exchange := by
  intro id touches
  obtain ⟨ofSide, kept, others, whole, done⟩ := trail id touches
  have wholeThen := due.kept distinct
  refine ⟨ofSide, _, leftover, wholeThen, ?_⟩
  rw [whole.outcome_eq]
  cases due with
  | create nothing => exact absurd (nothing.symm.trans whole.anchor) (by simp)
  | update found unfit =>
      obtain rfl := Option.some.inj (found.symm.trans whole.anchor)
      rw [whole.fit] at unfit
      cases unfit
  | @delete _ gone _ wholeNow =>
      rw [Store.webhooks_perform_delete]
      rcases done with ⟨deletes, absent⟩ | ⟨sameId, updates⟩
      · left
        exact ⟨deletes, fun member => absent ((List.filter_sublist.map _).subset member)⟩
      · right
        rw [choose_deleted wholeNow]
        exact ⟨sameId, updates⟩

theorem trail_of_due {answer : Gateway.Answer call} :
    Trail wanted kind ((store.perform call).2.webhooks wanted.repository) side
      ⟨side, call, answer⟩ := by
  intro id touches
  refine ⟨rfl, _, leftover, due.kept distinct, ?_⟩
  cases due with
  | create nothing => exact touches.elim
  | update found unfit =>
      obtain ⟨_, rfl⟩ := touches
      right
      rw [webhooks_update distinct, choose_rewritten distinct found, outcome, found]
      exact ⟨rfl, rfl⟩
  | delete whole =>
      obtain ⟨_, rfl⟩ := touches
      left
      refine ⟨rfl, fun member => ?_⟩
      obtain ⟨hook, listed, sameId⟩ := List.mem_map.mp member
      rw [Store.webhooks_perform_delete] at listed
      exact of_decide_eq_true (List.mem_filter.mp listed).2 sameId

end Trail

namespace Contest

variable {wanted : Subscription} {kind : Bool → Shape}

/-- Both sides act on their listing, and neither has failed. -/
structure Rivals (contest : Contest wanted kind)
    (race : Race Bool (Except Failure (Option Webhook))) : Prop where
  sound : race.Sound wanted.repository
  stance : ∀ side, contest.Stance race side (race.sessions side)
  /-- no webhook for triggers has been added -/
  inside : ∀ hook ∈ gathered wanted .combined (race.store.webhooks wanted.repository),
    hook.id ∈ contest.ids
  /-- where events have been lost, the webhook is for few events or not there -/
  narrowed : ∀ side, ¬contest.aim side ≤ contest.aim !side →
    contest.Overridden race.history side →
      ∀ hook ∈ race.store.webhooks wanted.repository,
        hook.id = (contest.anchor side).id → hook.events = (contest.aim !side).events.names
  past : ∀ exchange ∈ race.history, contest.InOrder exchange

variable {contest : Contest wanted kind}
  {race before after : Race Bool (Except Failure (Option Webhook))}

/-- Where a side has touched a webhook, it remains to be seen how far this side has come. -/
theorem Rivals.of_touch {last : Exchange Bool} {touched : Int64}
    (touch : contest.Touch before after last touched) (rivals : contest.Rivals before)
    (sound : after.Sound wanted.repository)
    (elsewhere : ∀ side, side ≠ last.run → after.sessions side = before.sessions side)
    (stance : contest.Stance after last.run (after.sessions last.run))
    (own : contest.Secured after (contest.aim last.run)) (inOrder : contest.InOrder last) :
    contest.Rivals after where
  sound := sound
  stance := by
    intro side
    by_cases same : side = last.run
    · exact same ▸ stance
    · rw [elsewhere side same]
      exact (rivals.stance side).later touch (Ne.symm same) own
  inside := touch.inside rivals.inside
  narrowed := by
    intro side broader overridden hook member isAnchor
    exact touch.narrowed (rivals.narrowed side broader) overridden member isAnchor
  past := by
    rw [touch.grown]
    exact forall_mem_append_singleton rivals.past inOrder

/-! ## The beginning of a contest -/

section Start

variable {run side : Bool} (contest : Contest wanted kind)
  (trail : ∀ exchange ∈ race.history, Trail wanted (kind side) contest.base side exchange)

include trail

/-- A webhook that is not up to date has not been rewritten yet. -/
theorem ne_rewrite_of_trail (unfit : fits wanted (contest.aim run) (contest.anchor run) = false)
    (exchange : Exchange Bool) (member : exchange ∈ race.history) (ofRun : exchange.run = run) :
    exchange.call ≠ contest.rewrite run := by
  intro rewrites
  have touches : Touches wanted.repository (contest.anchor run).id exchange.call :=
    rewrites ▸ contest.touches_rewrite run
  obtain ⟨ofSide, kept, leftover, whole, _⟩ := trail exchange member _ touches
  obtain rfl := ofRun.symm.trans ofSide
  obtain rfl := Option.some.inj (whole.anchor.symm.trans (contest.found run))
  exact absurd whole.fit (Bool.eq_false_iff.mp unfit)

/-- The settled course of a side begins with the rewriting, or with the deletions. -/
theorem stance_settle (same : race.store.webhooks wanted.repository = contest.base) :
    contest.Stance race run (settle wanted (kind run) contest.base) := by
  cases fit : fits wanted (contest.aim run) (contest.anchor run) with
  | false =>
      rw [settle_of_unfit (contest.found run) fit]
      exact .rewriting (contest.ne_rewrite_of_trail trail fit)
  | true =>
      rw [settle_of_fit (contest.found run) fit]
      refine .deleting fit (fun _ member => member) ?_ ?_
      · left
        refine ⟨run, Shape.le_refl _, .inl fit, contest.anchor run, ?_, rfl, fit⟩
        rw [same]
        exact (mem_gathered.mp (contest.anchor_mem_gathered run)).1
      · exact fun wide _ _ known => mem_rest_of_mem_ids wide known

/-- What the one side has done before the other one has listed the webhooks is in order. -/
theorem inOrder_of_trail {exchange : Exchange Bool} (member : exchange ∈ race.history) :
    contest.InOrder exchange := by
  intro id touches
  obtain ⟨rfl, kept, leftover, whole, done⟩ := trail exchange member id touches
  rcases done with deleted | ⟨sameId, updates⟩
  · exact .inl deleted
  · right
    refine ⟨kept, anchor_mem whole.anchor, sameId, fun name events url writes => .inl ?_⟩
    rw [updates] at writes
    simp only [Call.update.injEq] at writes
    obtain ⟨_, _, _, rfl, _⟩ := writes
    exact ⟨_, rfl, (Webhook.isUpToDate_iff.mp whole.fit).2.2.2⟩

/-- Two sides that have listed the same webhooks, of which one had begun with its changes, are
rivals. -/
theorem rivals_start (sound : race.Sound wanted.repository)
    (same : race.store.webhooks wanted.repository = contest.base)
    (settles : ∀ run, race.sessions run = settle wanted (kind run) contest.base) :
    contest.Rivals race where
  sound := sound
  stance := by
    intro run
    rw [settles run]
    exact contest.stance_settle trail same
  inside := by
    intro hook member
    rw [same] at member
    exact List.mem_map_of_mem member
  narrowed := by
    rintro side' _ ⟨earlier, later, order, ofSide, ofOther, rewrites, touches⟩
    have touchesEarlier : Touches wanted.repository (contest.anchor side').id earlier.call :=
      rewrites ▸ contest.touches_rewrite side'
    obtain ⟨inside, insideLater⟩ := mem_of_pair_sublist order
    have first := (trail earlier inside _ touchesEarlier).1
    have second := (trail later insideLater _ touches).1
    exact absurd (first.trans second.symm) (Bool.eq_not.mp (ofSide ▸ ofOther)).symm
  past := fun _ member => contest.inOrder_of_trail trail member

end Start

/-! ## Turns -/

section Turn

variable {run : Bool} (rivals : contest.Rivals race) (room : race.HasRoomAt run)

include rivals room

/-- A side rewrites the webhook that it keeps, unless the other side has deleted it. -/
theorem Rivals.turn_rewriting
    (none : ∀ exchange ∈ race.history, exchange.run = run →
      exchange.call ≠ contest.rewrite run)
    (asks : race.sessions run =
      rewriting wanted (contest.aim run) (contest.anchor run).id (contest.rest run)) :
    contest.Rivals (race.turn run) ∨
      ∃ side failure, (race.turn run).Ended side (.error failure) := by
  have distinct := rivals.sound.numbered.distinct
  have replies := perform_update_eq race.store wanted.repository (contest.anchor run).id
    wanted.name (contest.aim run).events wanted.callbackUrl
  cases isPresent : present race.store wanted.repository (contest.anchor run).id with
  | false =>
      rw [isPresent, if_neg Bool.false_ne_true] at replies
      exact .inr ⟨run, _, Race.ended_of_failure rivals.sound.calm asks replies⟩
  | true =>
      left
      rw [isPresent, if_pos rfl] at replies
      obtain ⟨old, listed, sameId⟩ := present_iff.mp isPresent
      have turned := Race.turn_of_reply rivals.sound.calm asks replies
      obtain ⟨answer, grown⟩ : ∃ answer, (race.turn run).history =
          race.history ++ [⟨run, contest.rewrite run, answer⟩] := ⟨_, by rw [turned]; rfl⟩
      have webhooks : (race.turn run).store.webhooks wanted.repository =
          rewriteAt wanted (contest.aim run).events old.id
            (race.store.webhooks wanted.repository) := by
        rw [turned, sameId]
        exact webhooks_update distinct _ _
      have touch := touch_of_rewrite distinct listed sameId none grown webhooks
      have own : contest.Secured (race.turn run) (contest.aim run) :=
        .inl ⟨run, Shape.le_refl _, sure_of_rewrite distinct listed sameId grown webhooks⟩
      refine rivals.of_touch touch (rivals.sound.turn room)
        (fun _ => Race.sessions_turn_of_ne) ?_ own ?_
      · have continues : (race.turn run).sessions run = deleteAll wanted.repository
            (some ⟨(contest.anchor run).id, wanted.name, (contest.aim run).events.names,
              wanted.callbackUrl, true⟩) (contest.rest run) := by
          rw [turned]
          exact Function.update_self _ _ _
        rw [continues]
        refine .deleting (Webhook.isUpToDate_iff.mpr ⟨rfl, rfl, rfl, rfl⟩)
          (fun _ member => member) own ?_
        exact fun wide _ _ known => mem_rest_of_mem_ids wide known
      · rintro id ⟨_, rfl⟩
        right
        exact ⟨_, contest.anchor_mem_gathered run, rfl, fun _ _ _ _ => .inr rfl⟩

/-- A side deletes another webhook, unless the other side has done so. -/
theorem Rivals.turn_deleting {kept gone : Webhook} {leftover : List Webhook}
    (fit : fits wanted (contest.aim run) kept = true)
    (within : ∀ hook ∈ gone :: leftover, hook ∈ contest.rest run)
    (secured : contest.Secured race (contest.aim run))
    (cleared : contest.aim run = .combined →
      ∀ hook ∈ race.store.webhooks wanted.repository, hook.id ∈ contest.ids →
        hook.id = (contest.anchor run).id ∨ hook.id ∈ (gone :: leftover).map Webhook.id)
    (asks : race.sessions run = deleteAll wanted.repository (some kept) (gone :: leftover)) :
    contest.Rivals (race.turn run) ∨
      ∃ side failure, (race.turn run).Ended side (.error failure) := by
  have member := within gone List.mem_cons_self
  have replies := perform_delete_eq race.store wanted.repository gone.id
  cases isPresent : present race.store wanted.repository gone.id with
  | false =>
      rw [isPresent, if_neg Bool.false_ne_true] at replies
      exact .inr ⟨run, _, Race.ended_of_failure rivals.sound.calm asks replies⟩
  | true =>
      left
      rw [isPresent, if_pos rfl] at replies
      have turned := Race.turn_of_reply rivals.sound.calm asks replies
      obtain ⟨answer, grown⟩ : ∃ answer, (race.turn run).history = race.history ++
          [⟨run, .delete wanted.repository gone.id, answer⟩] := ⟨_, by rw [turned]⟩
      have webhooks : (race.turn run).store.webhooks wanted.repository =
          (race.store.webhooks wanted.repository).filter fun hook => hook.id ≠ gone.id := by
        rw [turned]
        exact Store.webhooks_perform_delete race.store wanted.repository gone.id
      have touch := touch_of_deletion member grown webhooks
      have own := secured.of_deletion member touch
      refine rivals.of_touch touch (rivals.sound.turn room)
        (fun _ => Race.sessions_turn_of_ne) ?_ own ?_
      · have continues : (race.turn run).sessions run =
            deleteAll wanted.repository (some kept) leftover := by
          rw [turned]
          exact Function.update_self _ _ _
        rw [continues]
        have withinThen (hook : Webhook) (later : hook ∈ leftover) : hook ∈ contest.rest run :=
          within hook (List.mem_cons_of_mem gone later)
        refine .deleting fit withinThen own fun wide hook listed known => ?_
        rw [webhooks] at listed
        obtain ⟨unchanged, different⟩ := List.mem_filter.mp listed
        apply (cleared wide hook unchanged known).imp_right
        intro among
        exact (List.mem_cons.mp among).resolve_left (of_decide_eq_true different)
      · rintro id ⟨_, rfl⟩
        right
        refine ⟨gone, (mem_others.mp member).1, rfl, fun _ _ _ isUpdate => ?_⟩
        cases isUpdate

/-- Whatever a side does next, both go on acting on their listing, or one of them fails. -/
theorem Rivals.turn : contest.Rivals (race.turn run) ∨
    ∃ side failure, (race.turn run).Ended side (.error failure) := by
  generalize asks : race.sessions run = session
  have stance := rivals.stance run
  rw [asks] at stance
  cases stance with
  | rewriting none => exact rivals.turn_rewriting room none asks
  | @deleting kept leftover fit within secured cleared =>
      cases leftover with
      | nil =>
          left
          rw [Race.turn_of_ended asks]
          exact rivals
      | cons gone rest => exact rivals.turn_deleting room fit within secured cleared asks

end Turn

/-! ## The end -/

section End

/-- A side that has ended has a webhook as it wants it, and has deleted the others. -/
theorem Stance.of_done {side : Bool} {result : Except Failure (Option Webhook)}
    (stance : contest.Stance race side (.done result)) :
    ∃ kept, result = .ok (some kept) ∧ fits wanted (contest.aim side) kept = true ∧
      contest.Secured race (contest.aim side) ∧
      (contest.aim side = .combined → ∀ hook ∈ race.store.webhooks wanted.repository,
        hook.id ∈ contest.ids → hook.id = (contest.anchor side).id) := by
  generalize isDone : Dialogue.done result = session at stance
  cases stance with
  | rewriting none => cases isDone
  | @deleting kept leftover fit within secured cleared =>
      cases leftover with
      | nil =>
          refine ⟨kept, Dialogue.done.inj isDone, fit, secured, fun wide hook listed known => ?_⟩
          exact (cleared wide hook listed known).resolve_right List.not_mem_nil
      | cons gone rest => cases isDone

/-- Lost events are events to which the one side has updated a webhook and which the other side has
overruled. -/
theorem Rivals.overruled_of_lost (rivals : contest.Rivals race)
    (allEnded : ∀ side, ∃ result, race.Ended side (.ok result))
    (lost : contest.Lost race.history) : Overruled wanted.repository race := by
  obtain ⟨side, broader, earlier, later, order, ofSide, ofOther, rewrites, touches⟩ := lost
  obtain ⟨result, ended⟩ := allEnded !side
  have stance := rivals.stance !side
  rw [show race.sessions (!side) = _ from ended] at stance
  obtain ⟨kept, isKept, fit, _, _⟩ := stance.of_done
  obtain rfl := Except.ok.inj isKept
  obtain ⟨event, contained, lacking⟩ := exists_event_of_not_le broader
  have different : earlier.run ≠ later.run := by
    apply Ne.symm
    rw [← Bool.eq_not, ofSide]
    exact ofOther
  refine ⟨earlier, later, order, different, _, _, _, _, rewrites, touches, kept, ofOther ▸ ended,
    event, contained, ?_⟩
  rw [Webhook.subscribesTo_of_events_eq (Webhook.isUpToDate_iff.mp fit).2.2.2]
  exact lacking

/-- If a run has overruled the other one, it has touched the webhook that this one had broadened. -/
theorem Rivals.overridden_of_overruled (rivals : contest.Rivals race)
    (overruled : Overruled wanted.repository race) :
    ∃ side, ¬contest.aim side ≤ contest.aim !side ∧ contest.Overridden race.history side ∧
      contest.anchor side ∈ gathered wanted (contest.aim !side) contest.base := by
  obtain ⟨earlier, later, order, different, id, name, events, url, updates, touches, result, ended,
    event, contained, lacking⟩ := overruled
  have ofOther : later.run = !earlier.run := Bool.eq_not.mpr different.symm
  have stance := rivals.stance later.run
  rw [show race.sessions later.run = _ from ended] at stance
  obtain ⟨kept, isKept, fit, _, _⟩ := stance.of_done
  obtain rfl := Option.some.inj (Except.ok.inj isKept)
  rw [Webhook.subscribesTo_of_events_eq (Webhook.isUpToDate_iff.mp fit).2.2.2] at lacking
  obtain ⟨inside, insideLater⟩ := mem_of_pair_sublist order
  have touchesEarlier : Touches wanted.repository id earlier.call := updates ▸ ⟨rfl, rfl⟩
  rcases rivals.past earlier inside id touchesEarlier with
    ⟨deletes, _⟩ | ⟨hook, member, sameId, writes⟩
  · rw [updates] at deletes
    cases deletes
  have listed := (mem_gathered.mp member).1
  rcases rivals.past later insideLater id touches with
    ⟨_, absent⟩ | ⟨other, otherMember, otherId, _⟩
  · exact absurd (sameId ▸ List.mem_map_of_mem listed) absent
  obtain rfl : other = hook := List.inj_on_of_nodup_map contest.distinct
    (mem_gathered.mp otherMember).1 listed (otherId.trans sameId.symm)
  rcases writes name events url updates with ⟨shape, rfl, sameEvents⟩ | rewrites
  · have below := (Shape.gathers_iff_le sameEvents).mp (mem_gathered.mp otherMember).2.2
    rw [below event contained] at lacking
    cases lacking
  · have same := updates.symm.trans rewrites
    simp only [rewrite, Call.update.injEq] at same
    obtain ⟨_, isAnchor, _, rfl, _⟩ := same
    obtain rfl := eq_anchor_of_id_eq otherMember (sameId.trans isAnchor)
    rw [ofOther] at lacking otherMember
    refine ⟨earlier.run, ?_, ?_, otherMember⟩
    · intro below
      rw [below event contained] at lacking
      cases lacking
    · exact ⟨earlier, later, order, rfl, ofOther, rewrites, isAnchor ▸ touches⟩

/-- Where the webhook that a side had broadened has been touched by the other side, and this one had
gathered it, a wanted event is not heard any more. -/
theorem Rivals.not_heard (rivals : contest.Rivals race) {side : Bool}
    {result : Except Failure (Option Webhook)} (ended : race.Ended side result)
    (broader : ¬contest.aim side ≤ contest.aim !side)
    (overridden : contest.Overridden race.history side)
    (member : contest.anchor side ∈ gathered wanted (contest.aim !side) contest.base) :
    ¬Heard wanted (kind side).events (race.store.webhooks wanted.repository) := by
  intro heard
  obtain ⟨wide, notBelow⟩ := aim_eq_combined broader member
  have stance := rivals.stance side
  rw [show race.sessions side = _ from ended] at stance
  obtain ⟨_, _, _, _, cleared⟩ := stance.of_done
  obtain ⟨event, contained, lacking⟩ := exists_event_of_not_le notBelow
  obtain ⟨hook, listed, _, name, _, subscribes⟩ := heard event contained
  have own : hook.isOwnedBy wanted = true := Webhook.isOwnedBy_iff.mpr (.inl name)
  have isTrigger : event.isRefOrPullRequest = true := by
    have within := Shape.le_trans (contest.kind_le_aim side) (contest.aim_le_combined side) event
      contained
    revert within
    cases event <;> decide
  have gathers : Shape.combined.gathers hook = true :=
    Webhook.subscribesToAny_eq_true_iff.mpr ⟨event, isTrigger, subscribes⟩
  have known := rivals.inside hook (mem_gathered.mpr ⟨listed, own, gathers⟩)
  have sameEvents := rivals.narrowed side broader overridden hook listed
    (cleared wide hook listed known)
  rw [Webhook.subscribesTo_of_events_eq sameEvents, lacking] at subscribes
  cases subscribes

/-- Behind two runs that have ended well, the wanted events are heard just when neither run has
overruled the other. -/
theorem Rivals.heard_iff (rivals : contest.Rivals race)
    (allEnded : ∀ side, ∃ result, race.Ended side (.ok result)) :
    (∀ side, Heard wanted (kind side).events (race.store.webhooks wanted.repository)) ↔
      ¬Overruled wanted.repository race := by
  constructor
  · intro heard overruled
    obtain ⟨side, broader, overridden, member⟩ := rivals.overridden_of_overruled overruled
    obtain ⟨result, ended⟩ := allEnded side
    exact rivals.not_heard ended broader overridden member (heard side)
  · intro notOverruled side
    obtain ⟨result, ended⟩ := allEnded side
    have stance := rivals.stance side
    rw [show race.sessions side = _ from ended] at stance
    obtain ⟨_, _, _, secured, _⟩ := stance.of_done
    rcases secured with ⟨other, below, sure⟩ | lost
    · obtain ⟨hook, listed, _, fit⟩ := sure.present
      exact heard_of_fits (Shape.le_trans (contest.kind_le_aim side) below) listed fit
    · exact absurd (rivals.overruled_of_lost allEnded lost) notOverruled

end End

end Contest

end WebhookSync.Reconcile
