import WebhookSync.Proofs.Reconcile.Peers

/-!
# Racing reconciliations of one subscription

Any number of reconciliations of one subscription may race with each other: each of them acts on a
listing that is out of date, and still they do not get in each other's way for long.  All of them
keep the same webhook, the subscription is covered from the first success on, and what one run
misses, another run has done; whatever is left over, the next reconciliation clears away
(`race_unanimous`).
-/

namespace WebhookSync.Reconcile

open Gateway (Call Race Store)

/-- The bucket on which a reconciliation works that finds these own webhooks, out of the own
webhooks of some moment. -/
def workBucket (events : EventSet) (found own : List Webhook) : List Webhook :=
  let plan := TriggerPlan.choose (events.any Event.isRefChange) (events.any Event.isPullRequest)
    (Buckets.classify found)
  if events.any Event.isMirrorSync then (Buckets.classify own).mirrorSync
  else plan.bucket (Buckets.classify own)

/-- All runs of a race keep the webhook of the id. -/
structure Unanimous {ι : Type} (wanted : Subscription) (events : EventSet)
    (race : Race ι (Except Failure (Option Webhook))) (id : Int64) : Prop where
  /-- where a run has listed a webhook to keep, it is that one -/
  listed : ∀ run hooks, ⟨run, .list wanted.repository Event.all, .ok hooks⟩ ∈ race.history →
    ∀ kind : Shape, events = kind.events → ∀ anchor,
      anchor? wanted (choose wanted kind hooks) hooks = some anchor → anchor.id = id
  /-- no other webhook is rewritten -/
  rewritten : ∀ run other name asked url answer,
    ⟨run, .update wanted.repository other name asked url, answer⟩ ∈ race.history → other = id
  /-- that webhook is never deleted -/
  spared : ∀ run gone answer,
    ⟨run, .delete wanted.repository gone, answer⟩ ∈ race.history → gone ≠ id
  /-- a run that creates none ends with that webhook -/
  ended : ∀ run hook, race.Ended run (.ok (some hook)) →
    (∀ exchange ∈ race.history, exchange.run = run → exchange.call.operation ≠ .create) →
      hook.id = id
  /-- a run fails only where another one was faster in deleting a webhook -/
  failed : ∀ run failure, race.Ended run (.error failure) → ∃ other gone, other ≠ run ∧
    failure = Store.noSuchWebhook gone ∧
      List.Sublist [⟨other, .delete wanted.repository gone, .ok ()⟩,
        ⟨run, .delete wanted.repository gone, .error failure⟩] race.history

/-! ## The end of a run -/

section End

variable {ι : Type} {wanted : Subscription} {kind shape : Shape} {id : Int64}
  {race : Race ι (Except Failure (Option Webhook))} {run : ι}
  {result : Except Failure (Option Webhook)}

/-- A run ends with the webhook that all keep or with one that it has created, or because another
run was faster. -/
theorem Peer.of_done (peer : Peer wanted kind shape id race run (.done result)) :
    (∃ hook, result = .ok (some hook) ∧
      Firm wanted kind shape id (race.store.webhooks wanted.repository) ∧
        (hook.id = id ∨
          ∃ exchange ∈ race.history, exchange.run = run ∧ exchange.call.operation = .create)) ∨
    ∃ other gone, other ≠ run ∧ result = .error (Store.noSuchWebhook gone) ∧
      List.Sublist [⟨other, .delete wanted.repository gone, .ok ()⟩,
        ⟨run, .delete wanted.repository gone, .error (Store.noSuchWebhook gone)⟩]
        race.history := by
  generalize isDone : Dialogue.done result = session at peer
  cases peer with
  | opening opening =>
      obtain ⟨call, next, asks⟩ := opening.asks
      rw [asks] at isDone
      cases isDone
  | creating same firm => cases isDone
  | rewriting leftover => cases isDone
  | @deleting kept others same firm leftover =>
      cases others with
      | nil =>
          left
          exact ⟨kept, Dialogue.done.inj isDone, firm, .inl same⟩
      | cons gone rest => cases isDone
  | created firm made =>
      left
      exact ⟨_, Dialogue.done.inj isDone, firm, .inr ⟨_, made, rfl, rfl⟩⟩
  | missed different order =>
      right
      exact ⟨_, _, different, Dialogue.done.inj isDone, order⟩

/-- As long as there is no webhook to keep, no run has ended. -/
theorem Bare.not_ended (bare : Bare wanted kind race) : ¬race.Ended run result := by
  intro ended
  change race.sessions run = .done result at ended
  rcases bare.peer run with ⟨questions, opening⟩ | asks
  · obtain ⟨call, next, asks⟩ := opening.asks
    rw [asks] at ended
    cases ended
  · rw [asks] at ended
    cases ended

/-- Where every call has to do with the webhook as it should, the runs are unanimous if they end as
they should. -/
theorem unanimous_of_abides (past : ∀ exchange ∈ race.history, Abides wanted kind id exchange)
    (peer : ∀ run result, race.Ended run result →
      Peer wanted kind shape id race run (.done result)) :
    Unanimous wanted kind.events race id where
  listed := by
    intro run hooks member other sameEvents
    rw [← Shape.events_inj sameEvents]
    exact past _ member
  rewritten := fun _ _ _ _ _ _ member => past _ member
  spared := fun _ _ _ member => past _ member
  ended := by
    intro run hook ended createsNone
    rcases (peer run _ ended).of_done with ⟨kept, same, _, kind⟩ | ⟨_, _, _, same, _⟩
    · obtain rfl : hook = kept := Option.some.inj (Except.ok.inj same)
      rcases kind with sameId | ⟨exchange, member, ofRun, creates⟩
      · exact sameId
      · exact absurd creates (createsNone exchange member ofRun)
    · exact absurd same (by simp)
  failed := by
    intro run failure ended
    rcases (peer run _ ended).of_done with ⟨_, same, _⟩ | ⟨other, gone, different, same, order⟩
    · exact absurd same (by simp)
    · obtain rfl := Except.error.inj same
      exact ⟨other, gone, different, rfl, order⟩

theorem Peers.peer_of_ended (peers : Peers wanted kind shape id race)
    (ended : race.Ended run result) : Peer wanted kind shape id race run (.done result) := by
  have peer := peers.peer run
  rwa [show race.sessions run = .done result from ended] at peer

end End

/-! ## The next reconciliation -/

/-- The bucket of a reconciliation is what the chosen shape gathers. -/
theorem workBucket_eq (wanted : Subscription) (kind : Shape) (hooks later : List Webhook) :
    workBucket kind.events (owned wanted hooks) (owned wanted later) =
      gathered wanted (choose wanted kind hooks) later := by
  unfold workBucket
  by_cases isMirror : kind = .mirror
  · subst isMirror
    have chosen : choose wanted .mirror hooks = .mirror :=
      (choose_eq_or wanted .mirror hooks).elim id id
    rw [chosen]
    rfl
  · obtain ⟨bucket, _⟩ := plan_eq_choose wanted isMirror hooks later
    simp only [Shape.any_isMirrorSync, isMirror, decide_false, Bool.false_eq_true, if_false]
    exact bucket

/-- Where there is a webhook to keep, no id is needed. -/
theorem Anchored.hasRoom {store : Store} {wanted : Subscription} {kind shape : Shape} {id : Int64}
    (anchored : Anchored wanted kind shape id (store.webhooks wanted.repository)) :
    HasRoom store wanted kind := by
  obtain ⟨rfl, anchor, found, _⟩ := anchored
  intro call member creates
  simp only [changes, found] at member
  rcases List.mem_append.mp member with isUpdate | isDeletion
  · split at isUpdate
    · exact absurd isUpdate List.not_mem_nil
    · rw [List.mem_singleton.mp isUpdate] at creates
      exact absurd creates (by simp [Call.operation])
  · exact absurd creates (operation_ne_create_of_mem_deletions isDeletion)

/-- A reconciliation leaves one webhook in the bucket on which it works. -/
theorem run_reconcile_workBucket {store : Store} {wanted : Subscription} {kind : Shape}
    (calm : store.Calm) (numbered : store.Numbered wanted.repository)
    (room : HasRoom store wanted kind)
    (asked : wantedEvents store.capabilities wanted = kind.events) :
    ∃ hook after, store.run (reconcile wanted) = (.ok (some hook), after) ∧
      workBucket kind.events (owned wanted (store.webhooks wanted.repository))
        (owned wanted (after.webhooks wanted.repository)) = [hook] := by
  refine ⟨_, _, run_reconcile_of_distinct calm numbered.distinct asked, ?_⟩
  rw [workBucket_eq]
  exact gathered_completed numbered room

/-! ## Every race -/

section Race

variable {ι : Type} [DecidableEq ι] {store : Store} {wanted : Subscription} {events : EventSet}
  {schedule : List ι}

/-- Where nothing is set to fail and ids do not wrap around, the reconciliations of one subscription
that race with each other keep the same webhook, whatever their number and whatever the order of
their calls; from the first success on there is an active webhook with the name and address of the
subscription that listens to all wanted events; and when all have ended, another reconciliation
succeeds and leaves one webhook in the bucket on which it works. -/
theorem race_unanimous (calm : store.Calm) (numbered : store.Numbered wanted.repository)
    (resolved : (store.run (resolveEvents wanted)).1 = .ok events)
    (something : events.isEmpty = false)
    (room : (Race.start store fun _ : ι => reconcile wanted).HasRoom schedule) :
    let start := Race.start store fun _ : ι => reconcile wanted
    let race := start.play schedule
    (∃ id, Unanimous wanted events race id) ∧
    (∀ earlier, earlier <+: schedule → ∀ run result, (start.play earlier).Ended run (.ok result) →
      ∃ hook ∈ race.store.webhooks wanted.repository, hook.active = true ∧
        hook.name = wanted.name ∧ hook.url = wanted.callbackUrl ∧
          ∀ event, events.contains event = true → hook.subscribesTo event = true) ∧
    ((∀ run, ∃ result, race.Ended run result) →
      Nonempty ι ∨ race.store.nextId < Int64.maxValue →
        ∃ hook after, race.store.run (reconcile wanted) = (.ok (some hook), after) ∧
          workBucket events (owned wanted (race.store.webhooks wanted.repository))
            (owned wanted (after.webhooks wanted.repository)) = [hook]) := by
  intro start race
  rw [run_resolveEvents calm] at resolved
  obtain rfl : wantedEvents store.capabilities wanted = events := Except.ok.inj resolved
  obtain ⟨kind, asked⟩ : ∃ kind : Shape, wantedEvents store.capabilities wanted = kind.events := by
    rcases wantedEvents_cases store.capabilities wanted with nothing | shaped
    · rw [nothing] at something
      exact absurd something (by decide)
    · exact shaped
  have askedThen : wantedEvents race.store.capabilities wanted = kind.events := by
    rw [Race.capabilities_play calm schedule]
    exact asked
  have stays (earlier : List ι) (before : earlier <+: schedule) {run : ι}
      {result : Except Failure (Option Webhook)} (ended : (start.play earlier).Ended run result) :
      race.Ended run result := by
    obtain ⟨rest, rfl⟩ := before
    have later := ended.play rest
    rwa [← Race.play_append] at later
  rw [asked]
  rcases bare_or_peers_play calm numbered asked room with bare | ⟨shape, id, peers⟩
  · refine ⟨⟨0, ?_⟩, ?_, ?_⟩
    · have noneEnded : ∀ run result, race.Ended run result →
          Peer wanted kind kind 0 race run (.done result) :=
        fun run result ended => absurd ended bare.not_ended
      exact unanimous_of_abides (fun exchange member => bare.past exchange member 0) noneEnded
    · intro earlier before run result ended
      exact absurd (stays earlier before ended) bare.not_ended
    · rintro allEnded (⟨⟨run⟩⟩ | roomThen)
      · obtain ⟨result, ended⟩ := allEnded run
        exact absurd ended bare.not_ended
      · exact run_reconcile_workBucket bare.sound.calm bare.sound.numbered
          (fun _ _ _ => roomThen) askedThen
  · refine ⟨⟨id, ?_⟩, ?_, ?_⟩
    · exact unanimous_of_abides peers.past fun run result ended => peers.peer_of_ended ended
    · intro earlier before run result ended
      rcases (peers.peer_of_ended (stays earlier before ended)).of_done with
        ⟨_, _, firm, _⟩ | ⟨_, _, _, same, _⟩
      · obtain ⟨shape, below, hook, listed, fit⟩ := firm.covered
        obtain ⟨name, url, active, sameEvents⟩ := Webhook.isUpToDate_iff.mp fit
        exact ⟨hook, listed, active, name, url,
          fun event contained => Shape.subscribesTo_of_le below sameEvents contained⟩
      · exact absurd same (by simp)
    · intro _ _
      exact run_reconcile_workBucket peers.sound.calm peers.sound.numbered peers.anchored.hasRoom
        askedThen

end Race

/-- Two runs find a webhook to be brought up to date and one to be deleted: the second run comes too
late with the deletion. -/
theorem race_unanimous_overtaken :
    let store := Store.empty.performAll [.create ⟨"P", "r"⟩ "ci" .refChange "https://old",
      .create ⟨"P", "r"⟩ "ci" .refChange "https://old"]
    let wanted : Subscription := ⟨⟨"P", "r"⟩, "ci", "https://ci", false, true, false⟩
    let start := Race.start store fun _ : Bool => reconcile wanted
    let race := start.play [true, false, true, false, true, false]
    store.Calm ∧ store.Numbered wanted.repository ∧
      (store.run (resolveEvents wanted)).1 = .ok wanted.triggeredEvents ∧
      wanted.triggeredEvents.isEmpty = false ∧
      start.HasRoom [true, false, true, false, true, false] ∧
      race.Ended false (.error (Store.noSuchWebhook 2)) ∧
      (∃ id, Unanimous wanted wanted.triggeredEvents race id) ∧
      (∃ hook ∈ race.store.webhooks wanted.repository, hook.active = true ∧
        hook.name = wanted.name ∧ hook.url = wanted.callbackUrl ∧
          ∀ event, wanted.triggeredEvents.contains event = true →
            hook.subscribesTo event = true) ∧
      ∃ hook after, race.store.run (reconcile wanted) = (.ok (some hook), after) ∧
        workBucket wanted.triggeredEvents (owned wanted (race.store.webhooks wanted.repository))
          (owned wanted (after.webhooks wanted.repository)) = [hook] := by
  intro store wanted
  have calm : store.Calm := Store.calm_empty.performAll _
  have numbered : store.Numbered wanted.repository := by
    apply Store.Numbered.perform _ fun _ => by decide
    exact (Store.numbered_empty wanted.repository).perform fun _ => by decide
  have resolved : (store.run (resolveEvents wanted)).1 = .ok wanted.triggeredEvents := rfl
  have something : wanted.triggeredEvents.isEmpty = false := by decide
  have room : (Race.start store fun _ : Bool => reconcile wanted).HasRoom
      [true, false, true, false, true, false] := Race.hasRoom_of_le calm (by decide)
  have kept : ((Race.start store fun _ : Bool => reconcile wanted).play
      [true, false, true, false, true, false]).Ended true
        (.ok (some ⟨1, "ci", EventSet.refChange.names, "https://ci", true⟩)) := by
    simp only [store, wanted]
    rfl
  have failed : ((Race.start store fun _ : Bool => reconcile wanted).play
      [true, false, true, false, true, false]).Ended false
        (.error (Store.noSuchWebhook 2)) := by
    simp only [store, wanted]
    rfl
  obtain ⟨unanimous, covered, clears⟩ := race_unanimous calm numbered resolved something room
  refine ⟨calm, numbered, resolved, something, room, failed, unanimous, ?_, clears ?_ (.inl ⟨true⟩)⟩
  · exact covered _ (List.prefix_refl _) true _ kept
  · rintro (_ | _)
    · exact ⟨_, failed⟩
    · exact ⟨_, kept⟩

end WebhookSync.Reconcile
