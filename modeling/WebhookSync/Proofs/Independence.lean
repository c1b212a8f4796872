import WebhookSync.Proofs.Reconcile.Beside

/-!
# Mirrors and triggers are independent

A repository may be asked for a mirror and for triggers under one name and address.  As long as no
own webhook listens to both kinds of events, the two reconciliations do not get in each other's way,
however their calls are interleaved: both succeed with the webhook with which each would end alone,
and what they leave behind is what the one leaves behind the other, but for the ids and the order of
the webhooks that they create (`race_independent`).
-/

namespace WebhookSync

/-- A webhook but for its id. -/
def Webhook.unnumbered (hook : Webhook) : Webhook :=
  { hook with id := 0 }

namespace Reconcile

open Gateway (Race Store)

/-- No own webhook listens both to the mirror synchronisation and to some other event. -/
def Unmixed (wanted : Subscription) (hooks : List Webhook) : Prop :=
  ∀ hook ∈ owned wanted hooks, hook.subscribesTo .mirrorSynchronized = true →
    hook.subscribesToAny Event.isRefOrPullRequest = false

theorem unmixed_iff {wanted : Subscription} {hooks : List Webhook} :
    Unmixed wanted hooks ↔ Apart wanted .mirror .combined hooks := by
  constructor
  · intro unmixed hook member
    obtain ⟨own, mirror⟩ := List.mem_filter.mp member
    exact unmixed hook own mirror
  · intro apart hook own mirror
    exact apart hook (List.mem_filter.mpr ⟨own, mirror⟩)

/-! ## The same but for what is created -/

/-- The webhooks are the same, but for the ids and the order of those that were created from an id
on; these stand behind the others. -/
def SameButCreated (first : Int64) (hooks others : List Webhook) : Prop :=
  ∃ old created created', hooks = old ++ created ∧ others = old ++ created' ∧
    (∀ hook ∈ old, hook.id < first) ∧ (∀ hook ∈ created, first ≤ hook.id) ∧
    (∀ hook ∈ created', first ≤ hook.id) ∧
    (created.map Webhook.unnumbered).Perm (created'.map Webhook.unnumbered)

/-- The webhooks are the same, but for the ids if they were created from an id on. -/
def Alike (first : Int64) (hook other : Webhook) : Prop :=
  hook = other ∧ hook.id < first ∨
    first ≤ hook.id ∧ first ≤ other.id ∧ hook.unnumbered = other.unnumbered

theorem Alike.sameButCreated {first : Int64} {hook other : Webhook}
    (alike : Alike first hook other) : SameButCreated first [hook] [other] := by
  rcases alike with ⟨rfl, below⟩ | ⟨above, above', same⟩
  · refine ⟨[hook], [], [], rfl, rfl, ?_, ?_, ?_, List.Perm.refl _⟩ <;> simp [below]
  · refine ⟨[], [hook], [other], rfl, rfl, ?_, ?_, ?_, ?_⟩ <;> simp [above, above', same]

theorem Alike.le_iff {first : Int64} {hook other : Webhook} (alike : Alike first hook other) :
    first ≤ hook.id ↔ first ≤ other.id := by
  rcases alike with ⟨rfl, _⟩ | ⟨above, above', _⟩
  · rfl
  · exact iff_of_true above above'

theorem Alike.unnumbered_eq {first : Int64} {hook other : Webhook}
    (alike : Alike first hook other) : hook.unnumbered = other.unnumbered := by
  rcases alike with ⟨rfl, _⟩ | ⟨_, _, same⟩
  · rfl
  · exact same

/-- With other ids for what is created, a reconciliation comes to a webhook that is alike. -/
theorem outcome_alike {store : Store} {wanted : Subscription} (kind : Shape) {id id' : Int64}
    (numbered : store.Numbered wanted.repository) (above : store.nextId ≤ id)
    (above' : store.nextId ≤ id') :
    Alike store.nextId (outcome wanted kind (store.webhooks wanted.repository) id)
      (outcome wanted kind (store.webhooks wanted.repository) id') := by
  unfold outcome
  cases found : anchor? wanted (choose wanted kind (store.webhooks wanted.repository))
      (store.webhooks wanted.repository) with
  | none => exact .inr ⟨above, above', rfl⟩
  | some anchor =>
      left
      exact ⟨rfl, numbered.below anchor (mem_gathered.mp (anchor_mem found)).1⟩

/-! ## Lists with the same old webhooks -/

/-- Some of distinct ids, in their order, are those that pass the test to be among them. -/
theorem eq_filter_of_sublist {ids before : List Int64} (distinct : before.Nodup)
    (ordered : ids.Sublist before) : ids = before.filter (· ∈ ids) := by
  have all : ids.filter (· ∈ ids) = ids := by
    rw [List.filter_eq_self]
    exact fun id member => decide_eq_true member
  have within := ordered.filter (· ∈ ids)
  rw [all] at within
  apply within.eq_of_length
  apply List.Perm.length_eq
  rw [List.perm_ext_iff_of_nodup (distinct.sublist ordered) (distinct.filter _)]
  intro id
  rw [List.mem_filter, decide_eq_true_iff]
  exact ⟨fun member => ⟨ordered.subset member, member⟩, And.right⟩

/-- Webhooks whose ids stand in one given order are the same lists when they are the same
webhooks. -/
theorem eq_of_ids_sublist {before : List Int64} {hooks others : List Webhook}
    (distinct : before.Nodup) (ordered : (hooks.map Webhook.id).Sublist before)
    (orderedOthers : (others.map Webhook.id).Sublist before)
    (same : ∀ hook, hook ∈ hooks ↔ hook ∈ others) : hooks = others := by
  have distinctHooks := distinct.sublist ordered
  have sameIds : hooks.map Webhook.id = others.map Webhook.id := by
    rw [eq_filter_of_sublist distinct ordered, eq_filter_of_sublist distinct orderedOthers]
    apply List.filter_congr
    intro id _
    rw [decide_eq_decide]
    simp only [List.mem_map, same]
  have found (some : List Webhook) (within : ∀ hook ∈ some, hook ∈ hooks) :
      (some.map Webhook.id).map (fun id => hooks.find? (·.id = id)) = some.map Option.some := by
    rw [List.map_map]
    apply List.map_congr_left
    intro hook member
    exact Store.find?_id_eq_some distinctHooks (within hook member)
  apply List.map_injective_iff.mpr fun _ _ => Option.some.inj
  rw [← found hooks fun _ => id, ← found others fun hook => (same hook).mpr, sameIds]

/-! ## The end of a race -/

section End

variable {wanted : Subscription} {kind : Bool → Shape} {start : Store} {left : Bool → Nat}
  {race : Race Bool (Except Failure (Option Webhook))} {kept : Bool → Webhook}
  {old created : List Webhook} (numbered : start.Numbered wanted.repository)
  (beside : Beside wanted kind start left race)
  (whole : ∀ side,
    Kept wanted (kind side) (race.store.webhooks wanted.repository) (kept side) [])
  (split : race.store.webhooks wanted.repository = old ++ created)
  (below : ∀ hook ∈ old, hook.id < start.nextId)
  (above : ∀ hook ∈ created, start.nextId ≤ hook.id)

include numbered beside in
/-- Old and new webhooks are told apart by their ids. -/
theorem Beside.exists_split :
    ∃ old created, race.store.webhooks wanted.repository = old ++ created ∧
      (old.map Webhook.id).Sublist ((start.webhooks wanted.repository).map Webhook.id) ∧
      (∀ hook ∈ old, hook.id < start.nextId) ∧ ∀ hook ∈ created, start.nextId ≤ hook.id := by
  obtain ⟨old, created, split, ordered, above⟩ := beside.grown
  refine ⟨old, created, split, ordered, fun hook member => ?_, above⟩
  obtain ⟨earlier, listed, same⟩ := List.mem_map.mp (ordered.subset (List.mem_map_of_mem member))
  exact same ▸ numbered.below earlier listed

include beside whole

/-- The two runs keep different webhooks. -/
theorem Beside.kept_ne : kept true ≠ kept false := by
  intro same
  have mirror := not_gathers_of_apart (beside.apart true) (choose_le_broadest wanted (kind true) _)
    (anchor_mem (whole true).anchor)
  have triggers := (mem_gathered.mp (anchor_mem (whole false).anchor)).2.2
  rw [same, Bool.not_true] at mirror
  rw [Shape.gathers_mono (choose_le_broadest wanted (kind false) _) triggers] at mirror
  exact Bool.noConfusion mirror

include split below above

/-- When both runs have ended, the old webhooks are those of before that they keep or leave
alone. -/
theorem Beside.mem_old_iff {hook : Webhook} :
    hook ∈ old ↔ hook.id < start.nextId ∧ ((∃ side, hook = kept side) ∨
      ∀ side, Untouched wanted (kind side) (start.webhooks wanted.repository) hook) := by
  rw [← beside.mem_iff whole, split, List.mem_append]
  constructor
  · exact fun member => ⟨below hook member, .inl member⟩
  · rintro ⟨isOld, member | member⟩
    · exact member
    · exact absurd isOld (Int64.not_lt.mpr (above hook member))

include numbered

/-- When both runs have ended, the new webhooks are those that they have created. -/
theorem Beside.mem_created_iff {hook : Webhook} :
    hook ∈ created ↔ ∃ side, hook = kept side ∧ start.nextId ≤ (kept side).id := by
  have all : hook ∈ race.store.webhooks wanted.repository ↔ _ := beside.mem_iff whole
  rw [split, List.mem_append] at all
  constructor
  · intro member
    rcases all.mp (.inr member) with ⟨side, rfl⟩ | untouched
    · exact ⟨side, rfl, above _ member⟩
    · exact absurd (numbered.below hook (untouched true).1) (Int64.not_lt.mpr (above hook member))
  · rintro ⟨side, rfl, isNew⟩
    rcases all.mpr (.inl ⟨side, rfl⟩) with member | member
    · exact absurd (below _ member) (Int64.not_lt.mpr isNew)
    · exact member

/-- What is created is told by the sides for which something is created. -/
theorem Beside.perm_created :
    created.Perm (([true, false].filter fun side => start.nextId ≤ (kept side).id).map kept) := by
  have different := beside.kept_ne whole
  have injective : Function.Injective kept := by
    rintro (_ | _) (_ | _) same
    · rfl
    · exact absurd same.symm different
    · exact absurd same different
    · rfl
  have distinct := beside.sound.numbered.distinct
  rw [split] at distinct
  have distinctCreated := distinct.sublist ((List.sublist_append_right old created).map Webhook.id)
  have sides : ([true, false].filter fun side => start.nextId ≤ (kept side).id).Nodup :=
    List.Nodup.filter _ (by decide)
  rw [List.perm_ext_iff_of_nodup (distinctCreated.of_map Webhook.id) (sides.map injective)]
  intro hook
  rw [beside.mem_created_iff numbered whole split below above, List.mem_map]
  constructor
  · rintro ⟨side, rfl, isNew⟩
    refine ⟨side, List.mem_filter.mpr ⟨?_, decide_eq_true isNew⟩, rfl⟩
    cases side <;> simp
  · rintro ⟨side, member, rfl⟩
    exact ⟨side, rfl, of_decide_eq_true (List.mem_filter.mp member).2⟩

end End

/-! ## Two races -/

section Races

variable {wanted : Subscription} {kind : Bool → Shape} {start : Store} {left left' : Bool → Nat}
  {race race' : Race Bool (Except Failure (Option Webhook))}
  (numbered : start.Numbered wanted.repository)
  (beside : Beside wanted kind start left race) (beside' : Beside wanted kind start left' race')

include numbered beside beside'

/-- However the calls are interleaved, a run comes to the same webhook, but for the id if it is
created. -/
theorem Beside.alike_of_ended {side : Bool} {result result' : Except Failure (Option Webhook)}
    (ended : race.Ended side result) (ended' : race'.Ended side result') :
    ∃ hook other, result = .ok (some hook) ∧ result' = .ok (some other) ∧
      Alike start.nextId hook other := by
  obtain ⟨id, above, rfl, _⟩ := beside.ended ended
  obtain ⟨id', above', rfl, _⟩ := beside'.ended ended'
  exact ⟨_, _, rfl, rfl, outcome_alike _ numbered above above'⟩

/-- However the calls are interleaved, the same webhooks are left in the end, but for the ids and
the order of those that are created. -/
theorem Beside.sameButCreated (allEnded : ∀ side, ∃ result, race.Ended side result)
    (allEnded' : ∀ side, ∃ result, race'.Ended side result) :
    SameButCreated start.nextId (race.store.webhooks wanted.repository)
      (race'.store.webhooks wanted.repository) := by
  choose result ended using allEnded
  choose result' ended' using allEnded'
  choose id atLeast _ whole using fun side => beside.ended (ended side)
  choose id' atLeast' _ whole' using fun side => beside'.ended (ended' side)
  have alike (side : Bool) :=
    outcome_alike (kind side) numbered (atLeast side) (atLeast' side)
  obtain ⟨old, created, split, ordered, below, above⟩ := beside.exists_split numbered
  obtain ⟨old', created', split', ordered', below', above'⟩ := beside'.exists_split numbered
  have sameOld : old = old' := by
    apply eq_of_ids_sublist numbered.distinct ordered ordered'
    intro hook
    rw [beside.mem_old_iff whole split below above, beside'.mem_old_iff whole' split' below' above']
    apply and_congr_right
    intro isOld
    apply or_congr_left
    apply exists_congr
    intro side
    rcases alike side with ⟨same, _⟩ | ⟨isNew, isNew', _⟩
    · rw [same]
    · constructor
      · rintro rfl
        exact absurd isOld (Int64.not_lt.mpr isNew)
      · rintro rfl
        exact absurd isOld (Int64.not_lt.mpr isNew')
  refine ⟨old, created, created', split, sameOld ▸ split', below, above, above', ?_⟩
  have perm := beside.perm_created numbered whole split below above
  have perm' := beside'.perm_created numbered whole' split' below' above'
  simp only [(alike _).le_iff] at perm
  refine (perm.map Webhook.unnumbered).trans (List.Perm.trans ?_ (perm'.map _).symm)
  rw [List.map_map, List.map_map]
  apply List.Perm.of_eq
  apply List.map_congr_left
  intro side _
  exact (alike side).unnumbered_eq

end Races

/-! ## Every race -/

/-- A subscription with a trigger asks for the events of a shape. -/
theorem exists_kind_of_triggers {wanted : Subscription}
    (triggered : wanted.onRefChange = true ∨ wanted.onPullRequest = true) :
    ∃ kind : Shape, wanted.triggeredEvents = kind.events := by
  rcases triggeredEvents_cases wanted with nothing | asked
  · rcases triggered with onRefChange | onPullRequest
    · have contained : wanted.triggeredEvents.contains .refsChanged =
          (wanted.onRefChange && true || wanted.onPullRequest && false) := rfl
      rw [nothing, onRefChange] at contained
      exact Bool.noConfusion contained
    · have contained : wanted.triggeredEvents.contains .pullRequestOpened =
          (wanted.onRefChange && false || wanted.onPullRequest && true) := rfl
      rw [nothing, onPullRequest, Bool.and_false] at contained
      exact Bool.noConfusion contained
  · exact asked

section Race

variable {store : Store} {mirror triggers : Subscription} {supported : EventSet}
  (calm : store.Calm) (numbered : store.Numbered mirror.repository)
  (room : store.nextId.toInt + 2 ≤ Int64.maxValue.toInt)
  (supports : store.capabilities = some supported)
  (synchronises : supported.contains .mirrorSynchronized = true)
  (isMirror : mirror.mirror = true) (noMirror : triggers.mirror = false)
  (triggered : triggers.onRefChange = true ∨ triggers.onPullRequest = true)
  (sameRepository : triggers.repository = mirror.repository)
  (sameName : triggers.name = mirror.name) (sameUrl : triggers.callbackUrl = mirror.callbackUrl)
  (unmixed : Unmixed mirror (store.webhooks mirror.repository))

include calm numbered room supports synchronises isMirror noMirror triggered sameRepository sameName
  sameUrl unmixed

/-- A mirror and triggers are reconciled side by side. -/
theorem exists_beside :
    ∃ kind left, (kind true).broadest = .mirror ∧ (kind false).broadest = .combined ∧
      (∀ side, left side ≤ (store.webhooks mirror.repository).length + 3) ∧
      Beside mirror kind store left
        (Race.start store fun side => reconcile (bif side then mirror else triggers)) := by
  obtain ⟨shape, asked⟩ := exists_kind_of_triggers triggered
  have broadest := broadest_of_triggeredEvents asked
  have askedMirror : wantedEvents store.capabilities mirror = Shape.mirror.events := by
    simp only [wantedEvents, isMirror, supports, mirrorEvents, synchronises, if_true]
    rfl
  have askedTriggers : wantedEvents store.capabilities triggers = shape.events := by
    simp only [wantedEvents, noMirror, Bool.false_eq_true, if_false]
    exact asked
  obtain ⟨questions, few, openingMirror⟩ := opening_reconcile askedMirror
  obtain ⟨questions', few', openingTriggers⟩ := opening_reconcile askedTriggers
  have apart : Apart mirror Shape.mirror.broadest shape.broadest
      (store.webhooks mirror.repository) := by
    rw [broadest]
    exact unmixed_iff.mp unmixed
  have beside : Beside mirror (fun side => bif side then .mirror else shape) store _
      (Race.start store fun side => reconcile (bif side then mirror else triggers)) :=
    beside_start (fun side => bif side then questions else questions') calm numbered room
    (Bool.forall_bool.mpr ⟨apart.symm, apart⟩)
    (Bool.forall_bool.mpr
      ⟨openingTriggers.congr sameRepository sameName sameUrl, openingMirror⟩)
  refine ⟨_, _, rfl, broadest, ?_, beside⟩
  rintro (_ | _)
  · have calls := length_changes_le mirror shape (store.webhooks mirror.repository)
    simp only [cond_false]
    omega
  · have calls := length_changes_le mirror .mirror (store.webhooks mirror.repository)
    simp only [cond_true]
    omega

/-- A mirror and triggers of one repository, name and address can be reconciled at the same time
where the server supports the synchronisation, nothing is set to fail, ids do not wrap around and no
own webhook listens to both kinds of events.  Each run ends within a number of its own turns, and
with the webhook with which it would end alone; when both have ended, there are the webhooks that
there would be if the triggers had been reconciled behind the mirror, and again none of the own ones
listens to both kinds of events. -/
theorem race_independent {schedule : List Bool} :
    let request (side : Bool) : Subscription := bif side then mirror else triggers
    let race := (Race.start store fun side => reconcile (request side)).play schedule
    let inTurn := ((store.run (reconcile mirror)).2.run (reconcile triggers)).2
    (∀ side, (store.webhooks mirror.repository).length + 3 ≤ schedule.count side →
      ∃ result, race.Ended side result) ∧
    (∀ side result, race.Ended side result →
      ∃ hook alone, result = .ok (some hook) ∧
        (store.run (reconcile (request side))).1 = .ok (some alone) ∧
        SameButCreated store.nextId [hook] [alone]) ∧
    ((∀ side, ∃ result, race.Ended side result) →
      SameButCreated store.nextId (race.store.webhooks mirror.repository)
        (inTurn.webhooks mirror.repository) ∧
      (∀ repository, repository ≠ mirror.repository →
        race.store.webhooks repository = inTurn.webhooks repository) ∧
      Unmixed mirror (race.store.webhooks mirror.repository)) := by
  intro request race inTurn
  obtain ⟨kind, left, isMirrorKind, isTriggersKind, few, beside⟩ := exists_beside calm numbered room
    supports synchronises isMirror noMirror triggered sameRepository sameName sameUrl unmixed
  have distant := distant_of_broadest isMirrorKind isTriggersKind
  have besideThen := beside.play distant schedule
  refine ⟨?_, ?_, ?_⟩
  · intro side long
    exact beside.exists_ended_play distant (Nat.le_trans (few side) long)
  · intro side result ended
    obtain ⟨alone, resultAlone, endedAlone, runAlone⟩ := beside.exists_alone distant side
    obtain ⟨hook, other, isHook, isOther, alike⟩ :=
      besideThen.alike_of_ended numbered (beside.play distant alone) ended endedAlone
    exact ⟨hook, other, isHook, runAlone.trans isOther, alike.sameButCreated⟩
  · intro allEnded
    obtain ⟨sequential, allEndedInTurn, inTurn_eq⟩ := beside.exists_inTurn distant
    have besideInTurn := beside.play distant sequential
    have same : inTurn = ((Race.start store fun side => reconcile (request side)).play
        sequential).store := inTurn_eq.symm
    rw [same]
    refine ⟨besideThen.sameButCreated numbered besideInTurn allEnded allEndedInTurn, ?_, ?_⟩
    · intro repository different
      rw [besideInTurn.elsewhere repository different]
      exact besideThen.elsewhere repository different
    · have apart := besideThen.apart true
      rw [isMirrorKind, Bool.not_true, isTriggersKind] at apart
      exact unmixed_iff.mpr apart

end Race

/-- There is one webhook of each kind too many; the two runs take turns. -/
theorem race_independent_alternating :
    let store := Store.empty.performAll [.create ⟨"P", "r"⟩ "ci" .mirrorSync "https://old",
      .create ⟨"P", "r"⟩ "ci" .refChange "https://old",
      .create ⟨"P", "r"⟩ "ci" .mirrorSync "https://ci",
      .create ⟨"P", "r"⟩ "ci" .refAndPullRequest "https://ci"]
    let mirror : Subscription := ⟨⟨"P", "r"⟩, "ci", "https://ci", true, false, false⟩
    let triggers : Subscription := ⟨⟨"P", "r"⟩, "ci", "https://ci", false, false, true⟩
    let request (side : Bool) : Subscription := bif side then mirror else triggers
    let race := (Race.start store fun side => reconcile (request side)).play
      (List.replicate 7 [true, false]).flatten
    let inTurn := ((store.run (reconcile mirror)).2.run (reconcile triggers)).2
    store.Calm ∧ store.Numbered mirror.repository ∧
      store.nextId.toInt + 2 ≤ Int64.maxValue.toInt ∧ store.capabilities = some .all ∧
      EventSet.all.contains .mirrorSynchronized = true ∧ mirror.mirror = true ∧
      triggers.mirror = false ∧ (triggers.onRefChange = true ∨ triggers.onPullRequest = true) ∧
      triggers.repository = mirror.repository ∧ triggers.name = mirror.name ∧
      triggers.callbackUrl = mirror.callbackUrl ∧
      Unmixed mirror (store.webhooks mirror.repository) ∧
      (∀ side, ∃ hook alone, race.Ended side (.ok (some hook)) ∧
        (store.run (reconcile (request side))).1 = .ok (some alone) ∧
        SameButCreated store.nextId [hook] [alone]) ∧
      SameButCreated store.nextId (race.store.webhooks mirror.repository)
        (inTurn.webhooks mirror.repository) ∧
      Unmixed mirror (race.store.webhooks mirror.repository) := by
  intro store mirror triggers
  have calm : store.Calm := Store.calm_empty.performAll _
  have numbered : store.Numbered mirror.repository := by
    apply Store.Numbered.perform _ fun _ => by decide
    apply Store.Numbered.perform _ fun _ => by decide
    apply Store.Numbered.perform _ fun _ => by decide
    exact (Store.numbered_empty mirror.repository).perform fun _ => by decide
  have room : store.nextId.toInt + 2 ≤ Int64.maxValue.toInt := by decide
  have unmixed : Unmixed mirror (store.webhooks mirror.repository) := by
    unfold Unmixed
    decide
  obtain ⟨ends, comesTo, leaves⟩ := @race_independent store mirror triggers _ calm numbered room
    rfl rfl rfl rfl (.inr rfl) rfl rfl rfl unmixed (List.replicate 7 [true, false]).flatten
  have allEnded := fun side : Bool => ends side (by cases side <;> decide)
  obtain ⟨same, _, unmixedThen⟩ := leaves allEnded
  refine ⟨calm, numbered, room, rfl, rfl, rfl, rfl, .inr rfl, rfl, rfl, rfl, unmixed, ?_, same,
    unmixedThen⟩
  intro side
  obtain ⟨result, ended⟩ := allEnded side
  obtain ⟨hook, alone, rfl, runAlone, sameHook⟩ := comesTo side result ended
  exact ⟨hook, alone, ended, runAlone, sameHook⟩

end Reconcile

end WebhookSync
