import WebhookSync.Proofs.Gateway.Race
import WebhookSync.Proofs.Reconcile.Apart

/-!
# Reconciliations of different kinds side by side

Two reconciliations with one name and address, but for kinds that are apart, race with each other.
Neither notices the other one: each is at every moment where it would be if it were alone, but for
the id of a webhook that it creates (`Beside.play`).  So each comes to its end in its own time, with
the same webhook, and in the end there are the two webhooks and what both leave alone
(`Beside.mem_iff`).
-/

namespace WebhookSync.Reconcile

open Gateway (Call Race Session Store)

/-! ## Old and new webhooks -/

/-- The old webhooks stand in front, in their order, and behind them are those that were created
from an id on. -/
def Grown (before : List Int64) (first : Int64) (hooks : List Webhook) : Prop :=
  ∃ old new, hooks = old ++ new ∧ (old.map Webhook.id).Sublist before ∧
    ∀ hook ∈ new, first ≤ hook.id

section Grown

variable {before : List Int64} {first : Int64} {hooks : List Webhook}

theorem grown_self (hooks : List Webhook) (first : Int64) :
    Grown (hooks.map Webhook.id) first hooks :=
  ⟨hooks, [], (List.append_nil _).symm, List.Sublist.refl _,
    fun _ member => absurd member List.not_mem_nil⟩

theorem Grown.create (grown : Grown before first hooks) {hook : Webhook} (later : first ≤ hook.id) :
    Grown before first (hooks ++ [hook]) := by
  obtain ⟨old, new, rfl, ordered, above⟩ := grown
  refine ⟨old, new ++ [hook], List.append_assoc old new [hook], ordered, fun other member => ?_⟩
  rcases List.mem_append.mp member with inside | last
  · exact above other inside
  · rw [List.mem_singleton.mp last]
    exact later

theorem Grown.filter (grown : Grown before first hooks) (test : Webhook → Bool) :
    Grown before first (hooks.filter test) := by
  obtain ⟨old, new, rfl, ordered, above⟩ := grown
  refine ⟨old.filter test, new.filter test, List.filter_append old new, ?_, fun hook member => ?_⟩
  · exact (List.filter_sublist.map Webhook.id).trans ordered
  · exact above hook (List.mem_of_mem_filter member)

theorem Grown.rewriteAt (grown : Grown before first hooks) (wanted : Subscription)
    (events : EventSet) (id : Int64) :
    Grown before first (rewriteAt wanted events id hooks) := by
  have sameId (hook : Webhook) :
      (if hook.id = id then hook.rewrittenFor wanted events else hook).id = hook.id := by
    split <;> rfl
  obtain ⟨old, new, rfl, ordered, above⟩ := grown
  refine ⟨_, _, List.map_append, ?_, fun hook member => ?_⟩
  · simp only [List.map_map, Function.comp_def, sameId]
    exact ordered
  · obtain ⟨other, inside, rfl⟩ := List.mem_map.mp member
    rw [sameId]
    exact above other inside

/-- A change adds a new webhook behind the others, rewrites one, or takes one away. -/
theorem Due.grown {store : Store} {wanted : Subscription} {kind : Shape} {call : Call}
    {leftover : List Webhook} (numbered : store.Numbered wanted.repository)
    (due : Due wanted kind (store.webhooks wanted.repository) call leftover)
    (later : first ≤ store.nextId)
    (grown : Grown before first (store.webhooks wanted.repository)) :
    Grown before first ((store.perform call).2.webhooks wanted.repository) := by
  cases due with
  | create nothing =>
      rw [webhooks_create]
      exact grown.create later
  | update found unfit =>
      rw [webhooks_update numbered.distinct]
      exact grown.rewriteAt _ _ _
  | delete whole =>
      rw [Store.webhooks_perform_delete]
      exact grown.filter _

end Grown

/-! ## Ids that are still to be taken -/

/-- The number of ids that a reconciliation takes. -/
def idsNeeded (wanted : Subscription) (kind : Shape) (hooks : List Webhook) : Nat :=
  if gathered wanted kind.broadest hooks = [] then 1 else 0

theorem idsNeeded_of_nothing {wanted : Subscription} {kind : Shape} {hooks : List Webhook}
    (nothing : anchor? wanted (choose wanted kind hooks) hooks = none) :
    idsNeeded wanted kind hooks = 1 :=
  if_pos (gathered_choose_eq_nil_iff.mp (anchor?_eq_none_iff.mp nothing))

theorem idsNeeded_of_found {wanted : Subscription} {kind : Shape} {hooks : List Webhook}
    {anchor : Webhook} (found : anchor? wanted (choose wanted kind hooks) hooks = some anchor) :
    idsNeeded wanted kind hooks = 0 := by
  apply if_neg
  intro empty
  rw [anchor?_eq_none_iff.mpr (gathered_choose_eq_nil_iff.mpr empty)] at found
  exact absurd found.symm (Option.some_ne_none anchor)

section Ids

variable {store : Store} {wanted : Subscription} {kind : Shape} {call : Call}
  {leftover : List Webhook}
  (due : Due wanted kind (store.webhooks wanted.repository) call leftover)

include due

/-- There is room for a change if there is room for all ids that are needed. -/
theorem Due.hasRoomFor
    (room : store.nextId.toInt + idsNeeded wanted kind (store.webhooks wanted.repository) ≤
      Int64.maxValue.toInt) : store.HasRoomFor call := by
  intro creates
  cases due with
  | create nothing =>
      rw [idsNeeded_of_nothing nothing] at room
      rw [Int64.lt_iff_toInt_lt]
      omega
  | update found unfit => exact absurd creates (by simp [Call.operation])
  | delete whole => exact absurd creates (by simp [Call.operation])

/-- An id that is taken is no longer needed. -/
theorem Due.idsNeeded_le (numbered : store.Numbered wanted.repository)
    (room : store.HasRoomFor call) :
    (store.perform call).2.nextId.toInt +
        idsNeeded wanted kind ((store.perform call).2.webhooks wanted.repository) ≤
      store.nextId.toInt + idsNeeded wanted kind (store.webhooks wanted.repository) := by
  rw [idsNeeded_of_found (due.kept numbered.distinct).anchor]
  by_cases creates : call.operation = .create
  · cases due with
    | create nothing =>
        rw [idsNeeded_of_nothing nothing, Store.nextId_perform_of_create store creates,
          Store.toInt_add_one (room creates)]
        omega
    | update found unfit => exact absurd creates (by simp [Call.operation])
    | delete whole => exact absurd creates (by simp [Call.operation])
  · rw [Store.nextId_perform_of_ne_create store creates]
    omega

end Ids

/-! ## The invariant -/

/-- No shape of the one kind is below the broadest one of the other. -/
def Distant (kind : Bool → Shape) : Prop :=
  ∀ side, ∀ shape ≤ (kind side).broadest, ¬shape ≤ (kind !side).broadest

/-- A reconciliation comes to the same webhook as with the webhooks at the start, but for the id if
it has created one. -/
def SameOutcome (wanted : Subscription) (kind : Shape) (start : Store) (hooks : List Webhook) :
    Prop :=
  (∀ id, outcome wanted kind hooks id =
      outcome wanted kind (start.webhooks wanted.repository) id) ∨
    ∃ taken, start.nextId ≤ taken ∧ ∀ id, outcome wanted kind hooks id =
      outcome wanted kind (start.webhooks wanted.repository) taken

/-- What is for the mirror is distant from what is for triggers. -/
theorem distant_of_broadest {kind : Bool → Shape} (mirror : (kind true).broadest = .mirror)
    (triggers : (kind false).broadest = .combined) : Distant kind := by
  rintro (_ | _) shape
  · rw [Bool.not_false, mirror, triggers]
    cases shape <;> decide
  · rw [Bool.not_true, mirror, triggers]
    cases shape <;> decide

/-- Two reconciliations with one name and address race with each other, and each is where it would
be if it were alone. -/
structure Beside (wanted : Subscription) (kind : Bool → Shape) (start : Store) (left : Bool → Nat)
    (race : Race Bool (Except Failure (Option Webhook))) : Prop where
  sound : race.Sound wanted.repository
  later : start.nextId ≤ race.store.nextId
  room : ∀ side, race.store.nextId.toInt +
    idsNeeded wanted (kind side) (race.store.webhooks wanted.repository) +
      idsNeeded wanted (kind !side) (race.store.webhooks wanted.repository) ≤ Int64.maxValue.toInt
  apart : ∀ side, Apart wanted (kind side).broadest (kind !side).broadest
    (race.store.webhooks wanted.repository)
  course : ∀ side, Course wanted (kind side) race.store.capabilities
    (race.store.webhooks wanted.repository) (left side) (race.sessions side)
  sameOutcome : ∀ side, SameOutcome wanted (kind side) start (race.store.webhooks wanted.repository)
  untouched : ∀ hook, (∀ side, Untouched wanted (kind side)
      (race.store.webhooks wanted.repository) hook) ↔
    ∀ side, Untouched wanted (kind side) (start.webhooks wanted.repository) hook
  grown : Grown ((start.webhooks wanted.repository).map Webhook.id) start.nextId
    (race.store.webhooks wanted.repository)
  elsewhere : ∀ repository, repository ≠ wanted.repository →
    race.store.webhooks repository = start.webhooks repository

variable {wanted : Subscription} {kind : Bool → Shape} {start : Store} {left : Bool → Nat}
  {race : Race Bool (Except Failure (Option Webhook))} {run : Bool}

/-- Two reconciliations that have not begun are where each would be if it were alone. -/
theorem beside_start {sessions : Bool → Session (Except Failure (Option Webhook))}
    (questions : Bool → Nat) (calm : start.Calm) (numbered : start.Numbered wanted.repository)
    (room : start.nextId.toInt + 2 ≤ Int64.maxValue.toInt)
    (apart : ∀ side, Apart wanted (kind side).broadest (kind !side).broadest
      (start.webhooks wanted.repository))
    (opening : ∀ side,
      Opening wanted (kind side) start.capabilities (questions side) (sessions side)) :
    Beside wanted kind start
      (fun side => questions side +
        (changes wanted (kind side) (start.webhooks wanted.repository)).length)
      (Race.start start sessions) where
  sound := ⟨calm, numbered⟩
  later := Int64.le_refl _
  room := by
    have atMostOne (some : Shape) :
        idsNeeded wanted some (start.webhooks wanted.repository) ≤ 1 := by
      unfold idsNeeded
      split <;> omega
    intro side
    have own := atMostOne (kind side)
    have other := atMostOne (kind !side)
    simp only [Race.start]
    omega
  apart := apart
  course := fun side => .opening (opening side)
  sameOutcome := fun _ => .inl fun _ => rfl
  untouched := fun _ => Iff.rfl
  grown := grown_self _ _
  elsewhere := fun _ _ => rfl

/-! ## Turns -/

section Turn

variable (beside : Beside wanted kind start left race)

include beside

/-- A call that leaves the store alone changes nothing but for the run that makes it. -/
theorem Beside.turn_of_same {call : Call} {rest : Nat}
    {next : Gateway.Answer call → Session (Except Failure (Option Webhook))}
    (asks : race.sessions run = .ask call next) (same : (race.store.perform call).2 = race.store)
    (course : Course wanted (kind run) race.store.capabilities
      (race.store.webhooks wanted.repository) rest (next (race.store.perform call).1)) :
    Beside wanted kind start (Function.update left run rest) (race.turn run) := by
  have turned := Race.turn_of_ask beside.sound.calm asks
  rw [same] at turned
  rw [turned]
  refine
    { sound := ⟨beside.sound.calm, beside.sound.numbered.congr rfl rfl⟩
      later := beside.later
      room := beside.room
      apart := beside.apart
      course := fun side => ?_
      sameOutcome := beside.sameOutcome
      untouched := beside.untouched
      grown := beside.grown
      elsewhere := beside.elsewhere }
  by_cases isRun : side = run
  · subst isRun
    simp only [Function.update_self]
    exact course
  · simp only [Function.update_of_ne isRun]
    exact beside.course side

/-- A change for one kind is not noticed by the reconciliation for the other. -/
theorem Beside.turn_of_due {call : Call} {rest : Nat} {leftover : List Webhook}
    {next : Gateway.Answer call → Session (Except Failure (Option Webhook))}
    (distant : Distant kind) (asks : race.sessions run = .ask call next)
    (due : Due wanted (kind run) (race.store.webhooks wanted.repository) call leftover)
    (course : Course wanted (kind run) race.store.capabilities
      ((race.store.perform call).2.webhooks wanted.repository) rest
        (next (race.store.perform call).1)) :
    Beside wanted kind start (Function.update left run rest) (race.turn run) := by
  have numbered := beside.sound.numbered
  have apart := beside.apart run
  have distantThere := distant run
  have unnoticed := due.gathered_of_apart numbered apart distantThere
  have stillApart := due.stillApart numbered apart distantThere
  have roomBefore := beside.room run
  have room : race.store.HasRoomFor call := due.hasRoomFor (by omega)
  have fewer := due.idsNeeded_le numbered room
  have sameNeed : idsNeeded wanted (kind !run)
      ((race.store.perform call).2.webhooks wanted.repository) =
        idsNeeded wanted (kind !run) (race.store.webhooks wanted.repository) := by
    rw [idsNeeded, idsNeeded, unnoticed]
  have kept := due.kept numbered.distinct
  rw [Race.turn_of_ask beside.sound.calm asks]
  have ofSides {Holds : Bool → Prop} (own : Holds run) (other : Holds !run) :
      ∀ side, Holds side := (Bool.forall_bool' run).mpr ⟨own, other⟩
  refine
    { sound := ⟨beside.sound.calm.perform call, (numbered.perform room).congr rfl rfl⟩
      later := Int64.le_trans beside.later (Store.nextId_le_perform room)
      room := ?_
      apart := ?_
      course := ?_
      sameOutcome := ?_
      untouched := fun hook => ?_
      grown := due.grown numbered beside.later beside.grown
      elsewhere := fun repository different => ?_ }
  · apply ofSides
    · simp only
      omega
    · simp only [Bool.not_not]
      omega
  · apply ofSides
    · exact stillApart
    · rw [Bool.not_not]
      exact stillApart.symm
  · simp only [Store.capabilities_perform]
    apply ofSides
    · simp only [Function.update_self]
      exact course
    · simp only [Function.update_of_ne (show (!run) ≠ run by simp)]
      exact (beside.course !run).of_broadest unnoticed
  · apply ofSides
    · right
      rcases beside.sameOutcome run with same | ⟨taken, above, same⟩
      · refine ⟨race.store.nextId, beside.later, fun id => ?_⟩
        rw [kept.outcome_eq, same]
      · refine ⟨taken, above, fun id => ?_⟩
        rw [kept.outcome_eq, same]
    · simp only [SameOutcome, outcome_of_broadest unnoticed]
      exact beside.sameOutcome !run
  · rw [← beside.untouched hook, Bool.forall_bool' run, Bool.forall_bool' run]
    exact due.untouched_both_iff numbered apart distantThere
  · have other : Store.target? call ≠ some repository := by
      rw [due.target?_eq]
      exact fun same => different (Option.some.inj same).symm
    exact (Store.webhooks_perform_of_target_ne race.store other).trans
      (beside.elsewhere repository different)

/-- A turn brings its run one call closer to the end. -/
theorem Beside.turn (distant : Distant kind) (run : Bool) :
    Beside wanted kind start (Function.update left run (left run - 1)) (race.turn run) := by
  cases asks : race.sessions run with
  | done result =>
      have course := beside.course run
      rw [asks] at course
      have isDone := course.ended.1
      rw [Race.turn_of_ended asks, isDone, Nat.zero_sub, ← isDone, Function.update_eq_self]
      exact beside
  | ask call next =>
      have course := beside.course run
      rw [asks] at course
      obtain ⟨rest, isNext, onward, same | ⟨leftover, due⟩⟩ :=
        course.answered beside.sound.numbered.distinct
      · rw [isNext, Nat.add_sub_cancel]
        rw [same] at onward
        exact beside.turn_of_same asks same onward
      · rw [isNext, Nat.add_sub_cancel]
        exact beside.turn_of_due distant asks due onward

end Turn

/-- Behind every schedule, each run is as many calls closer to the end as it had turns. -/
theorem Beside.play (beside : Beside wanted kind start left race) (distant : Distant kind)
    (schedule : List Bool) :
    Beside wanted kind start (fun side => left side - schedule.count side)
      (race.play schedule) := by
  induction schedule generalizing race left with
  | nil => exact beside
  | cons run rest inductionHypothesis =>
      have onward := inductionHypothesis (beside.turn distant run)
      have sameLeft : (fun side => left side - (run :: rest).count side) = fun side =>
          Function.update left run (left run - 1) side - rest.count side := by
        funext side
        by_cases isRun : side = run
        · subst isRun
          rw [Function.update_self, List.count_cons_self]
          omega
        · rw [Function.update_of_ne isRun, List.count_cons_of_ne (Ne.symm isRun)]
      rw [sameLeft]
      exact onward

/-! ## The end -/

section End

variable (beside : Beside wanted kind start left race)

include beside

/-- A run that makes no more calls has ended. -/
theorem Beside.exists_ended {side : Bool} (nothing : left side = 0) :
    ∃ result, race.Ended side result :=
  (beside.course side).done_of_eq_zero nothing

/-- A run that has had enough turns has ended. -/
theorem Beside.exists_ended_play (distant : Distant kind) {schedule : List Bool} {side : Bool}
    (enough : left side ≤ schedule.count side) :
    ∃ result, (race.play schedule).Ended side result :=
  (beside.play distant schedule).exists_ended (Nat.sub_eq_zero_of_le enough)

/-- Some schedule lets one run have its way alone. -/
theorem Beside.exists_alone (distant : Distant kind) (side : Bool) :
    ∃ schedule result, (race.play schedule).Ended side result ∧
      (race.store.run (race.sessions side)).1 = result := by
  have enough : left side ≤ (List.replicate (left side) side).count side :=
    Nat.le_of_eq List.count_replicate_self.symm
  obtain ⟨result, ended⟩ := beside.exists_ended_play distant enough
  exact ⟨_, result, ended, by rw [Race.run_of_ended_replicate ended]⟩

/-- Some schedule lets one run have its way behind the other. -/
theorem Beside.exists_inTurn (distant : Distant kind) :
    ∃ schedule, (∀ side, ∃ result, (race.play schedule).Ended side result) ∧
      (race.play schedule).store =
        ((race.store.run (race.sessions true)).2.run (race.sessions false)).2 := by
  have enough : left true ≤ (List.replicate (left true) true).count true :=
    Nat.le_of_eq List.count_replicate_self.symm
  obtain ⟨first, endedFirst⟩ := beside.exists_ended_play distant enough
  have runFirst := Race.run_of_ended_replicate endedFirst
  have both (side : Bool) : left side ≤
      (List.replicate (left true) true ++ List.replicate (left false) false).count side := by
    rw [List.count_append]
    cases side <;> simp [List.count_replicate]
  have allEnded := fun side => beside.exists_ended_play distant (both side)
  refine ⟨_, allEnded, ?_⟩
  obtain ⟨second, endedSecond⟩ := allEnded false
  rw [Race.play_append] at endedSecond ⊢
  have runSecond := Race.run_of_ended_replicate endedSecond
  have never : false ∉ List.replicate (left true) true := by
    rw [List.mem_replicate]
    exact fun member => Bool.noConfusion member.2
  rw [Race.sessions_play_of_notMem never] at runSecond
  rw [runFirst, runSecond]

/-- A run that has ended has come to the same webhook as if it were alone, but for the id. -/
theorem Beside.ended {side : Bool} {result : Except Failure (Option Webhook)}
    (ended : race.Ended side result) :
    ∃ id, start.nextId ≤ id ∧
      result =
        .ok (some (outcome wanted (kind side) (start.webhooks wanted.repository) id)) ∧
      Kept wanted (kind side) (race.store.webhooks wanted.repository)
        (outcome wanted (kind side) (start.webhooks wanted.repository) id) [] := by
  have course := beside.course side
  rw [show race.sessions side = .done result from ended] at course
  obtain ⟨_, kept, whole, rfl⟩ := course.ended
  have isOutcome := whole.outcome_eq race.store.nextId
  rcases beside.sameOutcome side with same | ⟨taken, above, same⟩
  · rw [same] at isOutcome
    subst isOutcome
    exact ⟨race.store.nextId, beside.later, rfl, whole⟩
  · rw [same] at isOutcome
    subst isOutcome
    exact ⟨taken, above, rfl, whole⟩

/-- When both runs have ended, there are the webhooks that they keep and what both leave alone. -/
theorem Beside.mem_iff {kept : Bool → Webhook}
    (whole : ∀ side, Kept wanted (kind side) (race.store.webhooks wanted.repository)
      (kept side) []) {hook : Webhook} :
    hook ∈ race.store.webhooks wanted.repository ↔ (∃ side, hook = kept side) ∨
      ∀ side, Untouched wanted (kind side) (start.webhooks wanted.repository) hook := by
  have distinct := beside.sound.numbered.distinct
  rw [← beside.untouched hook]
  constructor
  · intro member
    by_cases isKept : ∃ side, hook = kept side
    · exact .inl isKept
    · right
      intro side
      exact (((whole side).mem_iff distinct).mp member).resolve_left fun same => isKept ⟨side, same⟩
  · rintro (⟨side, rfl⟩ | untouched)
    · exact ((whole side).mem_iff distinct).mpr (.inl rfl)
    · exact (untouched true).1

end End

end WebhookSync.Reconcile
