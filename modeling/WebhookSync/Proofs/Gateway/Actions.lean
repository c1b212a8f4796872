import WebhookSync.Proofs.Gateway.Effects

/-!
# Actions on a store

A store in memory is prepared and called.  For the ids in it, an action says two things: which ids
come to a repository (`Action.arrivals`), and that it leaves no other id behind than those and the
ones that were there (`Action.ids_take`).  A store is sound when the ids of all its repositories are
distinct and below the next one, and every admissible action keeps it so.
-/

namespace WebhookSync.Gateway

/-- What can be done with a store in memory. -/
inductive Action where
  | insert (repository : Repository) (name : String) (events : NameSet) (url : String)
      (active : Bool)
  | insertWebhook (repository : Repository) (hook : Webhook)
  | setSupportedEvents (events : EventSet)
  | setCapabilityMissing
  | failOn (operation : Operation)
  | call (call : Call)

/-- The ids of all repositories are distinct, and they are below the next one, which is positive. -/
structure Store.Sound (store : Store) : Prop where
  numbered : ∀ repository, store.Numbered repository
  apart : ∀ {first second}, first ≠ second → ∀ hook ∈ store.webhooks first,
    ∀ other ∈ store.webhooks second, hook.id ≠ other.id
  positive : 1 ≤ store.nextId

theorem Store.sound_empty : Store.empty.Sound where
  numbered := numbered_empty
  apart := fun _ _ member => absurd member List.not_mem_nil
  positive := by decide

/-- A call that comes back with a failure leaves nothing behind but its entry in the journal. -/
theorem Store.answer_of_error {store : Store} {call : Call} {failure : Failure}
    (fails : (answer call store).1 = .error failure) :
    (answer call store).2 = { store with journal := store.journal ++ [call] } := by
  cases outcome : store.failing call.operation with
  | true => exact answer_of_noEffect (.inr outcome)
  | false =>
      rw [answer_of_passes outcome] at fails ⊢
      have unchanged : (store.perform call).2 = store := by
        cases call with
        | supportedEvents => exact perform_of_not_isMutation store rfl
        | list repository filter => rfl
        | create repository name events url => cases fails
        | update repository id name events url =>
            simp only [perform] at fails ⊢
            split at fails
            · rfl
            · cases fails
        | delete repository id =>
            simp only [perform] at fails ⊢
            split at fails
            · cases fails
            · rename_i absent
              rw [if_neg absent]
      rw [unchanged]

namespace Action

/-- The store behind an action.  A webhook with the greatest id is not taken in. -/
def take (store : Store) : Action → Store
  | insert repository name events url active =>
      (store.insert repository name events url active).2
  | insertWebhook repository hook => (store.insertWebhook? repository hook).getD store
  | setSupportedEvents events => store.setSupportedEvents events
  | setCapabilityMissing => store.setCapabilityMissing
  | failOn operation => store.failOn operation
  | call asked => (Store.answer asked store).2

/-- The fresh id with which an action comes back. -/
def handsOut? (store : Store) : Action → Option Int64
  | insert repository name events url active =>
      some (store.insert repository name events url active).1.id
  | call (.create repository name events url) =>
      match (Store.answer (.create repository name events url) store).1 with
      | .ok hook => some hook.id
      | .error _ => none
  | _ => none

/-- A webhook is taken in under its own id only if there is an id behind it and no repository has
the id at that moment. -/
def Admissible (store : Store) : Action → Prop
  | insertWebhook _ hook =>
      hook.id < Int64.maxValue ∧
        ∀ repository, ∀ stored ∈ store.webhooks repository, stored.id ≠ hook.id
  | _ => True

/-- The ids that an action brings to a repository. -/
def arrivals (store : Store) (repository : Repository) : Action → List Int64
  | insert other _ _ _ _ => if other = repository then [store.nextId] else []
  | insertWebhook other hook => if other = repository then [hook.id] else []
  | call (.create other _ _ _) =>
      if other = repository ∧ store.failing .create = false then [store.nextId] else []
  | _ => []

/-! ## What an action does to ids -/

theorem take_insertWebhook {store : Store} {repository : Repository} {hook : Webhook}
    (below : hook.id < Int64.maxValue) :
    take store (insertWebhook repository hook) =
      { store with nextId := max store.nextId (hook.id + 1) }.append repository hook := by
  have notGreatest : hook.id ≠ Int64.maxValue := Int64.ne_of_lt below
  rw [take, Store.insertWebhook?, Store.successor?, if_neg notGreatest]
  rfl

theorem ids_append (store : Store) (repository other : Repository) (hook : Webhook) :
    ((store.append other hook).webhooks repository).map Webhook.id =
      (store.webhooks repository).map Webhook.id ++
        if other = repository then [hook.id] else [] := by
  by_cases same : repository = other
  · subst same
    simp [Store.append, Store.setWebhooks]
  · simp [Store.append, Store.setWebhooks, same, Ne.symm same]

/-- Of the ids of a repository, some may go, and arrivals may come behind those that stay. -/
theorem ids_take {store : Store} {action : Action} (admissible : action.Admissible store)
    (repository : Repository) :
    (((take store action).webhooks repository).map Webhook.id).Sublist
      ((store.webhooks repository).map Webhook.id ++ action.arrivals store repository) := by
  have unchanged : ((store.webhooks repository).map Webhook.id).Sublist
      ((store.webhooks repository).map Webhook.id ++ action.arrivals store repository) :=
    List.sublist_append_left _ _
  cases action with
  | insert other name events url active =>
      exact ids_append _ repository other _ ▸ List.Sublist.refl _
  | insertWebhook other hook =>
      rw [take_insertWebhook admissible.1]
      exact ids_append _ repository other hook ▸ List.Sublist.refl _
  | setSupportedEvents events => exact unchanged
  | setCapabilityMissing => exact unchanged
  | failOn operation => exact unchanged
  | call asked =>
      cases outcome : store.failing asked.operation with
      | true =>
          rw [take, Store.answer_of_fails outcome]
          exact unchanged
      | false =>
          rw [take, Store.answer_of_passes outcome]
          cases asked with
          | supportedEvents =>
              rw [Store.perform_of_not_isMutation store rfl]
              exact unchanged
          | list other filter => exact unchanged
          | create other name events url =>
              have passes : store.failing .create = false := outcome
              simp only [arrivals, passes, and_true]
              exact ids_append _ repository other _ ▸ List.Sublist.refl _
          | update other id name events url =>
              by_cases same : other = repository
              · subst same
                rw [Store.ids_perform_update]
                exact unchanged
              · have elsewhere :
                    Store.target? (.update other id name events url) ≠ some repository :=
                  fun isTarget => same (Option.some.inj isTarget)
                rw [Store.webhooks_perform_of_target_ne store elsewhere]
                exact unchanged
          | delete other id =>
              by_cases same : other = repository
              · subst same
                rw [Store.webhooks_perform_delete]
                exact (List.filter_sublist.map Webhook.id).trans unchanged
              · have elsewhere : Store.target? (.delete other id) ≠ some repository :=
                  fun isTarget => same (Option.some.inj isTarget)
                rw [Store.webhooks_perform_of_target_ne store elsewhere]
                exact unchanged

/-- No more than one id comes at a time, and to one repository only. -/
theorem arrivals_unique {store : Store} {action : Action} {first second : Repository}
    {id other : Int64} (arrives : id ∈ action.arrivals store first)
    (otherArrives : other ∈ action.arrivals store second) : first = second := by
  unfold arrivals at arrives otherArrives
  split at arrives
  · split at arrives <;> split at otherArrives <;> simp_all
  · split at arrives <;> split at otherArrives <;> simp_all
  · split at arrives <;> split at otherArrives <;> simp_all
  · cases arrives

theorem nodup_arrivals (store : Store) (action : Action) (repository : Repository) :
    (action.arrivals store repository).Nodup := by
  unfold arrivals
  split
  · split <;> simp
  · split <;> simp
  · split <;> simp
  · exact List.nodup_nil

/-! ## What an action does to the next id -/

theorem le_max_left (first second : Int64) : first ≤ max first second := by
  change first ≤ if first ≤ second then second else first
  split
  · assumption
  · exact Int64.le_refl first

theorem le_max_right (first second : Int64) : second ≤ max first second := by
  change second ≤ if first ≤ second then second else first
  split
  · exact Int64.le_refl second
  · rename_i above
    exact (Int64.le_total first second).resolve_left above

/-- The next id does not fall, and what comes is below it. -/
theorem nextId_take {store : Store} {action : Action} (admissible : action.Admissible store)
    (room : store.nextId < Int64.maxValue) :
    store.nextId ≤ (take store action).nextId ∧
      ∀ repository, ∀ id ∈ action.arrivals store repository, id < (take store action).nextId := by
  have onward : store.nextId < store.nextId + 1 := Store.lt_add_one room
  cases action with
  | insert other name events url active =>
      refine ⟨Int64.le_of_lt onward, fun repository id arrives => ?_⟩
      obtain rfl : id = store.nextId := by simp_all [arrivals]
      exact onward
  | insertWebhook other hook =>
      rw [take_insertWebhook admissible.1]
      refine ⟨le_max_left _ _, fun repository id arrives => ?_⟩
      obtain rfl : id = hook.id := by simp_all [arrivals]
      exact Int64.lt_of_lt_of_le (Store.lt_add_one admissible.1) (le_max_right _ _)
  | setSupportedEvents events =>
      exact ⟨Int64.le_refl _, fun _ _ arrives => absurd arrives List.not_mem_nil⟩
  | setCapabilityMissing =>
      exact ⟨Int64.le_refl _, fun _ _ arrives => absurd arrives List.not_mem_nil⟩
  | failOn operation =>
      exact ⟨Int64.le_refl _, fun _ _ arrives => absurd arrives List.not_mem_nil⟩
  | call asked =>
      cases outcome : store.failing asked.operation with
      | true =>
          rw [take, Store.answer_of_fails outcome]
          refine ⟨Int64.le_refl _, fun repository id arrives => absurd arrives ?_⟩
          cases asked <;> simp_all [arrivals, Call.operation]
      | false =>
          rw [take, Store.answer_of_passes outcome]
          refine ⟨Store.nextId_le_perform fun _ => room, fun repository id arrives => ?_⟩
          cases asked with
          | create other name events url =>
              obtain rfl : id = store.nextId := by simp_all [arrivals]
              exact onward
          | supportedEvents => exact absurd arrives List.not_mem_nil
          | list other filter => exact absurd arrives List.not_mem_nil
          | update other old name events url => exact absurd arrives List.not_mem_nil
          | delete other old => exact absurd arrives List.not_mem_nil

/-- An id that is handed out was the next one, and comes to some repository. -/
theorem of_handsOut? {store : Store} {action : Action} {id : Int64}
    (handsOut : action.handsOut? store = some id) :
    id = store.nextId ∧ ∃ repository, id ∈ action.arrivals store repository := by
  cases action with
  | insert repository name events url active =>
      obtain rfl := Option.some.inj handsOut
      exact ⟨rfl, repository, by simp [arrivals, Store.insert]⟩
  | insertWebhook repository hook => cases handsOut
  | setSupportedEvents events => cases handsOut
  | setCapabilityMissing => cases handsOut
  | failOn operation => cases handsOut
  | call asked =>
      cases asked with
      | supportedEvents => cases handsOut
      | list repository filter => cases handsOut
      | update repository old name events url => cases handsOut
      | delete repository old => cases handsOut
      | create repository name events url =>
          cases outcome : store.failing .create with
          | true =>
              rw [handsOut?, Store.answer_of_fails outcome] at handsOut
              cases handsOut
          | false =>
              rw [handsOut?, Store.answer_of_passes outcome] at handsOut
              obtain rfl := Option.some.inj handsOut
              exact ⟨rfl, repository, by simp [arrivals, outcome]⟩

/-! ## Soundness -/

section Sound

variable {store : Store} {action : Action}

/-- What comes is in no repository yet. -/
theorem ne_of_arrives (sound : store.Sound) (admissible : action.Admissible store)
    {first second : Repository} {id : Int64} (arrives : id ∈ action.arrivals store first)
    {hook : Webhook} (member : hook ∈ store.webhooks second) : hook.id ≠ id := by
  have isNext : id = store.nextId → hook.id ≠ id := fun same =>
    Int64.ne_of_lt (same ▸ (sound.numbered second).below hook member)
  unfold arrivals at arrives
  split at arrives
  · exact isNext (by simp_all)
  · rename_i other seed
    have same : id = seed.id := by simp_all
    exact same ▸ admissible.2 second hook member
  · exact isNext (by simp_all)
  · cases arrives

/-- A webhook behind an action has an id that was there in its repository or has come there. -/
theorem mem_or_arrives (admissible : action.Admissible store) {repository : Repository}
    {hook : Webhook} (member : hook ∈ (take store action).webhooks repository) :
    (∃ old ∈ store.webhooks repository, old.id = hook.id) ∨
      hook.id ∈ action.arrivals store repository := by
  have isAmong := (ids_take admissible repository).subset (List.mem_map_of_mem member)
  exact (List.mem_append.mp isAmong).imp_left List.mem_map.mp

/-- An admissible action keeps a store sound, as long as there is an id to come. -/
theorem sound_take (sound : store.Sound) (admissible : action.Admissible store)
    (room : store.nextId < Int64.maxValue) : (take store action).Sound := by
  obtain ⟨onward, below⟩ := nextId_take admissible room
  constructor
  · intro repository
    constructor
    · apply List.Nodup.sublist (ids_take admissible repository)
      rw [List.nodup_append]
      refine ⟨(sound.numbered repository).distinct, nodup_arrivals store action repository, ?_⟩
      intro id isOld new arrives
      obtain ⟨hook, member, rfl⟩ := List.mem_map.mp isOld
      exact ne_of_arrives sound admissible arrives member
    · intro hook member
      rcases mem_or_arrives admissible member with ⟨old, isOld, sameId⟩ | arrives
      · rw [← sameId]
        exact Int64.lt_of_lt_of_le ((sound.numbered repository).below old isOld) onward
      · exact below repository hook.id arrives
  · intro first second differ hook member other otherMember
    -- Each of the two was there before or has come; not both have come.
    rcases mem_or_arrives admissible member with ⟨old, isOld, sameId⟩ | arrives
    · rcases mem_or_arrives admissible otherMember with ⟨old', isOld', sameId'⟩ | arrives'
      · rw [← sameId, ← sameId']
        exact sound.apart differ old isOld old' isOld'
      · rw [← sameId]
        exact ne_of_arrives sound admissible arrives' isOld
    · rcases mem_or_arrives admissible otherMember with ⟨old', isOld', sameId'⟩ | arrives'
      · rw [← sameId']
        exact (ne_of_arrives sound admissible arrives isOld').symm
      · exact absurd (arrivals_unique arrives arrives') differ
  · exact Int64.le_trans sound.positive onward

/-- The id of a webhook is free once the webhook has been deleted. -/
theorem admissible_insertWebhook_of_deleted (sound : store.Sound) {repository : Repository}
    {hook : Webhook} (member : hook ∈ store.webhooks repository)
    (passes : store.failing .delete = false) {seed : Webhook} (sameId : seed.id = hook.id)
    (below : seed.id < Int64.maxValue) (other : Repository) :
    Admissible (take store (call (.delete repository hook.id))) (insertWebhook other seed) := by
  refine ⟨below, fun third stored isStored => ?_⟩
  rw [take, Store.answer_of_passes passes] at isStored
  rw [sameId]
  by_cases same : repository = third
  · subst same
    rw [Store.webhooks_perform_delete] at isStored
    exact of_decide_eq_true (List.mem_filter.mp isStored).2
  · have elsewhere : Store.target? (.delete repository hook.id) ≠ some third :=
      fun isTarget => same (Option.some.inj isTarget)
    rw [Store.webhooks_perform_of_target_ne store elsewhere] at isStored
    exact (sound.apart same hook member stored isStored).symm

end Sound

end Action

end WebhookSync.Gateway
