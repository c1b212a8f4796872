import Mathlib.Data.List.Nodup
import WebhookSync.Gateway.Store
import WebhookSync.Proofs.Events

/-!
# Effects of calls on a store

What a call does to the webhooks and to the next id depends on nothing else that the store holds,
and a call on one repository leaves the webhooks of all others alone.  A repository is numbered when
its webhooks have distinct ids below the next one; calls keep it so as long as ids do not wrap
around.
-/

namespace WebhookSync.Gateway.Store

/-- No kind of call is set to fail. -/
def Calm (store : Store) : Prop :=
  ∀ operation, store.failing operation = false

/-- The store after the effects of calls, without their entries in the journal. -/
def performAll (store : Store) (calls : List Call) : Store :=
  calls.foldl (fun store call => (store.perform call).2) store

/-- The webhooks of a repository have distinct ids, all below the next one. -/
structure Numbered (store : Store) (repository : Repository) : Prop where
  distinct : ((store.webhooks repository).map Webhook.id).Nodup
  below : ∀ hook ∈ store.webhooks repository, hook.id < store.nextId

/-- A call that needs an id does not get the greatest one, behind which ids start again. -/
def HasRoomFor (store : Store) (call : Call) : Prop :=
  call.operation = .create → store.nextId < Int64.maxValue

@[simp]
theorem performAll_nil (store : Store) : store.performAll [] = store :=
  rfl

theorem performAll_cons (store : Store) (call : Call) (calls : List Call) :
    store.performAll (call :: calls) = (store.perform call).2.performAll calls :=
  rfl

theorem performAll_append (store : Store) (first second : List Call) :
    store.performAll (first ++ second) = (store.performAll first).performAll second :=
  List.foldl_append

/-! ## What a call does not look at -/

/-- The effect of a call does not depend on the journal nor on what is set to fail, and changes
neither. -/
theorem perform_with (store : Store) (failing : Operation → Bool) (journal : List Call)
    (call : Call) :
    ({ store with failing, journal } : Store).perform call =
      ((store.perform call).1, { (store.perform call).2 with failing, journal }) := by
  cases call with
  | supportedEvents =>
      rcases store with ⟨hooks, nextId, _ | events, failing, journal⟩ <;> rfl
  | list repository filter => rfl
  | create repository name events url => rfl
  | update repository id name events url =>
      simp only [perform]
      cases (store.webhooks repository).find? (·.id = id) <;> rfl
  | delete repository id =>
      simp only [perform]
      split <;> rfl

theorem failing_perform (store : Store) (call : Call) :
    (store.perform call).2.failing = store.failing :=
  congrArg (fun answered => answered.2.failing)
    (perform_with store store.failing store.journal call)

theorem perform_withJournal (store : Store) (journal : List Call) (call : Call) :
    ({ store with journal } : Store).perform call =
      ((store.perform call).1, { (store.perform call).2 with journal }) := by
  rw [perform_with store store.failing journal call, ← failing_perform store call]

theorem performAll_with (store : Store) (failing : Operation → Bool) (journal : List Call)
    (calls : List Call) :
    ({ store with failing, journal } : Store).performAll calls =
      { store.performAll calls with failing, journal } := by
  induction calls generalizing store with
  | nil => rfl
  | cons call rest ih => rw [performAll_cons, performAll_cons, perform_with, ih]

theorem failing_performAll (store : Store) (calls : List Call) :
    (store.performAll calls).failing = store.failing :=
  congrArg (fun after => after.failing) (performAll_with store store.failing store.journal calls)

theorem performAll_withJournal (store : Store) (journal : List Call) (calls : List Call) :
    ({ store with journal } : Store).performAll calls =
      { store.performAll calls with journal } := by
  have same := performAll_with store store.failing journal calls
  rw [← failing_performAll store calls] at same
  rw [← same, failing_performAll]

theorem capabilities_perform (store : Store) (call : Call) :
    (store.perform call).2.capabilities = store.capabilities := by
  cases call with
  | supportedEvents =>
      rcases store with ⟨hooks, nextId, _ | events, failing, journal⟩ <;> rfl
  | list repository filter => rfl
  | create repository name events url => rfl
  | update repository id name events url =>
      simp only [perform]
      cases (store.webhooks repository).find? (·.id = id) <;> rfl
  | delete repository id =>
      simp only [perform]
      split <;> rfl

theorem capabilities_performAll (store : Store) (calls : List Call) :
    (store.performAll calls).capabilities = store.capabilities := by
  induction calls generalizing store with
  | nil => rfl
  | cons call rest ih => rw [performAll_cons, ih, capabilities_perform]

theorem Calm.perform {store : Store} (calm : store.Calm) (call : Call) :
    (store.perform call).2.Calm := by
  intro operation
  rw [failing_perform]
  exact calm operation

theorem Calm.performAll {store : Store} (calm : store.Calm) (calls : List Call) :
    (store.performAll calls).Calm := by
  intro operation
  rw [failing_performAll]
  exact calm operation

theorem calm_empty : empty.Calm :=
  fun _ => rfl

/-- A call that is no mutation has no effect. -/
theorem perform_of_not_isMutation (store : Store) {call : Call}
    (reads : call.isMutation = false) : (store.perform call).2 = store := by
  cases call with
  | supportedEvents =>
      rcases store with ⟨hooks, nextId, _ | events, failing, journal⟩ <;> rfl
  | list repository filter => rfl
  | create repository name events url => simp [Call.isMutation] at reads
  | update repository id name events url => simp [Call.isMutation] at reads
  | delete repository id => simp [Call.isMutation] at reads

/-- Only mutations count for what calls leave behind. -/
theorem performAll_filter_isMutation (store : Store) (calls : List Call) :
    store.performAll (calls.filter Call.isMutation) = store.performAll calls := by
  induction calls generalizing store with
  | nil => rfl
  | cons call rest ih =>
      cases mutates : call.isMutation with
      | true =>
          rw [List.filter_cons_of_pos mutates, performAll_cons, performAll_cons, ih]
      | false =>
          rw [List.filter_cons_of_neg (by simp [mutates]), performAll_cons,
            perform_of_not_isMutation store mutates, ih]

/-! ## Answers -/

theorem answer_of_passes {store : Store} {call : Call}
    (passes : store.failing call.operation = false) :
    answer call store =
      ((store.perform call).1,
        { (store.perform call).2 with journal := store.journal ++ [call] }) := by
  have effect := perform_with store store.failing (store.journal ++ [call]) call
  simp only [answer, passes, Bool.false_eq_true, if_false, failing_perform]
  exact effect

theorem answer_of_fails {store : Store} {call : Call}
    (fails : store.failing call.operation = true) :
    answer call store =
      (.error (setToFail call), { store with journal := store.journal ++ [call] }) := by
  simp only [answer, fails, if_true]

/-- Every call is written down. -/
theorem journal_answer (store : Store) (call : Call) :
    (answer call store).2.journal = store.journal ++ [call] := by
  cases outcome : store.failing call.operation with
  | true => rw [answer_of_fails outcome]
  | false => rw [answer_of_passes outcome]

/-- A call that is no mutation, or that fails, leaves nothing behind but its entry in the
journal. -/
theorem answer_of_noEffect {store : Store} {call : Call}
    (noEffect : call.isMutation = false ∨ store.failing call.operation = true) :
    (answer call store).2 = { store with journal := store.journal ++ [call] } := by
  cases outcome : store.failing call.operation with
  | true => rw [answer_of_fails outcome]
  | false =>
      rw [answer_of_passes outcome]
      rcases noEffect with reads | fails
      · rw [perform_of_not_isMutation store reads]
      · exact absurd fails (by simp [outcome])

theorem run_ask_of_passes {α : Type} (store : Store) {call : Call}
    (next : Answer call → Session α) (passes : store.failing call.operation = false) :
    store.run (.ask call next) =
      Store.run { (store.perform call).2 with journal := store.journal ++ [call] }
        (next (store.perform call).1) := by
  rw [run, Dialogue.run_ask, answer_of_passes passes]
  rfl

theorem run_ask_of_fails {α : Type} {store : Store} {call : Call} {next : Answer call → Session α}
    (fails : store.failing call.operation = true) :
    store.run (.ask call next) =
      Store.run { store with journal := store.journal ++ [call] }
        (next (.error (setToFail call))) := by
  rw [run, Dialogue.run_ask, answer_of_fails fails]
  rfl

/-- Where a call is answered with a reply, what requires the reply goes on with it. -/
theorem run_require_of_ok {α : Type} {store : Store} {call : Call} {reply : call.Reply}
    {next : call.Reply → Session (Except Failure α)}
    (passes : store.failing call.operation = false)
    (answered : (store.perform call).1 = .ok reply) :
    store.run (.require call next) =
      Store.run { (store.perform call).2 with journal := store.journal ++ [call] }
        (next reply) := by
  rw [Dialogue.require, run_ask_of_passes store _ passes, answered]

theorem run_andThen {α β : Type} (store : Store) (first : Session (Except Failure α))
    (second : α → Session (Except Failure β)) :
    store.run (first.andThen second) =
      match store.run first with
      | (.error failure, after) => (.error failure, after)
      | (.ok result, after) => after.run (second result) := by
  rw [run, Dialogue.andThen, Dialogue.run_bind, run]
  rcases Dialogue.run answer first store with ⟨failure | result, after⟩ <;> rfl

/-! ## What a call does -/

/-- The repository whose webhooks a call can change. -/
def target? : Call → Option Repository
  | .supportedEvents | .list _ _ => none
  | .create repository _ _ _ | .update repository _ _ _ _ | .delete repository _ => some repository

/-- A call leaves the webhooks of other repositories alone. -/
theorem webhooks_perform_of_target_ne (store : Store) {call : Call} {repository : Repository}
    (elsewhere : target? call ≠ some repository) :
    (store.perform call).2.webhooks repository = store.webhooks repository := by
  cases call with
  | supportedEvents => rw [perform_of_not_isMutation store rfl]
  | list other filter => rfl
  | create other name events url =>
      have different : repository ≠ other := fun same => elsewhere (congrArg some same.symm)
      simp [perform, insert, append, setWebhooks, different]
  | update other id name events url =>
      have different : repository ≠ other := fun same => elsewhere (congrArg some same.symm)
      simp only [perform]
      cases (store.webhooks other).find? (·.id = id) with
      | none => rfl
      | some hook => simp [setWebhooks, different]
  | delete other id =>
      have different : repository ≠ other := fun same => elsewhere (congrArg some same.symm)
      simp only [perform]
      split
      · simp [setWebhooks, different]
      · rfl

theorem webhooks_perform_create (store : Store) (repository : Repository) (name : String)
    (events : EventSet) (url : String) :
    (store.perform (.create repository name events url)).2.webhooks repository =
      store.webhooks repository ++ [⟨store.nextId, name, events.names, url, true⟩] := by
  simp [perform, insert, append, setWebhooks]

theorem webhooks_perform_delete (store : Store) (repository : Repository) (id : Int64) :
    (store.perform (.delete repository id)).2.webhooks repository =
      (store.webhooks repository).filter fun hook => hook.id ≠ id := by
  simp only [perform]
  split
  · simp [setWebhooks]
  · rename_i absent
    refine (List.filter_eq_self.mpr fun hook member => ?_).symm
    have different : hook.id ≠ id := by
      intro same
      exact absent (List.any_eq_true.mpr ⟨hook, member, decide_eq_true same⟩)
    exact decide_eq_true different

/-- With distinct ids, changing the first webhook of an id is changing every webhook of the id. -/
theorem updateFirst_eq_map {id : Int64} {change : Webhook → Webhook} {hooks : List Webhook}
    (distinct : (hooks.map Webhook.id).Nodup) :
    updateFirst id change hooks =
      hooks.map fun hook => if hook.id = id then change hook else hook := by
  induction hooks with
  | nil => rfl
  | cons first rest ih =>
      rw [List.map_cons, List.nodup_cons] at distinct
      rw [updateFirst, List.map_cons]
      by_cases same : first.id = id
      · have unchanged : (rest.map fun hook => if hook.id = id then change hook else hook) =
            rest.map fun hook => hook := by
          apply List.map_congr_left
          intro hook member
          apply if_neg
          rintro rfl
          exact distinct.1 (same ▸ List.mem_map_of_mem member)
        rw [if_pos same, if_pos same, unchanged, List.map_id']
      · rw [if_neg same, if_neg same, ih distinct.2]

/-- An update changes the webhook of the id and nothing else. -/
theorem webhooks_perform_update (store : Store) {repository : Repository}
    (distinct : ((store.webhooks repository).map Webhook.id).Nodup) (id : Int64) (name : String)
    (events : EventSet) (url : String) :
    (store.perform (.update repository id name events url)).2.webhooks repository =
      (store.webhooks repository).map fun hook =>
        if hook.id = id then { hook with name, events := events.names, url, active := true }
        else hook := by
  rw [← updateFirst_eq_map distinct]
  simp only [perform]
  cases found : (store.webhooks repository).find? (·.id = id) with
  | none =>
      rw [updateFirst_eq_map distinct, List.map_congr_left, List.map_id]
      intro hook member
      have different := List.find?_eq_none.mp found hook member
      exact if_neg fun same => different (decide_eq_true same)
  | some hook => simp [setWebhooks]

/-- The webhook of an id is found by its id. -/
theorem find?_id_eq_some {hooks : List Webhook} {hook : Webhook}
    (distinct : (hooks.map Webhook.id).Nodup) (member : hook ∈ hooks) :
    hooks.find? (·.id = hook.id) = some hook := by
  induction hooks with
  | nil => exact absurd member List.not_mem_nil
  | cons first rest ih =>
      rw [List.map_cons, List.nodup_cons] at distinct
      rcases List.mem_cons.mp member with rfl | later
      · exact List.find?_cons_of_pos (decide_eq_true rfl)
      · have different : first.id ≠ hook.id := by
          intro same
          exact distinct.1 (same ▸ List.mem_map_of_mem later)
        rw [List.find?_cons_of_neg (by simpa using different), ih distinct.2 later]

/-- An update answers with the webhook as it has become. -/
theorem perform_update_reply (store : Store) {wanted : Subscription} {hook : Webhook}
    (distinct : ((store.webhooks wanted.repository).map Webhook.id).Nodup)
    (member : hook ∈ store.webhooks wanted.repository) (events : EventSet) :
    (store.perform (.update wanted.repository hook.id wanted.name events
      wanted.callbackUrl)).1 = .ok (hook.rewrittenFor wanted events) := by
  simp only [perform, find?_id_eq_some distinct member]
  rfl

theorem perform_delete_reply (store : Store) {repository : Repository} {hook : Webhook}
    (member : hook ∈ store.webhooks repository) :
    (store.perform (.delete repository hook.id)).1 = .ok () := by
  have present : (store.webhooks repository).any (·.id = hook.id) = true :=
    List.any_eq_true.mpr ⟨hook, member, decide_eq_true rfl⟩
  simp only [perform, present, if_true]

theorem webhooks_performAll_of_target_ne {calls : List Call} {repository : Repository}
    (elsewhere : ∀ call ∈ calls, target? call ≠ some repository) (store : Store) :
    (store.performAll calls).webhooks repository = store.webhooks repository := by
  induction calls generalizing store with
  | nil => rfl
  | cons call rest ih =>
      have onward := ih fun later member => elsewhere later (List.mem_cons_of_mem call member)
      rw [performAll_cons, onward,
        webhooks_perform_of_target_ne store (elsewhere call List.mem_cons_self)]

/-! ## Numbered repositories -/

theorem nextId_perform_of_create (store : Store) {call : Call}
    (creates : call.operation = .create) :
    (store.perform call).2.nextId = store.nextId + 1 := by
  cases call with
  | create repository name events url => rfl
  | supportedEvents => exact absurd creates (by simp [Call.operation])
  | list repository filter => exact absurd creates (by simp [Call.operation])
  | update repository id name events url => exact absurd creates (by simp [Call.operation])
  | delete repository id => exact absurd creates (by simp [Call.operation])

/-- Only a creation moves the next id. -/
theorem nextId_perform_of_ne_create (store : Store) {call : Call}
    (other : call.operation ≠ .create) : (store.perform call).2.nextId = store.nextId := by
  cases call with
  | supportedEvents => rw [perform_of_not_isMutation store rfl]
  | list repository filter => rfl
  | create repository name events url => exact absurd rfl other
  | update repository id name events url =>
      simp only [perform]
      cases (store.webhooks repository).find? (·.id = id) <;> rfl
  | delete repository id =>
      simp only [perform]
      split <;> rfl

/-- Below the greatest id, adding one does not wrap around. -/
theorem toInt_add_one {id : Int64} (below : id < Int64.maxValue) :
    (id + 1).toInt = id.toInt + 1 := by
  have upper : id.toInt < Int64.maxValue.toInt := Int64.lt_iff_toInt_lt.mp below
  have lower := id.le_toInt
  rw [show Int64.maxValue.toInt = 9223372036854775807 by decide] at upper
  rw [Int64.toInt_add, show (1 : Int64).toInt = 1 by decide, Int.bmod_eq_of_le] <;> omega

theorem lt_add_one {id : Int64} (below : id < Int64.maxValue) : id < id + 1 := by
  rw [Int64.lt_iff_toInt_lt, toInt_add_one below]
  omega

theorem nextId_le_perform {store : Store} {call : Call} (room : store.HasRoomFor call) :
    store.nextId ≤ (store.perform call).2.nextId := by
  by_cases creates : call.operation = .create
  · rw [nextId_perform_of_create store creates]
    exact Int64.le_of_lt (lt_add_one (room creates))
  · exact Int64.le_of_eq (nextId_perform_of_ne_create store creates).symm

theorem ids_updateFirst {id : Int64} {change : Webhook → Webhook}
    (keepsId : ∀ hook, (change hook).id = hook.id) (hooks : List Webhook) :
    (updateFirst id change hooks).map Webhook.id = hooks.map Webhook.id := by
  induction hooks with
  | nil => rfl
  | cons hook rest ih =>
      rw [updateFirst]
      split
      · rw [List.map_cons, List.map_cons, keepsId]
      · rw [List.map_cons, List.map_cons, ih]

/-- An update keeps the ids. -/
theorem ids_perform_update (store : Store) (repository : Repository) (id : Int64) (name : String)
    (events : EventSet) (url : String) :
    ((store.perform (.update repository id name events url)).2.webhooks repository).map Webhook.id =
      (store.webhooks repository).map Webhook.id := by
  simp only [perform]
  cases (store.webhooks repository).find? (·.id = id) with
  | none => rfl
  | some hook =>
      simp only [setWebhooks, if_true]
      apply ids_updateFirst
      intro old
      rfl

theorem numbered_empty (repository : Repository) : empty.Numbered repository :=
  ⟨List.nodup_nil, fun _ member => absurd member List.not_mem_nil⟩

/-- Being numbered is a matter of the webhooks and the next id. -/
theorem Numbered.congr {store other : Store} {repository : Repository}
    (numbered : store.Numbered repository)
    (sameWebhooks : other.webhooks repository = store.webhooks repository)
    (sameNextId : other.nextId = store.nextId) : other.Numbered repository := by
  constructor
  · rw [sameWebhooks]
    exact numbered.distinct
  · rw [sameWebhooks, sameNextId]
    exact numbered.below

theorem Numbered.create {store : Store} {repository : Repository}
    (numbered : store.Numbered repository) {name : String} {events : EventSet} {url : String}
    (room : store.nextId < Int64.maxValue) :
    (store.perform (.create repository name events url)).2.Numbered repository := by
  constructor
  · rw [webhooks_perform_create, List.map_append, List.nodup_append]
    refine ⟨numbered.distinct, List.nodup_singleton _, ?_⟩
    intro id member fresh freshMember same
    obtain ⟨hook, hookMember, rfl⟩ := List.mem_map.mp member
    have isNext : hook.id = store.nextId := same.trans (List.mem_singleton.mp freshMember)
    exact Int64.lt_irrefl (isNext ▸ numbered.below hook hookMember)
  · intro hook member
    rw [webhooks_perform_create, List.mem_append, List.mem_singleton] at member
    rcases member with old | rfl
    · exact Int64.lt_trans (numbered.below hook old) (lt_add_one room)
    · exact lt_add_one room

theorem Numbered.update {store : Store} {repository : Repository}
    (numbered : store.Numbered repository) {id : Int64} {name : String} {events : EventSet}
    {url : String} :
    (store.perform (.update repository id name events url)).2.Numbered repository := by
  have sameIds := ids_perform_update store repository id name events url
  constructor
  · exact sameIds ▸ numbered.distinct
  · intro hook member
    obtain ⟨old, oldMember, sameId⟩ := List.mem_map.mp (sameIds ▸ List.mem_map_of_mem member)
    rw [nextId_perform_of_ne_create store (by simp [Call.operation]), ← sameId]
    exact numbered.below old oldMember

theorem Numbered.delete {store : Store} {repository : Repository}
    (numbered : store.Numbered repository) {id : Int64} :
    (store.perform (.delete repository id)).2.Numbered repository := by
  constructor
  · rw [webhooks_perform_delete]
    exact numbered.distinct.sublist (List.filter_sublist.map _)
  · intro hook member
    rw [webhooks_perform_delete] at member
    rw [nextId_perform_of_ne_create store (by simp [Call.operation])]
    exact numbered.below hook (List.mem_of_mem_filter member)

/-- A repository stays numbered, whatever is called. -/
theorem Numbered.perform {store : Store} {repository : Repository}
    (numbered : store.Numbered repository) {call : Call} (room : store.HasRoomFor call) :
    (store.perform call).2.Numbered repository := by
  by_cases target : target? call = some repository
  · cases call with
    | supportedEvents => exact absurd target.symm (Option.some_ne_none repository)
    | list other filter => exact absurd target.symm (Option.some_ne_none repository)
    | create other name events url =>
        obtain rfl : other = repository := Option.some.inj target
        exact numbered.create (room rfl)
    | update other id name events url =>
        obtain rfl : other = repository := Option.some.inj target
        exact numbered.update
    | delete other id =>
        obtain rfl : other = repository := Option.some.inj target
        exact numbered.delete
  · have same := webhooks_perform_of_target_ne store target
    constructor
    · rw [same]
      exact numbered.distinct
    · intro hook member
      rw [same] at member
      exact Int64.lt_of_lt_of_le (numbered.below hook member) (nextId_le_perform room)

/-- Calls that create nothing leave the next id as it is. -/
theorem nextId_performAll {calls : List Call} (others : ∀ call ∈ calls, call.operation ≠ .create)
    (store : Store) : (store.performAll calls).nextId = store.nextId := by
  induction calls generalizing store with
  | nil => rfl
  | cons call rest ih =>
      rw [performAll_cons, ih fun later member => others later (List.mem_cons_of_mem call member),
        nextId_perform_of_ne_create store (others call List.mem_cons_self)]

theorem Numbered.performAll {repository : Repository} {calls : List Call}
    (others : ∀ call ∈ calls, call.operation ≠ .create) {store : Store}
    (numbered : store.Numbered repository) : (store.performAll calls).Numbered repository := by
  induction calls generalizing store with
  | nil => exact numbered
  | cons call rest ih =>
      apply ih fun later member => others later (List.mem_cons_of_mem call member)
      apply numbered.perform
      exact fun creates => absurd creates (others call List.mem_cons_self)

end WebhookSync.Gateway.Store
