import Mathlib.Logic.Function.Basic
import WebhookSync.Proofs.Gateway.Effects

/-!
# Races

In a race several sessions are led with one store.  They take turns, in whatever order a schedule
says: at its turn a session makes its next call, which is answered at once.  So a schedule is an
interleaving of the calls, and what holds behind every schedule holds at every moment of every
interleaving.  The history tells which session made which call and what came back.
-/

namespace WebhookSync.Gateway

/-- A call that a run made, and what it came back with. -/
structure Exchange (ι : Type) where
  run : ι
  call : Call
  answer : Answer call

/-- What holds of all calls so far and of the next one holds of all. -/
theorem forall_mem_append_singleton {α : Type} {Holds : α → Prop} {items : List α} {last : α}
    (all : ∀ item ∈ items, Holds item) (lastHolds : Holds last) :
    ∀ item ∈ items ++ [last], Holds item := by
  intro item member
  rcases List.mem_append.mp member with old | new
  · exact all item old
  · exact List.mem_singleton.mp new ▸ lastHolds

/-- Of two calls of which one stands before the other, each is in the history. -/
theorem mem_of_pair_sublist {ι : Type} {history : List (Exchange ι)} {earlier later : Exchange ι}
    (order : List.Sublist [earlier, later] history) : earlier ∈ history ∧ later ∈ history :=
  ⟨order.subset List.mem_cons_self, order.subset (List.mem_cons_of_mem _ List.mem_cons_self)⟩

/-- If one call stands before another in a history that has grown by a call, it was there before,
and the two stood so before or the other one is the new one. -/
theorem pair_sublist_append_singleton {ι : Type} {history : List (Exchange ι)}
    {earlier later last : Exchange ι}
    (order : List.Sublist [earlier, later] (history ++ [last])) :
    earlier ∈ history ∧ (List.Sublist [earlier, later] history ∨ later = last) := by
  obtain ⟨front, back, split, within, atEnd⟩ := List.sublist_append_iff.mp order
  rcases List.sublist_singleton.mp atEnd with rfl | rfl
  · rw [List.append_nil] at split
    have pair : List.Sublist [earlier, later] history := split ▸ within
    exact ⟨(mem_of_pair_sublist pair).1, .inl pair⟩
  · obtain ⟨sameFront, sameLast⟩ :=
      List.append_inj' (show [earlier] ++ [later] = front ++ [last] from split) rfl
    exact ⟨List.singleton_sublist.mp (sameFront ▸ within), .inr (List.singleton_inj.mp sameLast)⟩

/-- A store, and what is left of the sessions that are led with it. -/
structure Race (ι α : Type) where
  store : Store
  sessions : ι → Session α
  /-- the calls so far, the oldest first -/
  history : List (Exchange ι)

namespace Race

variable {ι α : Type}

/-- The race in which no session has made a call yet. -/
def start (store : Store) (sessions : ι → Session α) : Race ι α :=
  ⟨store, sessions, []⟩

/-- The run has come to its end with a result. -/
def Ended (race : Race ι α) (run : ι) (result : α) : Prop :=
  race.sessions run = .done result

/-- The next call of a run, if it makes one, does not take the greatest id. -/
def HasRoomAt (race : Race ι α) (run : ι) : Prop :=
  match race.sessions run with
  | .done _ => True
  | .ask call _ => race.store.HasRoomFor call

theorem hasRoomFor_of_ask {race : Race ι α} {run : ι} {call : Call}
    {next : Answer call → Session α} (room : race.HasRoomAt run)
    (asks : race.sessions run = .ask call next) :
    race.store.HasRoomFor call := by
  simpa only [HasRoomAt, asks] using room

variable [DecidableEq ι]

/-- The race behind the next call of a run.  A run that has ended makes no call. -/
def turn (race : Race ι α) (run : ι) : Race ι α :=
  match race.sessions run with
  | .done _ => race
  | .ask call next =>
      let answered := Store.answer call race.store
      ⟨answered.2, Function.update race.sessions run (next answered.1),
        race.history ++ [⟨run, call, answered.1⟩]⟩

/-- The race behind the turns of a schedule. -/
def play (race : Race ι α) (schedule : List ι) : Race ι α :=
  schedule.foldl turn race

/-- At none of the turns of a schedule do ids wrap around. -/
def HasRoom (race : Race ι α) : List ι → Prop
  | [] => True
  | run :: rest => race.HasRoomAt run ∧ (race.turn run).HasRoom rest

theorem play_cons (race : Race ι α) (run : ι) (rest : List ι) :
    race.play (run :: rest) = (race.turn run).play rest :=
  rfl

theorem play_append (race : Race ι α) (first second : List ι) :
    race.play (first ++ second) = (race.play first).play second :=
  List.foldl_append

/-- What every turn keeps holds behind every schedule. -/
theorem play_induction (Holds : Race ι α → Prop)
    (step : ∀ race run, Holds race → race.HasRoomAt run → Holds (race.turn run))
    {schedule : List ι} {race : Race ι α} (holds : Holds race) (room : race.HasRoom schedule) :
    Holds (race.play schedule) := by
  induction schedule generalizing race with
  | nil => exact holds
  | cons run rest inductionHypothesis =>
      obtain ⟨roomFirst, roomRest⟩ := room
      exact inductionHypothesis (step race run holds roomFirst) roomRest

/-! ## Turns -/

section Turn

variable {race : Race ι α} {run : ι}

theorem turn_of_ended {result : α} (ended : race.Ended run result) : race.turn run = race := by
  simp only [turn, show race.sessions run = .done result from ended]

theorem turn_of_ask {call : Call} {next : Answer call → Session α} (calm : race.store.Calm)
    (asks : race.sessions run = .ask call next) :
    race.turn run =
      ⟨{ (race.store.perform call).2 with journal := race.store.journal ++ [call] },
        Function.update race.sessions run (next (race.store.perform call).1),
        race.history ++ [⟨run, call, (race.store.perform call).1⟩]⟩ := by
  simp only [turn, asks, Store.answer_of_passes (calm call.operation)]

theorem sessions_turn_of_ne {other : ι} (different : other ≠ run) :
    (race.turn run).sessions other = race.sessions other := by
  unfold turn
  split
  · rfl
  · exact Function.update_of_ne different _ _

/-- A turn adds to the history. -/
theorem history_turn : race.history <+: (race.turn run).history := by
  unfold turn
  split
  · exact List.prefix_refl _
  · exact List.prefix_append _ _

/-- A run that has ended stays so. -/
theorem Ended.turn {other : ι} {result : α} (ended : race.Ended other result) :
    (race.turn run).Ended other result := by
  by_cases same : other = run
  · subst same
    rw [turn_of_ended ended]
    exact ended
  · exact (sessions_turn_of_ne same).trans ended

/-- However much happens, a run that has ended stays so. -/
theorem Ended.play {race : Race ι α} {run : ι} {result : α} (ended : race.Ended run result)
    (schedule : List ι) : (race.play schedule).Ended run result := by
  induction schedule generalizing race with
  | nil => exact ended
  | cons next rest inductionHypothesis => exact inductionHypothesis ended.turn

theorem sessions_play_of_notMem {race : Race ι α} {schedule : List ι} {other : ι}
    (never : other ∉ schedule) : (race.play schedule).sessions other = race.sessions other := by
  induction schedule generalizing race with
  | nil => rfl
  | cons run rest inductionHypothesis =>
      rw [List.mem_cons, not_or] at never
      rw [play_cons, inductionHypothesis never.2, sessions_turn_of_ne never.1]

/-- A session that has every turn is led with the store as if there were no others. -/
theorem run_of_ended_replicate {race : Race ι α} {run : ι} {turns : Nat} {result : α}
    (ended : (race.play (List.replicate turns run)).Ended run result) :
    race.store.run (race.sessions run) =
      (result, (race.play (List.replicate turns run)).store) := by
  induction turns generalizing race with
  | zero =>
      rw [show race.sessions run = .done result from ended]
      rfl
  | succ turns inductionHypothesis =>
      rw [List.replicate_succ, play_cons] at ended ⊢
      rw [← inductionHypothesis ended]
      cases asks : race.sessions run with
      | done earlier =>
          rw [turn_of_ended asks, asks]
      | ask call next =>
          simp only [turn, asks, Function.update_self]
          rfl

end Turn

section Require

variable {race : Race ι (Except Failure α)} {run : ι} {call : Call}
  {next : call.Reply → Session (Except Failure α)} (calm : race.store.Calm)
  (asks : race.sessions run = .require call next)

include calm asks

/-- A run that requires a reply goes on when it gets one. -/
theorem turn_of_reply {reply : call.Reply} (answered : (race.store.perform call).1 = .ok reply) :
    race.turn run =
      ⟨{ (race.store.perform call).2 with journal := race.store.journal ++ [call] },
        Function.update race.sessions run (next reply),
        race.history ++ [⟨run, call, .ok reply⟩]⟩ := by
  rw [turn_of_ask calm asks, answered]

/-- A run that requires a reply ends when it gets none. -/
theorem turn_of_failure {failure : Failure}
    (answered : (race.store.perform call).1 = .error failure) :
    race.turn run =
      ⟨{ (race.store.perform call).2 with journal := race.store.journal ++ [call] },
        Function.update race.sessions run (.done (.error failure)),
        race.history ++ [⟨run, call, .error failure⟩]⟩ := by
  rw [turn_of_ask calm asks, answered]

theorem ended_of_failure {failure : Failure}
    (answered : (race.store.perform call).1 = .error failure) :
    (race.turn run).Ended run (.error failure) := by
  rw [turn_of_failure calm asks answered]
  exact Function.update_self _ _ _

end Require

/-! ## The store -/

/-- Nothing is set to fail, and the ids of a repository are in order. -/
structure Sound (race : Race ι α) (repository : Repository) : Prop where
  calm : race.store.Calm
  numbered : race.store.Numbered repository

theorem calm_turn {race : Race ι α} {run : ι} (calm : race.store.Calm) :
    (race.turn run).store.Calm := by
  cases asks : race.sessions run with
  | done result =>
      rw [turn_of_ended asks]
      exact calm
  | ask call next =>
      rw [turn_of_ask calm asks]
      exact calm.perform call

theorem Sound.turn {race : Race ι α} {repository : Repository} {run : ι}
    (sound : race.Sound repository) (room : race.HasRoomAt run) :
    (race.turn run).Sound repository := by
  refine ⟨calm_turn sound.calm, ?_⟩
  cases asks : race.sessions run with
  | done result =>
      rw [turn_of_ended asks]
      exact sound.numbered
  | ask call next =>
      have roomForCall := hasRoomFor_of_ask room asks
      rw [turn_of_ask sound.calm asks]
      exact (sound.numbered.perform roomForCall).congr rfl rfl

theorem capabilities_turn {race : Race ι α} {run : ι} (calm : race.store.Calm) :
    (race.turn run).store.capabilities = race.store.capabilities := by
  cases asks : race.sessions run with
  | done result => rw [turn_of_ended asks]
  | ask call next =>
      rw [turn_of_ask calm asks]
      exact Store.capabilities_perform race.store call

theorem capabilities_play {race : Race ι α} (calm : race.store.Calm) (schedule : List ι) :
    (race.play schedule).store.capabilities = race.store.capabilities := by
  induction schedule generalizing race with
  | nil => rfl
  | cons run rest inductionHypothesis =>
      rw [play_cons, inductionHypothesis (calm_turn calm), capabilities_turn calm]

theorem nextId_turn {race : Race ι α} {run : ι} (calm : race.store.Calm)
    (room : race.HasRoomAt run) :
    (race.turn run).store.nextId.toInt ≤ race.store.nextId.toInt + 1 := by
  cases asks : race.sessions run with
  | done result =>
      rw [turn_of_ended asks]
      omega
  | ask call next =>
      rw [turn_of_ask calm asks]
      change (race.store.perform call).2.nextId.toInt ≤ _
      by_cases creates : call.operation = .create
      · have below := hasRoomFor_of_ask room asks creates
        have next := Store.toInt_add_one below
        rw [Store.nextId_perform_of_create race.store creates]
        omega
      · rw [Store.nextId_perform_of_ne_create race.store creates]
        omega

/-- A schedule with fewer turns than there are ids left is not in the way of the ids. -/
theorem hasRoom_of_le {race : Race ι α} {schedule : List ι} (calm : race.store.Calm)
    (enough : race.store.nextId.toInt + schedule.length ≤ Int64.maxValue.toInt) :
    race.HasRoom schedule := by
  induction schedule generalizing race with
  | nil => trivial
  | cons run rest inductionHypothesis =>
      rw [List.length_cons] at enough
      have room : race.HasRoomAt run := by
        unfold HasRoomAt
        split
        · trivial
        · intro _
          rw [Int64.lt_iff_toInt_lt]
          omega
      have moved := nextId_turn calm room
      exact ⟨room, inductionHypothesis (calm_turn calm) (by omega)⟩

end Race

end WebhookSync.Gateway
