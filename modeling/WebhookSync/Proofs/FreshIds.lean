import Mathlib.Data.List.Induction
import WebhookSync.Proofs.Gateway.Actions

/-!
# Ids are fresh

One counter serves all repositories of a store in memory.  In every course of actions on a fresh
store, in which webhooks are taken in under ids that are free at that moment and the counter does
not come to the greatest id, ids stay distinct and below the counter, and an id that is handed out
has never been seen before, be it that its webhook is gone by now (`ids_stay_fresh`).
-/

namespace WebhookSync.Gateway

/-- The store behind actions on a fresh one. -/
def after (actions : List Action) : Store :=
  actions.foldl Action.take Store.empty

/-- A course of actions in which webhooks are taken in under free ids, and ids do not run out. -/
structure Lasting (actions : List Action) : Prop where
  admissible : ∀ moment action, moment ++ [action] <+: actions → action.Admissible (after moment)
  room : ∀ moment, moment <+: actions → (after moment).nextId ≠ Int64.maxValue

theorem after_append (first second : List Action) :
    after (first ++ second) = second.foldl Action.take (after first) :=
  List.foldl_append

@[simp]
theorem after_concat (moment : List Action) (action : Action) :
    after (moment ++ [action]) = action.take (after moment) :=
  after_append moment [action]

namespace Lasting

variable {actions moment : List Action}

theorem nil : Lasting [] where
  admissible := fun moment action isPrefix => by simp at isPrefix
  room := fun moment isPrefix => by
    rw [List.prefix_nil.mp isPrefix]
    decide

/-- A course goes on with an admissible action that leaves an id to come. -/
theorem concat (lasting : Lasting actions) (action : Action)
    (admissible : action.Admissible (after actions))
    (room : (action.take (after actions)).nextId ≠ Int64.maxValue) :
    Lasting (actions ++ [action]) where
  admissible := by
    intro moment last isPrefix
    rcases List.prefix_concat_iff.mp isPrefix with same | earlier
    · obtain ⟨rfl, rfl⟩ := List.append_singleton_inj.mp same
      exact admissible
    · exact lasting.admissible moment last earlier
  room := by
    intro moment isPrefix
    rcases List.prefix_concat_iff.mp isPrefix with rfl | earlier
    · rwa [after_concat]
    · exact lasting.room moment earlier

theorem of_prefix (lasting : Lasting actions) (isPrefix : moment <+: actions) : Lasting moment where
  admissible := fun earlier action onward =>
    lasting.admissible earlier action (onward.trans isPrefix)
  room := fun earlier onward => lasting.room earlier (onward.trans isPrefix)

theorem nextId_lt (lasting : Lasting actions) (isPrefix : moment <+: actions) :
    (after moment).nextId < Int64.maxValue :=
  Int64.lt_of_le_of_ne (Int64.le_maxValue _) (lasting.room moment isPrefix)

theorem sound (lasting : Lasting actions) : (after actions).Sound := by
  induction actions using List.reverseRecOn with
  | nil => exact Store.sound_empty
  | append_singleton moment action inductionHypothesis =>
      have isPrefix : moment <+: moment ++ [action] := List.prefix_append moment [action]
      rw [after_concat]
      exact Action.sound_take (inductionHypothesis (lasting.of_prefix isPrefix))
        (lasting.admissible moment action List.prefix_rfl) (lasting.nextId_lt isPrefix)

/-- What an action does to the next id, wherever in a course it stands. -/
theorem nextId_take (lasting : Lasting actions) {action : Action}
    (isPrefix : moment ++ [action] <+: actions) :
    (after moment).nextId ≤ (after (moment ++ [action])).nextId ∧
      ∀ repository, ∀ id ∈ action.arrivals (after moment) repository,
        id < (after (moment ++ [action])).nextId := by
  rw [after_concat]
  exact Action.nextId_take (lasting.admissible moment action isPrefix)
    (lasting.nextId_lt ((List.prefix_append moment [action]).trans isPrefix))

theorem nextId_le (lasting : Lasting actions) {earlier : List Action}
    (before : earlier <+: actions) : (after earlier).nextId ≤ (after actions).nextId := by
  induction actions using List.reverseRecOn with
  | nil =>
      rw [List.prefix_nil.mp before]
      exact Int64.le_refl _
  | append_singleton moment action inductionHypothesis =>
      rcases List.prefix_concat_iff.mp before with rfl | earlierStill
      · exact Int64.le_refl _
      · have isPrefix : moment <+: moment ++ [action] := List.prefix_append moment [action]
        exact Int64.le_trans (inductionHypothesis (lasting.of_prefix isPrefix) earlierStill)
          (lasting.nextId_take List.prefix_rfl).1

/-- An id that has been handed out is below the next one. -/
theorem handedOut_lt (lasting : Lasting actions) {earlier : List Action} {action : Action}
    {id : Int64} (before : earlier ++ [action] <+: actions)
    (handsOut : action.handsOut? (after earlier) = some id) : id < (after actions).nextId := by
  obtain ⟨_, repository, arrives⟩ := Action.of_handsOut? handsOut
  exact Int64.lt_of_lt_of_le ((lasting.nextId_take before).2 repository id arrives)
    (lasting.nextId_le before)

end Lasting

/-- In a lasting course, at every moment: the ids of all repositories are distinct and below the
next one, which is positive and never falls; an id that is handed out is greater than all ids that
were stored or handed out at any time before; and a call that comes back with a failure leaves
everything as it is and its entry in the journal. -/
theorem ids_stay_fresh {actions : List Action} (lasting : Lasting actions) :
    (∀ moment, moment <+: actions → (after moment).Sound) ∧
    (∀ earlier moment, earlier <+: moment → moment <+: actions →
      (after earlier).nextId ≤ (after moment).nextId) ∧
    (∀ moment action id, moment ++ [action] <+: actions →
      action.handsOut? (after moment) = some id → ∀ earlier, earlier <+: moment →
        (∀ repository, ∀ hook ∈ (after earlier).webhooks repository, hook.id < id) ∧
        ∀ other former, earlier ++ [other] <+: moment →
          other.handsOut? (after earlier) = some former → former < id) ∧
    (∀ moment call failure, moment ++ [.call call] <+: actions →
      (Store.answer call (after moment)).1 = .error failure →
        after (moment ++ [.call call]) =
          { after moment with journal := (after moment).journal ++ [call] }) := by
  refine ⟨fun moment isPrefix => (lasting.of_prefix isPrefix).sound,
    fun earlier moment before isPrefix => (lasting.of_prefix isPrefix).nextId_le before, ?_, ?_⟩
  · intro moment action id isPrefix handsOut earlier before
    have upToMoment := lasting.of_prefix ((List.prefix_append moment [action]).trans isPrefix)
    obtain ⟨rfl, _⟩ := Action.of_handsOut? handsOut
    constructor
    · intro repository hook member
      have sound := (upToMoment.of_prefix before).sound
      exact Int64.lt_of_lt_of_le ((sound.numbered repository).below hook member)
        (upToMoment.nextId_le before)
    · intro other former beforeOther formerly
      exact upToMoment.handedOut_lt beforeOther formerly
  · intro moment call failure _ fails
    rw [after_concat]
    exact Store.answer_of_error fails

/-- Two repositories, a webhook with a negative id, one that is deleted and comes again in the other
repository, a call to a webhook that is not there and one that is set to fail: the next webhook that
is created gets the id behind the greatest that has been seen. -/
theorem ids_stay_fresh_of_reseeded :
    let first : Repository := ⟨"PROJ", "service"⟩
    let second : Repository := ⟨"PROJ", "other"⟩
    let seed (id : Int64) : Webhook := ⟨id, "seed", .empty, "u", true⟩
    let begun : List Action :=
      [.insert first "ci" .empty "u" true, .insertWebhook second (seed (-5)),
        .insertWebhook first (seed 41), .call (.delete first 41), .insertWebhook second (seed 41)]
    let missing : Call := .update first 99 "ci" .empty "u"
    let failing := begun ++ [.call missing, .failOn .delete, .call (.delete second 41)]
    let create : Action := .call (.create second "ci" .refChange "u")
    Lasting (failing ++ [create]) ∧ create.handsOut? (after failing) = some 42 ∧
      (∀ repository, ∀ hook ∈ (after begun).webhooks repository, hook.id < 42) ∧
      after (begun ++ [.call missing]) =
        { after begun with journal := [.delete first 41, missing] } := by
  intro first second seed begun missing failing create
  have lasting : Lasting (failing ++ [create]) := by
    have inserted := Lasting.nil.concat (.insert first "ci" .empty "u" true) trivial
      (by decide +kernel)
    have negative := inserted.concat (.insertWebhook second (seed (-5)))
      ⟨by decide, fun repository stored member => by
        obtain ⟨rfl, rfl⟩ : repository = first ∧ stored = ⟨1, "ci", .empty, "u", true⟩ := by
          simpa [after, Action.take, Store.insert, Store.append, Store.setWebhooks, Store.empty]
            using member
        decide⟩ (by decide +kernel)
    have seeded := negative.concat (.insertWebhook first (seed 41))
      ⟨by decide, fun repository stored member => by
        have below := (negative.sound.numbered repository).below stored member
        exact Int64.ne_of_lt (Int64.lt_trans below (by decide +kernel))⟩ (by decide +kernel)
    have isStored : seed 41 ∈ (after (begun.take 3)).webhooks first := by decide +kernel
    have deleted := seeded.concat (.call (.delete first (seed 41).id)) trivial (by decide +kernel)
    have reseeded := deleted.concat (.insertWebhook second (seed 41))
      (Action.admissible_insertWebhook_of_deleted seeded.sound isStored rfl rfl (by decide) second)
      (by decide +kernel)
    have missed := reseeded.concat (.call missing) trivial (by decide +kernel)
    have failed := (missed.concat (.failOn .delete) trivial (by decide +kernel)).concat
      (.call (.delete second 41)) trivial (by decide +kernel)
    exact failed.concat create trivial (by decide +kernel)
  obtain ⟨_, _, fresh, unchanged⟩ := ids_stay_fresh lasting
  have handsOut : create.handsOut? (after failing) = some 42 := by decide +kernel
  have beforeEnd : begun <+: failing := List.prefix_append _ _
  refine ⟨lasting, handsOut, ?_, ?_⟩
  · exact (fresh failing create 42 List.prefix_rfl handsOut begun beforeEnd).1
  · exact unchanged begun missing _ ⟨[.failOn .delete, .call (.delete second 41), create], rfl⟩ rfl

end WebhookSync.Gateway
