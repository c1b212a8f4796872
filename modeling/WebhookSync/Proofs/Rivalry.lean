import WebhookSync.Proofs.Reconcile.Rivals

/-!
# Racing reconciliations for different triggers

Two reconciliations with one name and address, but for different triggers, may race with each other.
No lock keeps a run from acting on a listing that is out of date, so an update can be lost: a run
that has listed a webhook for few events can take back that the other one has broadened this webhook
(`race_loses_pull_requests`).  But this is the only way in which events are lost: where both runs
end well, all wanted events are heard just when neither run has overruled the other
(`race_heard_iff`).
-/

namespace WebhookSync.Reconcile

open Gateway (Race Store forall_mem_append_singleton mem_of_pair_sublist)

/-- Subscriptions for triggers with the repository, name and address of one. -/
structure Namesakes (request : Bool → Subscription) (wanted : Subscription) : Prop where
  repository : ∀ side, (request side).repository = wanted.repository
  name : ∀ side, (request side).name = wanted.name
  url : ∀ side, (request side).callbackUrl = wanted.callbackUrl
  noMirror : ∀ side, (request side).mirror = false

/-- How far two reconciliations for triggers have come. -/
inductive Phase (request : Bool → Subscription) (wanted : Subscription)
    (race : Race Bool (Except Failure (Option Webhook))) : Prop where
  | waiting (sound : race.Sound wanted.repository)
      (idle : ∀ side, race.sessions side = reconcile (request side)) (quiet : race.history = [])
  /-- one side has listed the webhooks, and has made some of its changes -/
  | ahead (side : Bool) {kind : Shape} (sound : race.Sound wanted.repository)
      (asked : (request side).triggeredEvents = kind.events)
      (idle : race.sessions (!side) = reconcile (request !side))
      (settles : race.sessions side = settle wanted kind (race.store.webhooks wanted.repository))
      (trail : ∀ exchange ∈ race.history,
        Trail wanted kind (race.store.webhooks wanted.repository) side exchange)
  /-- both sides have found no webhook to keep -/
  | creating {kind : Bool → Shape} (sound : race.Sound wanted.repository)
      (asked : ∀ side, (request side).triggeredEvents = (kind side).events)
      (creates : ∀ side, race.sessions side = creation wanted (kind side) ∨
        ∃ hook ∈ race.store.webhooks wanted.repository, fits wanted (kind side) hook = true ∧
          race.sessions side = .done (.ok (some hook)))
      (untouched : ∀ exchange ∈ race.history, ∀ id, ¬Touches wanted.repository id exchange.call)
  /-- both sides have found a webhook to keep -/
  | contending {kind : Bool → Shape} (contest : Contest wanted kind)
      (asked : ∀ side, (request side).triggeredEvents = (kind side).events)
      (rivals : contest.Rivals race)
  | failed {side : Bool} {failure : Failure} (ended : race.Ended side (.error failure))

variable {request : Bool → Subscription} {wanted : Subscription}
  {race : Race Bool (Except Failure (Option Webhook))} {run : Bool}

/-- A subscription for triggers asks for nothing, or it begins with the listing. -/
theorem Namesakes.reconcile_cases (namesakes : Namesakes request wanted) (side : Bool) :
    (request side).triggeredEvents = .empty ∧ reconcile (request side) = .done (.ok none) ∨
      ∃ kind : Shape, (request side).triggeredEvents = kind.events ∧
        reconcile (request side) = apply wanted kind.events := by
  have resolves : resolveEvents (request side) =
      .done (.ok (request side).triggeredEvents) := by
    rw [resolveEvents, namesakes.noMirror side, if_neg Bool.false_ne_true]
  rcases triggeredEvents_cases (request side) with nothing | ⟨kind, asked⟩
  · left
    refine ⟨nothing, ?_⟩
    rw [reconcile, resolves, Dialogue.done_ok_andThen, nothing]
    rfl
  · right
    refine ⟨kind, asked, ?_⟩
    rw [reconcile, resolves, Dialogue.done_ok_andThen, asked, kind.events_isEmpty,
      if_neg Bool.false_ne_true]
    exact apply_congr (namesakes.repository side) (namesakes.name side) (namesakes.url side) _

/-- A side that has ended without having begun asks for nothing. -/
theorem Namesakes.triggeredEvents_eq_empty (namesakes : Namesakes request wanted) {side : Bool}
    (idle : race.sessions side = reconcile (request side))
    (ended : ∃ result, race.Ended side (.ok result)) : (request side).triggeredEvents = .empty := by
  rcases namesakes.reconcile_cases side with ⟨nothing, _⟩ | ⟨kind, _, begins⟩
  · exact nothing
  · obtain ⟨result, ended⟩ := ended
    rw [apply_eq_require] at begins
    cases (idle.trans begins).symm.trans ended

/-- Behind the listing a run takes the settled course. -/
theorem turn_of_apply {kind : Shape} (calm : race.store.Calm)
    (asks : race.sessions run = apply wanted kind.events) :
    ∃ answer, race.turn run =
      ⟨{ race.store with
          journal := race.store.journal ++ [.list wanted.repository Event.all] },
        Function.update race.sessions run
          (settle wanted kind (race.store.webhooks wanted.repository)),
        race.history ++ [⟨run, .list wanted.repository Event.all, answer⟩]⟩ := by
  rw [apply_eq_require] at asks
  have turned := Race.turn_of_reply calm asks rfl
  rw [settle_listed] at turned
  exact ⟨_, turned⟩

/-! ## One side ahead -/

/-- Nothing is overruled where only one side has touched webhooks. -/
theorem not_overruled_of_trail {repository : Repository} (side : Bool)
    (trail : ∀ exchange ∈ race.history, ∀ id, Touches repository id exchange.call →
      exchange.run = side) : ¬Overruled repository race := by
  rintro ⟨earlier, later, order, different, id, name, events, url, updates, touches, _⟩
  apply different
  obtain ⟨inside, insideLater⟩ := mem_of_pair_sublist order
  have touchesEarlier : Touches repository id earlier.call := updates ▸ ⟨rfl, rfl⟩
  rw [trail earlier inside id touchesEarlier, trail later insideLater id touches]

/-! ## Turns -/

section Turn

/-- Where both sides have listed the same webhooks, there is one to keep for both or for neither. -/
theorem phase_of_settles (kind : Bool → Shape) (side : Bool) (sound : race.Sound wanted.repository)
    (asked : ∀ run, (request run).triggeredEvents = (kind run).events)
    (settles : ∀ run, race.sessions run =
      settle wanted (kind run) (race.store.webhooks wanted.repository))
    (trail : ∀ exchange ∈ race.history,
      Trail wanted (kind side) (race.store.webhooks wanted.repository) side exchange) :
    Phase request wanted race := by
  have broadest (run : Bool) : (kind run).broadest = .combined :=
    broadest_of_triggeredEvents (asked run)
  have nothing_iff (run : Bool) :
      anchor? wanted (choose wanted (kind run) (race.store.webhooks wanted.repository))
          (race.store.webhooks wanted.repository) = none ↔
        gathered wanted .combined (race.store.webhooks wanted.repository) = [] := by
    rw [anchor?_eq_none_iff, gathered_choose_eq_nil_iff, broadest run]
  by_cases nothing : gathered wanted .combined (race.store.webhooks wanted.repository) = []
  · refine .creating sound asked (fun run => .inl ?_) fun exchange member id touches => ?_
    · rw [settles run, settle_of_none ((nothing_iff run).mpr nothing)]
    · obtain ⟨_, kept, _, whole, _⟩ := trail exchange member id touches
      have none := (nothing_iff side).mpr nothing
      exact Option.some_ne_none kept (whole.anchor.symm.trans none)
  · have something (run : Bool) : ∃ anchor,
        anchor? wanted (choose wanted (kind run) (race.store.webhooks wanted.repository))
          (race.store.webhooks wanted.repository) = some anchor := by
      rw [← Option.ne_none_iff_exists']
      exact fun none => nothing ((nothing_iff run).mp none)
    choose anchor found using something
    let contest : Contest wanted kind :=
      ⟨race.store.webhooks wanted.repository, anchor, sound.numbered.distinct, broadest, found⟩
    exact .contending contest asked (contest.rivals_start trail sound rfl settles)

variable (sound : race.Sound wanted.repository) (room : race.HasRoomAt run)

include sound room

/-- The side that is ahead makes the next of its changes. -/
theorem phase_turn_ahead {kind : Shape} (asked : (request run).triggeredEvents = kind.events)
    (idle : race.sessions (!run) = reconcile (request !run))
    (settles : race.sessions run = settle wanted kind (race.store.webhooks wanted.repository))
    (trail : ∀ exchange ∈ race.history,
      Trail wanted kind (race.store.webhooks wanted.repository) run exchange) :
    Phase request wanted (race.turn run) := by
  cases asks : race.sessions run with
  | done result =>
      rw [Race.turn_of_ended asks]
      exact .ahead run sound asked idle settles trail
  | ask call next =>
      have distinct := sound.numbered.distinct
      have turned := Race.turn_of_ask sound.calm asks
      obtain ⟨leftover, _, continues, due⟩ := settle_answered distinct (settles.symm.trans asks)
      refine .ahead run (sound.turn room) asked ?_ ?_ ?_
      · rw [Race.sessions_turn_of_ne (Bool.not_not_eq.mpr rfl)]
        exact idle
      · rw [turned]
        simp only [Function.update_self]
        exact continues
      · rw [turned]
        exact forall_mem_append_singleton
          (fun exchange member => (trail exchange member).later distinct due)
          (trail_of_due distinct due)

/-- A side that has found no webhook to keep creates one. -/
theorem phase_turn_creating {kind : Bool → Shape}
    (asked : ∀ side, (request side).triggeredEvents = (kind side).events)
    (creates : ∀ side, race.sessions side = creation wanted (kind side) ∨
      ∃ hook ∈ race.store.webhooks wanted.repository, fits wanted (kind side) hook = true ∧
        race.sessions side = .done (.ok (some hook)))
    (untouched : ∀ exchange ∈ race.history, ∀ id,
      ¬Touches wanted.repository id exchange.call) :
    Phase request wanted (race.turn run) := by
  rcases creates run with asks | ⟨_, _, _, ended⟩
  · have turned := Race.turn_of_reply sound.calm asks rfl
    have webhooks : (race.turn run).store.webhooks wanted.repository =
        race.store.webhooks wanted.repository ++
          [fresh wanted (kind run) race.store.nextId] := by
      rw [turned]
      exact webhooks_create race.store wanted (kind run)
    refine .creating (sound.turn room) asked (fun side => ?_) ?_
    · rw [webhooks]
      by_cases same : side = run
      · subst same
        right
        refine ⟨_, List.mem_append_right _ (List.mem_singleton_self _), fits_fresh _ _ _, ?_⟩
        rw [turned]
        exact Function.update_self _ _ _
      · rw [Race.sessions_turn_of_ne same]
        apply (creates side).imp_right
        rintro ⟨hook, listed, fit, ended⟩
        exact ⟨hook, List.mem_append_left _ listed, fit, ended⟩
    · rw [turned]
      exact forall_mem_append_singleton untouched fun _ touches => touches.elim
  · rw [Race.turn_of_ended ended]
    exact .creating sound asked creates untouched

variable (namesakes : Namesakes request wanted)

include namesakes

theorem phase_turn_waiting (idle : ∀ side, race.sessions side = reconcile (request side))
    (quiet : race.history = []) : Phase request wanted (race.turn run) := by
  rcases namesakes.reconcile_cases run with ⟨_, ended⟩ | ⟨kind, asked, begins⟩
  · rw [Race.turn_of_ended ((idle run).trans ended)]
    exact .waiting sound idle quiet
  · obtain ⟨answer, turned⟩ := turn_of_apply sound.calm ((idle run).trans begins)
    refine .ahead run (sound.turn room) asked ?_ ?_ ?_
    · rw [Race.sessions_turn_of_ne (Bool.not_not_eq.mpr rfl)]
      exact idle !run
    · rw [turned]
      exact Function.update_self _ _ _
    · rw [turned, quiet]
      exact forall_mem_append_singleton (fun _ member => absurd member List.not_mem_nil)
        fun _ touches => touches.elim

/-- When the other side lists the webhooks, both act on the same ones. -/
theorem phase_turn_behind {kind : Shape} (asked : (request !run).triggeredEvents = kind.events)
    (idle : race.sessions run = reconcile (request run))
    (settles : race.sessions (!run) = settle wanted kind (race.store.webhooks wanted.repository))
    (trail : ∀ exchange ∈ race.history,
      Trail wanted kind (race.store.webhooks wanted.repository) (!run) exchange) :
    Phase request wanted (race.turn run) := by
  rcases namesakes.reconcile_cases run with ⟨_, ended⟩ | ⟨kindRun, askedRun, begins⟩
  · rw [Race.turn_of_ended (idle.trans ended)]
    refine .ahead (!run) sound asked ?_ settles trail
    rw [Bool.not_not]
    exact idle
  · obtain ⟨answer, turned⟩ := turn_of_apply sound.calm (idle.trans begins)
    let kinds (side : Bool) : Shape := if side = run then kindRun else kind
    have isRun : kinds run = kindRun := if_pos rfl
    have isOther : kinds (!run) = kind := if_neg (Bool.not_not_eq.mpr rfl)
    refine phase_of_settles kinds (!run) (sound.turn room)
      ((Bool.forall_bool' run).mpr ⟨isRun ▸ askedRun, isOther ▸ asked⟩)
      ((Bool.forall_bool' run).mpr ⟨?_, ?_⟩) ?_
    · rw [turned, isRun]
      exact Function.update_self _ _ _
    · rw [Race.sessions_turn_of_ne (Bool.not_not_eq.mpr rfl), turned, isOther]
      exact settles
    · rw [turned, isOther]
      exact forall_mem_append_singleton trail fun _ touches => touches.elim

omit sound in
/-- Whatever a side does next, the two reconciliations are in one of the phases. -/
theorem Phase.turn (phase : Phase request wanted race) :
    Phase request wanted (race.turn run) := by
  cases phase with
  | waiting sound idle quiet => exact phase_turn_waiting sound room namesakes idle quiet
  | @ahead side kind sound asked idle settles trail =>
      by_cases same : run = side
      · subst same
        exact phase_turn_ahead sound room asked idle settles trail
      · obtain rfl : side = !run := Bool.eq_not.mpr (Ne.symm same)
        rw [Bool.not_not] at idle
        exact phase_turn_behind sound room namesakes asked idle settles trail
  | creating sound asked creates untouched =>
      exact phase_turn_creating sound room asked creates untouched
  | contending contest asked rivals =>
      rcases rivals.turn room with onward | ⟨side, failure, ended⟩
      · exact .contending contest asked onward
      · exact .failed ended
  | failed ended => exact .failed ended.turn

end Turn

/-! ## The end -/

/-- Where both sides have ended well, all wanted events are heard just when neither side has
overruled the other. -/
theorem Phase.heard_iff (namesakes : Namesakes request wanted) (phase : Phase request wanted race)
    (allEnded : ∀ side, ∃ result, race.Ended side (.ok result)) :
    (∀ side, Heard wanted (request side).triggeredEvents
        (race.store.webhooks wanted.repository)) ↔
      ¬Overruled wanted.repository race := by
  have heard_empty {hooks : List Webhook} : Heard wanted .empty hooks :=
    fun _ contained => absurd contained Bool.false_ne_true
  cases phase with
  | waiting sound idle quiet =>
      refine iff_of_true (fun side => ?_) (not_overruled_of_trail true ?_)
      · rw [namesakes.triggeredEvents_eq_empty (idle side) (allEnded side)]
        exact heard_empty
      · rw [quiet]
        exact fun _ member => absurd member List.not_mem_nil
  | @ahead side kind sound asked idle settles trail =>
      refine iff_of_true ((Bool.forall_bool' side).mpr ⟨?_, ?_⟩)
        (not_overruled_of_trail side ?_)
      · obtain ⟨result, ended⟩ := allEnded side
        obtain ⟨kept, whole, _⟩ := settle_ended (settles.symm.trans ended)
        rw [asked]
        have listed := (mem_gathered.mp (anchor_mem whole.anchor)).1
        exact heard_of_fits (le_choose _ _ _) listed whole.fit
      · rw [namesakes.triggeredEvents_eq_empty idle (allEnded !side)]
        exact heard_empty
      · exact fun exchange member id touches => (trail exchange member id touches).1
  | creating sound asked creates untouched =>
      refine iff_of_true (fun side => ?_) (not_overruled_of_trail true ?_)
      · obtain ⟨result, ended⟩ := allEnded side
        rcases creates side with asks | ⟨hook, listed, fit, _⟩
        · cases asks.symm.trans ended
        · rw [asked side]
          exact heard_of_fits (Shape.le_refl _) listed fit
      · exact fun exchange member id touches => absurd touches (untouched exchange member id)
  | contending contest asked rivals =>
      simp only [asked]
      exact rivals.heard_iff allEnded
  | @failed side failure ended =>
      obtain ⟨result, endedWell⟩ := allEnded side
      cases ended.symm.trans endedWell

/-! ## Every race -/

/-- Two reconciliations for triggers, with one repository, name and address, race with each other.
Where nothing is set to fail, ids do not wrap around and both end well, all wanted events are heard
by active webhooks with this name and address, unless a run has updated a webhook to some events,
and later the other one has updated or deleted it and ended with a webhook that lacks some of them;
and then some wanted event is not heard. -/
theorem race_heard_iff {store : Store} {first second : Subscription} {schedule : List Bool}
    (calm : store.Calm) (numbered : store.Numbered first.repository)
    (firstTriggers : first.mirror = false) (secondTriggers : second.mirror = false)
    (sameRepository : second.repository = first.repository) (sameName : second.name = first.name)
    (sameUrl : second.callbackUrl = first.callbackUrl)
    (room : (Race.start store fun side => reconcile (bif side then first else second)).HasRoom
      schedule) :
    let request (side : Bool) : Subscription := bif side then first else second
    let race := (Race.start store fun side => reconcile (request side)).play schedule
    (∀ side, ∃ result, race.Ended side (.ok result)) →
      ((∀ side, Heard first (request side).triggeredEvents
          (race.store.webhooks first.repository)) ↔
        ¬Overruled first.repository race) := by
  intro request race allEnded
  have namesakes : Namesakes request first := by
    constructor <;> rintro (_ | _) <;> first | rfl | assumption
  have phase : Phase request first race := by
    refine Race.play_induction (Phase request first) ?_ ?_ room
    · exact fun _ _ phase roomThere => phase.turn roomThere namesakes
    · exact .waiting ⟨calm, numbered⟩ (fun _ => rfl) rfl
  exact phase.heard_iff namesakes allEnded

/-- Both runs list a webhook for branches and tags; the first run brings it up to date, and then the
second one broadens it. -/
theorem race_heard_iff_broadened :
    let store := Store.empty.performAll [.create ⟨"P", "r"⟩ "ci" .refChange "https://old"]
    let first : Subscription := ⟨⟨"P", "r"⟩, "ci", "https://ci", false, true, false⟩
    let second : Subscription := ⟨⟨"P", "r"⟩, "ci", "https://ci", false, false, true⟩
    let request (side : Bool) : Subscription := bif side then first else second
    let race := (Race.start store fun side => reconcile (request side)).play
      [true, false, true, false]
    store.Calm ∧ store.Numbered first.repository ∧ first.mirror = false ∧ second.mirror = false ∧
      second.repository = first.repository ∧ second.name = first.name ∧
      second.callbackUrl = first.callbackUrl ∧
      (Race.start store fun side => reconcile (bif side then first else second)).HasRoom
        [true, false, true, false] ∧
      (∀ side, ∃ result, race.Ended side (.ok result)) ∧
      (∀ side, Heard first (request side).triggeredEvents
        (race.store.webhooks first.repository)) ∧
      ¬Overruled first.repository race := by
  intro store first second request
  have calm : store.Calm := Store.calm_empty.performAll _
  have numbered : store.Numbered first.repository :=
    (Store.numbered_empty first.repository).perform fun _ => by decide
  have room : (Race.start store fun side => reconcile (bif side then first else second)).HasRoom
      [true, false, true, false] := Race.hasRoom_of_le calm (by decide)
  have webhooks : ((Race.start store fun side => reconcile (request side)).play
      [true, false, true, false]).store.webhooks first.repository =
        [⟨1, "ci", EventSet.refAndPullRequest.names, "https://ci", true⟩] := by
    simp only [store, first, second, request]
    rfl
  have allEnded (side : Bool) : ∃ result, ((Race.start store fun side =>
      reconcile (request side)).play [true, false, true, false]).Ended side (.ok result) := by
    simp only [store, first, second, request]
    cases side with
    | true => exact ⟨some ⟨1, "ci", EventSet.refChange.names, "https://ci", true⟩, rfl⟩
    | false => exact ⟨some ⟨1, "ci", EventSet.refAndPullRequest.names, "https://ci", true⟩, rfl⟩
  have heard (side : Bool) : Heard first (request side).triggeredEvents
      (((Race.start store fun side => reconcile (request side)).play
        [true, false, true, false]).store.webhooks first.repository) := by
    rw [webhooks]
    intro event contained
    refine ⟨_, List.mem_singleton_self _, ?_⟩
    revert contained
    cases side <;> cases event <;> decide
  have heard_iff := @race_heard_iff store first second _ calm numbered rfl rfl rfl rfl rfl room
  have notOverruled := (heard_iff allEnded).mp heard
  exact ⟨calm, numbered, rfl, rfl, rfl, rfl, rfl, room, allEnded, heard, notOverruled⟩

/-- Both runs list a webhook for branches and tags; the second run broadens it, and then the first
one brings it up to date as it had listed it.  Both end well, but pull requests are not heard. -/
theorem race_loses_pull_requests :
    let store := Store.empty.performAll [.create ⟨"P", "r"⟩ "ci" .refChange "https://old"]
    let first : Subscription := ⟨⟨"P", "r"⟩, "ci", "https://ci", false, true, false⟩
    let second : Subscription := ⟨⟨"P", "r"⟩, "ci", "https://ci", false, false, true⟩
    let request (side : Bool) : Subscription := bif side then first else second
    let race := (Race.start store fun side => reconcile (request side)).play
      [true, false, false, true]
    store.Calm ∧ store.Numbered first.repository ∧ first.mirror = false ∧ second.mirror = false ∧
      second.repository = first.repository ∧ second.name = first.name ∧
      second.callbackUrl = first.callbackUrl ∧
      (Race.start store fun side => reconcile (bif side then first else second)).HasRoom
        [true, false, false, true] ∧
      (∀ side, ∃ result, race.Ended side (.ok result)) ∧
      ¬Heard first second.triggeredEvents (race.store.webhooks first.repository) := by
  intro store first second request
  have calm : store.Calm := Store.calm_empty.performAll _
  have numbered : store.Numbered first.repository :=
    (Store.numbered_empty first.repository).perform fun _ => by decide
  have room : (Race.start store fun side => reconcile (bif side then first else second)).HasRoom
      [true, false, false, true] := Race.hasRoom_of_le calm (by decide)
  have webhooks : ((Race.start store fun side => reconcile (request side)).play
      [true, false, false, true]).store.webhooks first.repository =
        [⟨1, "ci", EventSet.refChange.names, "https://ci", true⟩] := by
    simp only [store, first, second, request]
    rfl
  have allEnded (side : Bool) : ∃ result, ((Race.start store fun side =>
      reconcile (request side)).play [true, false, false, true]).Ended side (.ok result) := by
    simp only [store, first, second, request]
    cases side with
    | true => exact ⟨some ⟨1, "ci", EventSet.refChange.names, "https://ci", true⟩, rfl⟩
    | false => exact ⟨some ⟨1, "ci", EventSet.refAndPullRequest.names, "https://ci", true⟩, rfl⟩
  have notHeard : ¬Heard first second.triggeredEvents (((Race.start store fun side =>
      reconcile (request side)).play [true, false, false, true]).store.webhooks
        first.repository) := by
    rw [webhooks]
    intro heard
    obtain ⟨hook, listed, _, _, _, subscribes⟩ := heard .pullRequestOpened (by decide)
    obtain rfl := List.mem_singleton.mp listed
    exact absurd subscribes (by decide)
  exact ⟨calm, numbered, rfl, rfl, rfl, rfl, rfl, room, allEnded, notHeard⟩

end WebhookSync.Reconcile
