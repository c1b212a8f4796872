import WebhookSync.Failure
import WebhookSync.Proofs.Text.Trimming
import WebhookSync.Reconcile.Basic

/-!
# Drafts of subscriptions

The setters of a draft may be called in any order and again and again; the last call of each decides
(`setAll_eq`).  A draft becomes a subscription just when its name and its orchestrator's address are
usable, and else its first fault is told.  Of the address neither the blanks around it nor the
slashes at its end matter, so each way of writing it leads to the same subscription, with the same
own webhooks (`drafts_accepted_and_normalised`).
-/

namespace WebhookSync

section Results

variable {ε ε' α : Type} {f : ε → ε'} {found : Except ε α}

theorem mapError_eq_ok_iff {value : α} : found.mapError f = .ok value ↔ found = .ok value := by
  cases found <;> simp [Except.mapError]

theorem mapError_eq_error_iff {fault : ε'} :
    found.mapError f = .error fault ↔ ∃ cause, found = .error cause ∧ f cause = fault := by
  cases found <;> simp [Except.mapError]

end Results

namespace Subscription

open Text (AllBlank IsBare)

namespace Draft

/-! ## Setters -/

/-- A call of a setter. -/
inductive Setter where
  | orchestratorUrl (url : String)
  | mirror (isMirror : Bool)
  | onRefChange (listens : Bool)
  | onPullRequest (listens : Bool)

namespace Setter

/-- The orchestrator's address, if the call sets it. -/
def orchestratorUrl? : Setter → Option String
  | .orchestratorUrl url => some url
  | _ => none

/-- The mark of a mirror, if the call sets it. -/
def mirror? : Setter → Option Bool
  | .mirror isMirror => some isMirror
  | _ => none

/-- The trigger on branch and tag updates, if the call sets it. -/
def onRefChange? : Setter → Option Bool
  | .onRefChange listens => some listens
  | _ => none

/-- The trigger on pull requests, if the call sets it. -/
def onPullRequest? : Setter → Option Bool
  | .onPullRequest listens => some listens
  | _ => none

end Setter

/-- The draft behind a call. -/
def set (draft : Draft) : Setter → Draft
  | .orchestratorUrl url => draft.setOrchestratorUrl url
  | .mirror isMirror => draft.setMirror isMirror
  | .onRefChange listens => draft.setOnRefChange listens
  | .onPullRequest listens => draft.setOnPullRequest listens

/-- The draft behind some calls, one after the other. -/
def setAll (draft : Draft) (setters : List Setter) : Draft :=
  setters.foldl set draft

/-- What the last of those calls sets that set anything of a kind. -/
def lastOf {α : Type} (kind? : Setter → Option α) (setters : List Setter) : Option α :=
  (setters.filterMap kind?).getLast?

theorem lastOf_concat {α : Type} (kind? : Setter → Option α) (setters : List Setter)
    (setter : Setter) :
    lastOf kind? (setters ++ [setter]) = (kind? setter).or (lastOf kind? setters) := by
  rw [lastOf, List.filterMap_append, List.getLast?_append, lastOf]
  cases found : kind? setter with
  | none => rw [List.filterMap_cons_none found]; rfl
  | some value => rw [List.filterMap_cons_some found]; rfl

/-- The last call of each setter decides; what no call sets stays as it is. -/
theorem setAll_eq (draft : Draft) (setters : List Setter) :
    draft.setAll setters =
      { draft with
        orchestratorUrl := (lastOf Setter.orchestratorUrl? setters).or draft.orchestratorUrl
        mirror := (lastOf Setter.mirror? setters).getD draft.mirror
        onRefChange := (lastOf Setter.onRefChange? setters).getD draft.onRefChange
        onPullRequest := (lastOf Setter.onPullRequest? setters).getD draft.onPullRequest } := by
  induction setters using List.reverseRecOn with
  | nil => rfl
  | append_singleton setters setter ih =>
      have behind : draft.setAll (setters ++ [setter]) = (draft.setAll setters).set setter :=
        List.foldl_concat _ _ _ _
      rw [behind, ih]
      simp only [lastOf_concat]
      -- The call sets one field; the others are what they were before.
      cases setter <;> rfl

/-- An address that is set before other calls counts if none of these sets one. -/
theorem setAll_setOrchestratorUrl (draft : Draft) (url : String) (setters : List Setter) :
    (draft.setOrchestratorUrl url).setAll setters =
      (draft.setAll setters).setOrchestratorUrl
        ((lastOf Setter.orchestratorUrl? setters).getD url) := by
  rw [setAll_eq, setAll_eq]
  cases lastOf Setter.orchestratorUrl? setters <;> rfl

/-! ## Building -/

/-- What is wrong with a draft first: it has no name, too long a name, or no orchestrator. -/
inductive Refused (name : String) (orchestratorUrl : Option String) : Fault → Prop where
  | emptyName (blank : AllBlank name) : Refused name orchestratorUrl .emptyName
  | nameTooLong (named : ¬ AllBlank name) (long : nameLimit < name.length) :
      Refused name orchestratorUrl (.nameTooLong name.length)
  | missingOrchestrator (named : ¬ AllBlank name) (short : name.length ≤ nameLimit)
      (missing : ∀ url, orchestratorUrl = some url → AllBlank url) :
      Refused name orchestratorUrl .missingOrchestrator

theorem usableOrchestratorUrl?_eq_some_iff {draft : Draft} {url : String} :
    draft.usableOrchestratorUrl? = some url ↔
      draft.orchestratorUrl = some url ∧ ¬ AllBlank url := by
  rw [usableOrchestratorUrl?, Option.filter_eq_some_iff, bne_iff_ne, ne_eq, Text.trim_eq_empty_iff]

/-- The subscription of a draft whose orchestrator has this address. -/
def subscriptionAt (draft : Draft) (url : String) : Subscription where
  repository := draft.repository
  name := draft.name
  callbackUrl := callbackUrlOf (Text.trim url)
  mirror := draft.mirror
  onRefChange := draft.onRefChange
  onPullRequest := draft.onPullRequest

theorem build_of_refused {draft : Draft} {fault : Fault}
    (refused : Refused draft.name draft.orchestratorUrl fault) : draft.build = .error fault := by
  unfold build
  cases refused with
  | emptyName blank => rw [if_pos (Text.trim_eq_empty_iff.mpr blank)]
  | nameTooLong named long =>
      rw [if_neg fun empty => named (Text.trim_eq_empty_iff.mp empty), if_pos long]
  | missingOrchestrator named short missing =>
      have unusable : draft.usableOrchestratorUrl? = none := by
        refine Option.eq_none_iff_forall_ne_some.mpr fun url isUrl => ?_
        obtain ⟨isSet, usable⟩ := usableOrchestratorUrl?_eq_some_iff.mp isUrl
        exact usable (missing url isSet)
      rw [if_neg fun empty => named (Text.trim_eq_empty_iff.mp empty),
        if_neg (Nat.not_lt.mpr short), unusable]

theorem build_of_usable {draft : Draft} {url : String} (named : ¬ AllBlank draft.name)
    (short : draft.name.length ≤ nameLimit) (isUrl : draft.orchestratorUrl = some url)
    (usable : ¬ AllBlank url) : draft.build = .ok (draft.subscriptionAt url) := by
  unfold build
  rw [if_neg fun empty => named (Text.trim_eq_empty_iff.mp empty), if_neg (Nat.not_lt.mpr short),
    usableOrchestratorUrl?_eq_some_iff.mpr ⟨isUrl, usable⟩]
  rfl

theorem refused_or_usable (name : String) (orchestratorUrl : Option String) :
    (∃ fault, Refused name orchestratorUrl fault) ∨
      ¬ AllBlank name ∧ name.length ≤ nameLimit ∧
        ∃ url, orchestratorUrl = some url ∧ ¬ AllBlank url := by
  by_cases blank : AllBlank name
  · exact .inl ⟨_, .emptyName blank⟩
  · rcases Nat.lt_or_ge nameLimit name.length with long | short
    · exact .inl ⟨_, .nameTooLong blank long⟩
    · by_cases usable : ∃ url, orchestratorUrl = some url ∧ ¬ AllBlank url
      · exact .inr ⟨blank, short, usable⟩
      · refine .inl ⟨_, .missingOrchestrator blank short fun url isUrl => ?_⟩
        exact Classical.not_not.mp fun notBlank => usable ⟨url, isUrl, notBlank⟩

/-- A draft is built just when it has a name that is not too long and an orchestrator. -/
theorem build_eq_ok_iff {draft : Draft} {wanted : Subscription} :
    draft.build = .ok wanted ↔
      ¬ AllBlank draft.name ∧ draft.name.length ≤ nameLimit ∧
        ∃ url, draft.orchestratorUrl = some url ∧ ¬ AllBlank url ∧
          wanted = draft.subscriptionAt url := by
  constructor
  · intro built
    rcases refused_or_usable draft.name draft.orchestratorUrl with
      ⟨fault, refused⟩ | ⟨named, short, url, isUrl, usable⟩
    · rw [build_of_refused refused] at built
      cases built
    · rw [build_of_usable named short isUrl usable] at built
      exact ⟨named, short, url, isUrl, usable, (Except.ok.inj built).symm⟩
  · rintro ⟨named, short, url, isUrl, usable, rfl⟩
    exact build_of_usable named short isUrl usable

/-- A draft that is not built is refused for its first fault. -/
theorem build_eq_error_iff {draft : Draft} {fault : Fault} :
    draft.build = .error fault ↔ Refused draft.name draft.orchestratorUrl fault := by
  constructor
  · intro failed
    rcases refused_or_usable draft.name draft.orchestratorUrl with
      ⟨first, refused⟩ | ⟨named, short, url, isUrl, usable⟩
    · rw [build_of_refused refused] at failed
      exact Except.error.inj failed ▸ refused
    · rw [build_of_usable named short isUrl usable] at failed
      cases failed
  · exact build_of_refused

/-! ## Ways of writing an address -/

/-- Some slashes. -/
def slashes (count : Nat) : String :=
  .ofList (List.replicate count '/')

theorem eq_slash_of_mem_slashes {count : Nat} {c : Char} (member : c ∈ (slashes count).toList) :
    c = '/' := by
  rw [slashes, String.toList_ofList] at member
  exact List.eq_of_mem_replicate member

/-- A text that neither begins nor ends with a blank is still such a text with slashes behind. -/
theorem isBare_append_slashes {url : String} (bare : IsBare url) (nonempty : url ≠ "")
    (count : Nat) : IsBare (url ++ slashes count) := by
  constructor
  · intro c isFirst
    have isCons : url.toList ≠ [] := fun isNil => nonempty (String.toList_eq_nil_iff.mp isNil)
    rw [String.toList_append, List.head?_append_of_ne_nil _ isCons] at isFirst
    exact bare.first c isFirst
  · intro c isLast
    rw [String.toList_append, List.getLast?_append, Option.mem_def, Option.or_eq_some_iff] at isLast
    rcases isLast with inSlashes | ⟨_, inUrl⟩
    · rw [eq_slash_of_mem_slashes (List.mem_of_getLast? inSlashes)]
      decide
    · exact bare.last c inUrl

theorem callbackUrlOf_append_slashes (url : String) (count : Nat) :
    callbackUrlOf (url ++ slashes count) = callbackUrlOf url := by
  have areSlashes : ∀ c ∈ (slashes count).toList, (c == '/') = true :=
    fun c member => beq_iff_eq.mpr (eq_slash_of_mem_slashes member)
  rw [callbackUrlOf, String.toList_append, Text.dropEndWhile_append areSlashes, callbackUrlOf]

/-- What an address leads to: up to the slashes at its end, without the blanks around it, it is
followed by one slash and the callback path. -/
def IsCallbackOf (url callbackUrl : String) : Prop :=
  ∃ base behind, Text.trim url = base ++ behind ∧ (∀ c ∈ behind.toList, c = '/') ∧
    base.toList.getLast? ≠ some '/' ∧ callbackUrl = base ++ "/" ++ callbackPath

theorem isCallbackOf_callbackUrlOf_trim (url : String) :
    IsCallbackOf url (callbackUrlOf (Text.trim url)) := by
  unfold IsCallbackOf
  generalize Text.trim url = url
  obtain ⟨behind, isUrl, areSlashes⟩ := Text.exists_dropEndWhile_append (· == '/') url.toList
  refine ⟨.ofList (Text.dropEndWhile (· == '/') url.toList), .ofList behind, ?_, ?_, ?_, rfl⟩
  · rw [← String.ofList_append, ← isUrl, String.ofList_toList]
  · intro c member
    rw [String.toList_ofList] at member
    exact beq_iff_eq.mp (areSlashes c member)
  · intro isLast
    rw [String.toList_ofList] at isLast
    exact absurd (Text.getLast?_dropEndWhile _ _ isLast) (by decide)

/-- Addresses with the same callback address lead to the same subscription. -/
theorem build_setOrchestratorUrl_congr (draft : Draft) {url other : String}
    (usable : ¬ AllBlank url) (otherUsable : ¬ AllBlank other)
    (sameCallback : callbackUrlOf (Text.trim url) = callbackUrlOf (Text.trim other)) :
    (draft.setOrchestratorUrl url).build = (draft.setOrchestratorUrl other).build := by
  unfold build
  rw [usableOrchestratorUrl?_eq_some_iff.mpr ⟨rfl, usable⟩,
    usableOrchestratorUrl?_eq_some_iff.mpr ⟨rfl, otherUsable⟩]
  simp only [sameCallback]
  rfl

/-- So it is with an address that is set among other calls. -/
theorem build_setAll_congr (draft : Draft) (before after : List Setter) {url other : String}
    (usable : ¬ AllBlank url) (otherUsable : ¬ AllBlank other)
    (sameCallback : callbackUrlOf (Text.trim url) = callbackUrlOf (Text.trim other)) :
    (draft.setAll (before ++ .orchestratorUrl url :: after)).build =
      (draft.setAll (before ++ .orchestratorUrl other :: after)).build := by
  have behind (written : String) :
      draft.setAll (before ++ .orchestratorUrl written :: after) =
        ((draft.setAll before).setOrchestratorUrl written).setAll after := by
    rw [setAll, List.foldl_append, List.foldl_cons]
    rfl
  rw [behind, behind, setAll_setOrchestratorUrl, setAll_setOrchestratorUrl]
  cases lastOf Setter.orchestratorUrl? after with
  | none => exact build_setOrchestratorUrl_congr _ usable otherUsable sameCallback
  | some later => rfl

/-- Neither blanks around an address nor slashes at its end make another subscription of it. -/
theorem build_spelled (draft : Draft) (before after : List Setter)
    {url blanksBefore blanksAfter : String} (nonempty : url ≠ "") (bare : IsBare url)
    (blankBefore : AllBlank blanksBefore) (blankAfter : AllBlank blanksAfter) (count : Nat) :
    (draft.setAll (before ++
        .orchestratorUrl (blanksBefore ++ (url ++ slashes count) ++ blanksAfter) :: after)).build =
      (draft.setAll (before ++ .orchestratorUrl url :: after)).build := by
  have trimmed : Text.trim (blanksBefore ++ (url ++ slashes count) ++ blanksAfter) =
      url ++ slashes count :=
    Text.trim_blanks_around blankBefore (isBare_append_slashes bare nonempty count) blankAfter
  apply build_setAll_congr
  · rw [← Text.trim_eq_empty_iff, trimmed]
    exact fun empty => nonempty (String.append_eq_empty_iff.mp empty).1
  · rwa [← Text.trim_eq_empty_iff, bare.trim_eq]
  · rw [trimmed, bare.trim_eq, callbackUrlOf_append_slashes]

/-! ## Drafts behind calls -/

/-- The subscription has the name as it was given, and else what the last calls have set. -/
structure IsSetUp (repository : Repository) (name : String) (setters : List Setter)
    (wanted : Subscription) : Prop where
  repository : wanted.repository = repository
  name : wanted.name = name
  mirror : wanted.mirror = (lastOf Setter.mirror? setters).getD false
  onRefChange : wanted.onRefChange = (lastOf Setter.onRefChange? setters).getD false
  onPullRequest : wanted.onPullRequest = (lastOf Setter.onPullRequest? setters).getD false
  callbackUrl : ∃ url, lastOf Setter.orchestratorUrl? setters = some url ∧
    IsCallbackOf url wanted.callbackUrl

section Behind

variable {repository : Repository} {name : String} {setters : List Setter}

theorem name_behind : ((start repository name).setAll setters).name = name := by
  rw [setAll_eq]
  rfl

theorem orchestratorUrl_behind : ((start repository name).setAll setters).orchestratorUrl =
    lastOf Setter.orchestratorUrl? setters := by
  rw [setAll_eq]
  exact Option.or_none

theorem exists_build_iff :
    (∃ wanted, ((start repository name).setAll setters).build = .ok wanted) ↔
      ¬ AllBlank name ∧ name.length ≤ nameLimit ∧
        ∃ url, lastOf Setter.orchestratorUrl? setters = some url ∧ ¬ AllBlank url := by
  simp only [build_eq_ok_iff, name_behind, orchestratorUrl_behind]
  constructor
  · rintro ⟨wanted, named, short, url, isUrl, usable, _⟩
    exact ⟨named, short, url, isUrl, usable⟩
  · rintro ⟨named, short, url, isUrl, usable⟩
    exact ⟨_, named, short, url, isUrl, usable, rfl⟩

theorem isSetUp_of_build {wanted : Subscription}
    (built : ((start repository name).setAll setters).build = .ok wanted) :
    IsSetUp repository name setters wanted := by
  obtain ⟨_, _, url, isUrl, _, rfl⟩ := build_eq_ok_iff.mp built
  rw [orchestratorUrl_behind] at isUrl
  have isCallback := isCallbackOf_callbackUrlOf_trim url
  rw [setAll_eq]
  exact ⟨rfl, rfl, rfl, rfl, rfl, url, isUrl, isCallback⟩

end Behind

end Draft

open Draft in
/-- A draft becomes a subscription just when it has a name that is neither blank nor too long and an
orchestrator whose address is not blank, whatever calls have made it; else it is reported as an
invalid subscription.  Blanks around the address and slashes at its end change nothing. -/
theorem drafts_accepted_and_normalised (repository : Repository) (name : String) :
    (∀ setters : List Setter,
      let url? := lastOf Setter.orchestratorUrl? setters
      let built :=
        ((start repository name).setAll setters).build.mapError Failure.invalidSubscription
      ((∃ wanted, built = .ok wanted) ↔
        (∃ c ∈ name.toList, Text.isBlank c = false) ∧ name.length ≤ 255 ∧
          ∃ url, url? = some url ∧ ∃ c ∈ url.toList, Text.isBlank c = false) ∧
      (∀ failure, built = .error failure ↔
        ∃ fault, Refused name url? fault ∧ failure = .invalidSubscription fault) ∧
      ∀ wanted, built = .ok wanted → IsSetUp repository name setters wanted) ∧
    ∀ (before after : List Setter) (url blanksBefore blanksAfter : String) (count : Nat),
      url ≠ "" → IsBare url → AllBlank blanksBefore → AllBlank blanksAfter →
      let spelling := blanksBefore ++ (url ++ slashes count) ++ blanksAfter
      let built (written : String) :=
        ((start repository name).setAll (before ++ .orchestratorUrl written :: after)).build
      built spelling = built url ∧
        ∀ wanted other, built spelling = .ok wanted → built url = .ok other →
          ∀ hooks, Reconcile.owned wanted hooks = Reconcile.owned other hooks := by
  refine ⟨fun setters => ⟨?_, ?_, ?_⟩, ?_⟩
  · simp only [mapError_eq_ok_iff, ← Text.not_allBlank_iff]
    exact exists_build_iff
  · intro failure
    simp only [mapError_eq_error_iff, build_eq_error_iff, name_behind, orchestratorUrl_behind]
    simp only [eq_comm]
  · intro wanted built
    exact isSetUp_of_build (mapError_eq_ok_iff.mp built)
  · intro before after url blanksBefore blanksAfter count nonempty bare blankBefore blankAfter
    have same := build_spelled (start repository name) before after nonempty bare blankBefore
      blankAfter count
    refine ⟨same, fun wanted other built builtToo hooks => ?_⟩
    obtain rfl : wanted = other := Except.ok.inj (built.symm.trans (same.trans builtToo))
    rfl

open Draft in
theorem drafts_accepted_and_normalised_spelled_twice :
    let url := "https://ci.example.com/jenkins"
    let spelling := "\t " ++ (url ++ slashes 2) ++ "\n"
    let repository : Repository := ⟨"PROJ", "service"⟩
    let setters (written : String) : List Setter :=
      [.orchestratorUrl " ", .onRefChange true] ++ .orchestratorUrl written :: [.mirror false]
    url ≠ "" ∧ IsBare url ∧ AllBlank "\t " ∧ AllBlank "\n" ∧
      ∃ wanted, ((start repository "ci").setAll (setters spelling)).build = .ok wanted ∧
        ((start repository "ci").setAll (setters url)).build = .ok wanted ∧
        IsSetUp repository "ci" (setters spelling) wanted := by
  intro url spelling repository setters
  have nonempty : url ≠ "" := by decide
  have bare : IsBare url := by decide
  have blankBefore : AllBlank "\t " := by decide
  have blankAfter : AllBlank "\n" := by decide
  have named : ¬ AllBlank "ci" := by decide
  have usable : ¬ AllBlank spelling := by decide
  obtain ⟨accepted, normalised⟩ := drafts_accepted_and_normalised repository "ci"
  obtain ⟨isAccepted, _, isSetUp⟩ := accepted (setters spelling)
  obtain ⟨wanted, built⟩ := isAccepted.mpr
    ⟨Text.not_allBlank_iff.mp named, by decide, spelling, rfl, Text.not_allBlank_iff.mp usable⟩
  have same := (normalised [.orchestratorUrl " ", .onRefChange true] [.mirror false] url "\t " "\n"
    2 nonempty bare blankBefore blankAfter).1
  have builtSpelling := mapError_eq_ok_iff.mp built
  exact ⟨nonempty, bare, blankBefore, blankAfter, wanted, builtSpelling,
    same.symm.trans builtSpelling, isSetUp wanted built⟩

end Subscription

end WebhookSync
