import WebhookSync.Proofs.Settings.Layers
import WebhookSync.Settings.Basic

/-!
# Reading settings off a tree

Where every setting stands in its table, the settings are read from there.  In front of all layers
stand the defaults.
-/

namespace WebhookSync

/-- The text that is read off a value; nothing is no text. -/
def Scalar.text? : Scalar → Option String
  | .null => none
  | .bool value => some (toString value)
  | .integer value => some (toString value)
  | .float value => some (Decimal.plain.render value)
  | .text value => some value

namespace Settings

/-! ## Single values -/

theorem textOf_of_text? {value : Scalar} {text : String} (isText : value.text? = some text)
    (key : String) (origin : Option String) : textOf key (.scalar origin value) = .ok text := by
  cases value <;> cases isText <;> rfl

theorem optionalTextOf_scalar (key : String) (origin : Option String) (value : Scalar) :
    optionalTextOf key (.scalar origin value) = .ok value.text? := by
  cases value <;> rfl

theorem wholeOf_integer {value : Int} (isWhole : 0 ≤ value) (key : String)
    (origin : Option String) :
    wholeOf key (.scalar origin (.integer value)) = .ok value.toNat.toUInt64 :=
  if_neg (Int.not_lt.mpr isWhole)

/-! ## Groups -/

/-- The group of settings that a table makes. -/
def tableGroup (key : String) (table : Setting) : Group where
  find? := fun name _ => (table.get? name).map fun found => (key ++ "." ++ name, found)
  missing := fun name _ => .missingField name

theorem find?_tableGroup (key : String) (table : Setting) (name : String) (position : Nat) :
    (tableGroup key table).find? name position =
      (table.get? name).map fun found => (key ++ "." ++ name, found) :=
  rfl

theorem groupOf_of_isTable {table : Setting} (isTable : table.IsTable) (key expected : String)
    (size : Nat) : groupOf key expected size table = .ok (tableGroup key table) := by
  obtain ⟨origin, entries, rfl⟩ := isTable
  rfl

section Group

variable {α : Type} {table : Setting} {name : String} {value : Scalar} {result : Except Fault α}
  {read : String → Setting → Except Fault α}

/-- A setting that stands in its table is read, needed or not. -/
theorem require_tableGroup (holds : table.Holds name (some value))
    (reads : ∀ key origin, read key (.scalar origin value) = result) (key : String)
    (position : Nat) : (tableGroup key table).require name position read = result := by
  obtain ⟨_⟩ | ⟨present⟩ := holds
  rw [Group.require, find?_tableGroup, present]
  exact reads _ _

theorem optional_tableGroup (holds : table.Holds name (some value))
    (reads : ∀ key origin, read key (.scalar origin value) = result) (key : String)
    (position : Nat) (default : α) :
    (tableGroup key table).optional name position default read = result := by
  obtain ⟨_⟩ | ⟨present⟩ := holds
  rw [Group.optional, find?_tableGroup, present]
  exact reads _ _

theorem optional_tableGroup_of_nothing (nothing : table.Holds name none) (key : String)
    (position : Nat) (default : α) :
    (tableGroup key table).optional name position default read = .ok default := by
  obtain ⟨absent⟩ := nothing
  rw [Group.optional, find?_tableGroup, absent]
  rfl

end Group

/-! ## The whole tree -/

/-- Where all settings stand in their tables, they are read from there. -/
theorem ofTree_of_standsAt {root : Setting} {values : Key → Option Scalar}
    (stands : ∀ key, StandsAt root key (values key))
    {serverUrl orchestratorUrl webhookName : String}
    (isUrl : (values .serverUrl).bind Scalar.text? = some serverUrl)
    {seconds : Int} (isTimeout : values .timeout = some (.integer seconds)) (isWhole : 0 ≤ seconds)
    (isOrchestrator : (values .orchestratorUrl).bind Scalar.text? = some orchestratorUrl)
    (isName : (values .webhookName).bind Scalar.text? = some webhookName) :
    ofTree root = .ok
      ⟨⟨serverUrl, (values .token).bind Scalar.text?, seconds.toNat.toUInt64⟩, orchestratorUrl,
        webhookName⟩ := by
  obtain ⟨server, isServer, isTable, holdsUrl⟩ := stands .serverUrl
  obtain ⟨serverAgain, isServerAgain, _, holdsToken⟩ := stands .token
  obtain rfl : server = serverAgain := Option.some.inj (isServer.symm.trans isServerAgain)
  obtain ⟨serverAgain, isServerAgain, _, holdsTimeout⟩ := stands .timeout
  obtain rfl : server = serverAgain := Option.some.inj (isServer.symm.trans isServerAgain)
  obtain ⟨orchestrator, isGroup, isGroupTable, holdsOrchestrator⟩ := stands .orchestratorUrl
  obtain ⟨webhook, isWebhook, isWebhookTable, holdsName⟩ := stands .webhookName
  obtain ⟨urlValue, isUrlValue, isUrl⟩ := Option.bind_eq_some_iff.mp isUrl
  obtain ⟨orchestratorValue, isOrchestratorValue, isOrchestrator⟩ :=
    Option.bind_eq_some_iff.mp isOrchestrator
  obtain ⟨nameValue, isNameValue, isName⟩ := Option.bind_eq_some_iff.mp isName
  rw [isUrlValue] at holdsUrl
  rw [isTimeout] at holdsTimeout
  rw [isOrchestratorValue] at holdsOrchestrator
  rw [isNameValue] at holdsName
  have readUrl := require_tableGroup holdsUrl (textOf_of_text? isUrl) "server" 0
  have readTimeout := optional_tableGroup holdsTimeout (wholeOf_integer isWhole) "server" 2
    ServerSettings.defaultTimeout
  have readOrchestrator :=
    require_tableGroup holdsOrchestrator (textOf_of_text? isOrchestrator) "orchestrator" 0
  have readName := optional_tableGroup holdsName (textOf_of_text? isName) "webhook" 0 defaultName
  have readToken : (tableGroup "server" server).optional "token" 1 none optionalTextOf =
      .ok ((values .token).bind Scalar.text?) := by
    cases isToken : values .token with
    | none =>
        rw [isToken] at holdsToken
        exact optional_tableGroup_of_nothing holdsToken "server" 1 none
    | some value =>
        rw [isToken] at holdsToken
        exact optional_tableGroup holdsToken
          (fun key origin => optionalTextOf_scalar key origin value) "server" 1 none
  have readServer : serverOf server =
      .ok ⟨serverUrl, (values .token).bind Scalar.text?, seconds.toNat.toUInt64⟩ := by
    rw [serverOf, groupOf_of_isTable isTable]
    simp only [bind, Except.bind, Key.name] at readUrl readTimeout ⊢
    simp only [readUrl, readToken, readTimeout]
    rfl
  simp only [Key.group, Key.name] at isServer isGroup isWebhook readOrchestrator readName
  simp only [ofTree, isServer, isGroup, isWebhook, bind, Except.bind, readServer,
    groupOf_of_isTable isGroupTable, groupOf_of_isTable isWebhookTable, readOrchestrator, readName]
  rfl

/-- The text of a setting; the time limit is written out. -/
def textAt (settings : Settings) : Key → Option String
  | .serverUrl => some settings.server.baseUrl
  | .token => settings.server.token
  | .timeout => some (toString settings.server.timeoutSeconds.toNat)
  | .orchestratorUrl => some settings.orchestratorUrl
  | .webhookName => some settings.webhookName

/-- Where texts stand for the settings that must be there, settings are read, and their texts are
those that stand there. -/
theorem exists_ofTree {root : Setting} {values : Key → Option Scalar}
    (stands : ∀ key, StandsAt root key (values key))
    (readable : ∀ key, key ≠ .token → key ≠ .timeout →
      ∃ text, (values key).bind Scalar.text? = some text)
    (timeout : ∃ seconds, values .timeout = some (.integer seconds) ∧ 0 ≤ seconds) :
    ∃ settings, ofTree root = .ok settings ∧
      ∀ key, key ≠ .timeout → settings.textAt key = (values key).bind Scalar.text? := by
  obtain ⟨seconds, isTimeout, isWhole⟩ := timeout
  obtain ⟨serverUrl, isUrl⟩ := readable .serverUrl (by decide) (by decide)
  obtain ⟨orchestratorUrl, isOrchestrator⟩ := readable .orchestratorUrl (by decide) (by decide)
  obtain ⟨webhookName, isName⟩ := readable .webhookName (by decide) (by decide)
  refine ⟨_, ofTree_of_standsAt stands isUrl isTimeout isWhole isOrchestrator isName, ?_⟩
  intro key isText
  cases key with
  | serverUrl => exact isUrl.symm
  | token => rfl
  | timeout => exact absurd rfl isText
  | orchestratorUrl => exact isOrchestrator.symm
  | webhookName => exact isName.symm

/-! ## Defaults -/

/-- What stands in the tree of the defaults. -/
def defaultValue : Key → Option Scalar
  | .serverUrl => some (.text defaults.server.baseUrl)
  | .token => none
  | .timeout => some (.integer defaults.server.timeoutSeconds.toNat)
  | .orchestratorUrl => some (.text defaults.orchestratorUrl)
  | .webhookName => some (.text defaults.webhookName)

theorem standsAt_defaultTree (key : Key) : StandsAt defaultTree key (defaultValue key) := by
  cases key with
  | token => exact ⟨_, rfl, ⟨_, _, rfl⟩, .nothing rfl⟩
  | _ => exact ⟨_, rfl, ⟨_, _, rfl⟩, .value rfl⟩

/-- The value of a setting when layers are laid over the defaults. -/
def overDefaults (givens : List (Key → Option Scalar)) (key : Key) : Option Scalar :=
  givens.foldl (fun value given => (given key).or value) (defaultValue key)

/-- Layers over the defaults: every setting is what the last layer gives for it. -/
theorem exists_ofLayers {layers : List (List (String × Setting))}
    {givens : List (Key → Option Scalar)} (gives : List.Forall₂ Gives layers givens)
    (keeps : ∀ layer ∈ layers, KeepsGroups layer) :
    ∃ root, ofLayers layers = ofTree root ∧
      ∀ key, StandsAt root key (overDefaults givens key) := by
  obtain ⟨root, isRoot, stands⟩ := exists_foldlM_assignAll gives keeps defaultTree
  refine ⟨root, ?_, fun key => stands key _ (standsAt_defaultTree key)⟩
  rw [ofLayers, isRoot]

end Settings

end WebhookSync
