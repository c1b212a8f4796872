import Mathlib.Data.List.Forall2
import WebhookSync.Proofs.Settings.Tree
import WebhookSync.Proofs.Text.Lowercase
import WebhookSync.Settings.Path

/-!
# Layers of settings

A layer is a list of keys with values, which are put to the places that the keys write.  What a
layer puts to the place of one setting decides what stands there afterwards; where it puts nothing,
what stood there stays (`Gives.exists_assignAll`).  Of several layers the last one counts that gives
the setting (`exists_foldlM_assignAll`).
-/

namespace WebhookSync.Settings

/-! ## Places -/

/-- What stands at a place inside a value. -/
def partsAt : List String → Setting → List Setting
  | [], value => [value]
  | name :: place, value =>
      (value.entries.filter fun entry => Text.lowercase entry.1 == name).flatMap fun entry =>
        partsAt place entry.2

/-- What comes to a place when a value is put to the end of some steps: the value and its parts, and
the tables and lists on the way. -/
def putAt (value : Setting) : List Step → List String → List Setting
  | [], place => partsAt place value
  | .key _ :: _, [] => [.emptyTable]
  | .index _ :: _, [] => [.list none []]
  | .key name :: steps, other :: place =>
      if Text.lowercase name = other then putAt value steps place else []
  | .index _ :: _, _ :: _ => []

/-- What an entry of a layer puts to a place inside a table.  The case of a path's first word
matters only where further steps follow it. -/
def puts (entry : String × Setting) (table : String) (place : List String) : List Setting :=
  match Path.parse? entry.1 with
  | none => putAt entry.2 [.key entry.1] (table :: place)
  | some ⟨first, []⟩ => putAt entry.2 [.key first] (table :: place)
  | some ⟨first, steps⟩ => if first = table then putAt entry.2 steps place else []

/-- The settings that can be given. -/
inductive Key where
  | serverUrl
  | token
  | timeout
  | orchestratorUrl
  | webhookName
deriving DecidableEq

/-- The table in which a setting stands. -/
def Key.group : Key → String
  | serverUrl | token | timeout => "server"
  | orchestratorUrl => "orchestrator"
  | webhookName => "webhook"

/-- The name of a setting in its table. -/
def Key.name : Key → String
  | serverUrl | orchestratorUrl => "base_url"
  | token => "token"
  | timeout => "timeout_seconds"
  | webhookName => "name"

/-- All values are without parts, and they are what is given. -/
def AreGiven (values : List Setting) (given : Option Scalar) : Prop :=
  ∀ found ∈ values, ∃ origin value, found = .scalar origin value ∧ given = some value

/-- The settings that a layer gives: nothing but the given value is put to the place of each, and a
value that is given is put there. -/
structure Gives (layer : List (String × Setting)) (given : Key → Option Scalar) : Prop where
  only : ∀ entry ∈ layer, ∀ key : Key, AreGiven (puts entry key.group [key.name]) (given key)
  all : ∀ key value, given key = some value →
    ∃ entry ∈ layer, puts entry key.group [key.name] ≠ []

/-- A layer that puts nothing but tables to the places where tables of settings are read, and whose
keys do not count positions from the end of a list. -/
structure KeepsGroups (layer : List (String × Setting)) : Prop where
  tables : ∀ entry ∈ layer, ∀ key : Key, ∀ found ∈ puts entry key.group [], found.IsTable
  forward : ∀ entry ∈ layer, ∀ path, Path.parse? entry.1 = some path →
    ∀ position, .index position ∈ path.steps → 0 ≤ position

/-- A key that is a single word leads to its table, and no further. -/
theorem puts_of_word {word : String} (isWord : Path.parse? word = some ⟨word, []⟩)
    (value : Setting) (table : String) (place : List String) :
    puts (word, value) table place =
      if Text.lowercase word = table then partsAt place value else [] := by
  simp only [puts, isWord, putAt]

/-! ## Single entries -/

/-- Put the value of an entry to the place that its key names. -/
def assignEntry (root : Setting) (entry : String × Setting) : Option Setting :=
  match Path.parse? entry.1 with
  | some path => path.assign root entry.2
  | none => some (root.lay entry.1 entry.2)

theorem assignAll_cons (root : Setting) (entry : String × Setting)
    (rest : List (String × Setting)) :
    assignAll root (entry :: rest) =
      (assignEntry root entry).bind fun next => assignAll next rest :=
  rfl

/-- What holds when values come to the place of an old one. -/
def override (values : List Setting) (given old : Option Scalar) : Option Scalar :=
  bif values.isEmpty then old else given

section Group

variable {group value : Setting} {name : String} {old given : Option Scalar}

/-- A table is laid over the table of a group. -/
theorem holds_laidOver (holds : group.Holds name old) (isTable : value.IsTable)
    (areGiven : AreGiven (partsAt [name] value) given) :
    (Setting.laidOver group value).Holds name (override (partsAt [name] value) given old) := by
  obtain ⟨origin, entries, rfl⟩ := isTable
  have parts : partsAt [name] (.table origin entries) =
      (entries.filter fun entry => Text.lowercase entry.1 == name).map Prod.snd := by
    rw [List.map_eq_flatMap]
    rfl
  have isEmpty : (partsAt [name] (.table origin entries)).isEmpty =
      !entries.any fun entry => Text.lowercase entry.1 == name := by
    rw [parts, Bool.eq_iff_iff]
    simp
  rw [override, isEmpty, Bool.cond_not]
  refine holds.layAll fun entry isEntry isName => areGiven entry.2 ?_
  rw [parts]
  exact List.mem_map_of_mem (List.mem_filter.mpr ⟨isEntry, beq_iff_eq.mpr isName⟩)

/-- A value is put to the end of some steps inside a group. -/
theorem holds_assignSteps (holds : group.Holds name old) {steps : List Step} (isPath : steps ≠ [])
    (tables : ∀ found ∈ putAt value steps [], found.IsTable)
    (areGiven : AreGiven (putAt value steps [name]) given) {inner : Setting}
    (assigned : Path.assignSteps value steps group = some inner) :
    inner.IsTable ∧ inner.Holds name (override (putAt value steps [name]) given old) := by
  cases steps with
  | nil => exact absurd rfl isPath
  | cons step steps =>
      cases step with
      | index position =>
          obtain ⟨_, _, isTable⟩ := tables _ List.mem_cons_self
          cases isTable
      | key word =>
          cases steps with
          | nil =>
              obtain rfl := Option.some.inj assigned
              refine ⟨Setting.isTable_lay _ _ _, ?_⟩
              have laid : (group.lay (Text.lowercase word) value).Holds name
                  (bif Text.lowercase (Text.lowercase word) == name then given else old) := by
                refine holds.lay fun same => areGiven value ?_
                rw [Text.lowercase_lowercase] at same
                simp [putAt, same, partsAt]
              rw [Text.lowercase_lowercase] at laid
              by_cases same : Text.lowercase word = name
              · simpa [override, putAt, same, partsAt] using laid
              · simpa [override, putAt, same, beq_false_of_ne same] using laid
          | cons next steps =>
              obtain ⟨deeper, _, stored⟩ := Option.bind_eq_some_iff.mp assigned
              obtain rfl := Option.some.inj stored
              refine ⟨Setting.isTable_store _ _ _, ?_⟩
              by_cases same : Text.lowercase word = name
              · -- Further steps lead through a table or a list, which is no given value.
                rw [putAt, if_pos same] at areGiven
                cases next <;> obtain ⟨_, _, isScalar, _⟩ := areGiven _ List.mem_cons_self <;>
                  cases isScalar
              · rw [putAt, if_neg same]
                exact holds.store_of_ne (Ne.symm same) _

end Group

/-! ## One setting -/

/-- The group of a setting is a table, which has the setting's value under its name, or nothing. -/
def StandsAt (root : Setting) (key : Key) (value : Option Scalar) : Prop :=
  ∃ group : Setting, root.get? key.group = some group ∧ group.IsTable ∧ group.Holds key.name value

namespace StandsAt

variable {root : Setting} {key : Key} {old given : Option Scalar}

theorem store_self {group : Setting} (isTable : group.IsTable)
    (holds : group.Holds key.name old) : StandsAt (root.store key.group group) key old :=
  ⟨group, Setting.get?_store_self root key.group group, isTable, holds⟩

theorem store_of_ne (stands : StandsAt root key old) {word : String} (differ : key.group ≠ word)
    (inner : Setting) : StandsAt (root.store word inner) key old := by
  obtain ⟨group, isGroup, isTable, holds⟩ := stands
  exact ⟨group, (Setting.get?_store_of_ne differ root inner).trans isGroup, isTable, holds⟩

/-- A value is laid under a word. -/
theorem lay (stands : StandsAt root key old) {word : String} {value : Setting}
    (tables : ∀ found ∈ putAt value [.key word] [key.group], found.IsTable)
    (areGiven : AreGiven (putAt value [.key word] [key.group, key.name]) given) :
    StandsAt (root.lay word value) key
      (override (putAt value [.key word] [key.group, key.name]) given old) := by
  rw [Setting.lay_eq_store]
  by_cases same : Text.lowercase word = key.group
  · obtain ⟨group, isGroup, isTable, holds⟩ := stands
    simp only [putAt, if_pos same] at tables areGiven ⊢
    have valueIsTable : value.IsTable := tables value List.mem_cons_self
    rw [same, isGroup]
    refine store_self ?_ (holds_laidOver holds valueIsTable areGiven)
    obtain ⟨origin, entries, rfl⟩ := valueIsTable
    exact Setting.isTable_layAll isTable entries
  · simp only [putAt, if_neg same]
    exact stands.store_of_ne (Ne.symm same) _

/-- The value of an entry is put to the place that its key names. -/
theorem assignEntry {entry : String × Setting} {next : Setting} (stands : StandsAt root key old)
    (tables : ∀ found ∈ puts entry key.group [], found.IsTable)
    (areGiven : AreGiven (puts entry key.group [key.name]) given)
    (assigned : Settings.assignEntry root entry = some next) :
    StandsAt next key (override (puts entry key.group [key.name]) given old) := by
  unfold Settings.assignEntry at assigned
  unfold puts at tables areGiven ⊢
  split at assigned
  · rename_i path isPath
    obtain ⟨first, steps⟩ := path
    rw [isPath] at tables areGiven ⊢
    cases steps with
    | nil =>
        obtain rfl := Option.some.inj assigned
        exact stands.lay tables areGiven
    | cons step steps =>
        obtain ⟨inner, isInner, stored⟩ := Option.bind_eq_some_iff.mp assigned
        obtain rfl := Option.some.inj stored
        dsimp only at tables areGiven isInner ⊢
        by_cases same : first = key.group
        · obtain ⟨group, isGroup, _, holds⟩ := stands
          rw [if_pos same] at tables areGiven ⊢
          rw [same, isGroup] at isInner
          obtain ⟨isTable, holdsInner⟩ :=
            holds_assignSteps holds (List.cons_ne_nil _ _) tables areGiven isInner
          rw [same]
          exact store_self isTable holdsInner
        · rw [if_neg same]
          exact stands.store_of_ne (Ne.symm same) inner
  · rename_i noPath
    obtain rfl := Option.some.inj assigned
    rw [noPath] at tables areGiven ⊢
    exact stands.lay tables areGiven

end StandsAt

/-! ## Whole layers -/

/-- A value can be put to the end of steps that do not count from the end of a list. -/
theorem exists_assignSteps (value : Setting) {steps : List Step}
    (forward : ∀ position, .index position ∈ steps → 0 ≤ position) (setting : Setting) :
    ∃ inner, Path.assignSteps value steps setting = some inner := by
  induction steps generalizing setting with
  | nil => exact ⟨value, rfl⟩
  | cons step steps ih =>
      have onward := ih fun position member => forward position (List.mem_cons_of_mem _ member)
      cases step with
      | key name =>
          cases steps with
          | nil => exact ⟨_, rfl⟩
          | cons next steps =>
              obtain ⟨inner, isInner⟩ := onward ((setting.get? (Text.lowercase name)).getD .null)
              exact ⟨setting.store (Text.lowercase name) inner, by simp [Path.assignSteps, isInner]⟩
      | index position =>
          have isForward : 0 ≤ position := forward position List.mem_cons_self
          obtain ⟨inner, isInner⟩ :=
            onward ((Path.itemsOf setting).2.getD position.toNat .null)
          have isPlace (length : Nat) : Path.place? position length = some position.toNat :=
            if_pos isForward
          refine ⟨.list (Path.itemsOf setting).1
            (Path.setItem (Path.itemsOf setting).2 position.toNat inner), ?_⟩
          simp only [Path.assignSteps, isPlace, Option.bind_eq_bind, Option.bind_some, isInner]
          rfl

theorem exists_assignEntry {entry : String × Setting}
    (forward : ∀ path, Path.parse? entry.1 = some path →
      ∀ position, .index position ∈ path.steps → 0 ≤ position) (root : Setting) :
    ∃ next, assignEntry root entry = some next := by
  unfold assignEntry
  cases isPath : Path.parse? entry.1 with
  | none => exact ⟨_, rfl⟩
  | some path =>
      obtain ⟨first, steps⟩ := path
      cases steps with
      | nil => exact ⟨_, rfl⟩
      | cons step steps =>
          obtain ⟨inner, isInner⟩ := exists_assignSteps entry.2 (forward _ isPath)
            ((root.get? first).getD .null)
          exact ⟨root.store first inner, by simp [Path.assign, isInner]⟩

theorem override_append (first second : List Setting) (given old : Option Scalar) :
    override (first ++ second) given old = override second given (override first given old) := by
  cases first <;> cases second <;> rfl

/-- All that a layer puts to a place inside a table. -/
def layerPuts (layer : List (String × Setting)) (table : String) (place : List String) :
    List Setting :=
  layer.flatMap fun entry => puts entry table place

/-- After a layer, what it gives stands where it was given, and everything else as before. -/
theorem exists_assignAll {layer : List (String × Setting)} {given : Key → Option Scalar}
    (areGiven : ∀ entry ∈ layer, ∀ key : Key,
      AreGiven (puts entry key.group [key.name]) (given key))
    (keeps : KeepsGroups layer) (root : Setting) :
    ∃ final, assignAll root layer = some final ∧
      ∀ key old, StandsAt root key old →
        StandsAt final key (override (layerPuts layer key.group [key.name]) (given key) old) := by
  obtain ⟨tables, forward⟩ := keeps
  induction layer generalizing root with
  | nil => exact ⟨root, rfl, fun key old stands => stands⟩
  | cons entry rest ih =>
      obtain ⟨givenFirst, givenRest⟩ := List.forall_mem_cons.mp areGiven
      obtain ⟨tablesFirst, tablesRest⟩ := List.forall_mem_cons.mp tables
      obtain ⟨forwardFirst, forwardRest⟩ := List.forall_mem_cons.mp forward
      obtain ⟨next, isNext⟩ := exists_assignEntry forwardFirst root
      obtain ⟨final, isFinal, standsFinal⟩ := ih givenRest next tablesRest forwardRest
      refine ⟨final, ?_, fun key old stands => ?_⟩
      · rw [assignAll_cons, isNext, Option.bind_some, isFinal]
      · rw [layerPuts, List.flatMap_cons, override_append]
        exact standsFinal key _ (stands.assignEntry (tablesFirst key) (givenFirst key) isNext)

/-- A layer that gives settings overrides these and no others. -/
theorem Gives.exists_assignAll {layer : List (String × Setting)} {given : Key → Option Scalar}
    (gives : Gives layer given) (keeps : KeepsGroups layer) (root : Setting) :
    ∃ final, assignAll root layer = some final ∧
      ∀ key old, StandsAt root key old → StandsAt final key ((given key).or old) := by
  obtain ⟨final, isFinal, stands⟩ := Settings.exists_assignAll gives.only keeps root
  refine ⟨final, isFinal, fun key old standsBefore => ?_⟩
  have standsAfter := stands key old standsBefore
  cases isGiven : given key with
  | none =>
      have nothing : layerPuts layer key.group [key.name] = [] := by
        rw [layerPuts, List.flatMap_eq_nil_iff]
        intro entry isEntry
        rw [List.eq_nil_iff_forall_not_mem]
        intro found isFound
        obtain ⟨_, _, _, isSome⟩ := gives.only entry isEntry key found isFound
        rw [isGiven] at isSome
        cases isSome
      rw [nothing] at standsAfter
      exact standsAfter
  | some value =>
      obtain ⟨entry, isEntry, something⟩ := gives.all key value isGiven
      have nonempty : (layerPuts layer key.group [key.name]).isEmpty = false := by
        rw [List.isEmpty_eq_false_iff]
        exact fun isNil => something (List.flatMap_eq_nil_iff.mp isNil entry isEntry)
      rw [override, nonempty, cond_false, isGiven] at standsAfter
      exact standsAfter

/-- Layers one after the other: of what is given for a setting, the last counts. -/
theorem exists_foldlM_assignAll {layers : List (List (String × Setting))}
    {givens : List (Key → Option Scalar)} (gives : List.Forall₂ Gives layers givens)
    (keeps : ∀ layer ∈ layers, KeepsGroups layer) (root : Setting) :
    ∃ final, layers.foldlM assignAll root = some final ∧
      ∀ key old, StandsAt root key old →
        StandsAt final key (givens.foldl (fun value given => (given key).or value) old) := by
  induction gives generalizing root with
  | nil => exact ⟨root, rfl, fun key old stands => stands⟩
  | @cons layer given layers givens givesFirst _ ih =>
      obtain ⟨keepsFirst, keepsRest⟩ := List.forall_mem_cons.mp keeps
      obtain ⟨next, isNext, standsNext⟩ := givesFirst.exists_assignAll keepsFirst root
      obtain ⟨final, isFinal, standsFinal⟩ := ih keepsRest next
      refine ⟨final, ?_, fun key old stands => ?_⟩
      · rw [List.foldlM_cons, isNext, Option.bind_eq_bind, Option.bind_some, isFinal]
      · exact standsFinal key _ (standsNext key old stands)

end WebhookSync.Settings
