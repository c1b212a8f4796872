import WebhookSync.Proofs.Settings.Layers
import WebhookSync.Settings.Source

/-!
# Settings from the environment

Every setting has a variable of its own.  Where no other variable begins with the program's word,
the variables make a layer that gives these settings (`Sets.gives`).
-/

namespace WebhookSync.Settings

/-! ## Names -/

/-- The name of a setting's variable behind the program's word. -/
def Key.suffix : Key → String
  | serverUrl => "SERVER__BASE_URL"
  | token => "SERVER__TOKEN"
  | timeout => "SERVER__TIMEOUT_SECONDS"
  | orchestratorUrl => "ORCHESTRATOR__BASE_URL"
  | webhookName => "WEBHOOK__NAME"

/-- The variable of a setting. -/
def Key.variable (word : String) (key : Key) : String :=
  word ++ "__" ++ key.suffix

/-- The key that leads to the place of a setting. -/
def Key.path (key : Key) : String :=
  key.group ++ "." ++ key.name

theorem behind?_append (beginning text : List Char) :
    behind? beginning (beginning ++ text) = some text := by
  simp [behind?]

/-- The variable of a setting leads to its place. -/
theorem keyOf?_variable (word : String) (key : Key) :
    keyOf? word (key.variable word) = some key.path := by
  rw [keyOf?, Key.variable, Text.lowercase_append (word ++ "__"), String.toList_append,
    behind?_append, Option.map_some, Option.some_inj]
  cases key <;> decide +kernel

/-- Other variables than those that begin with the word lead nowhere. -/
theorem prefix_of_keyOf? {word name path : String} (leads : keyOf? word name = some path) :
    (Text.lowercase (word ++ "__")).toList <+: (Text.lowercase name).toList := by
  obtain ⟨rest, isBehind, _⟩ := Option.map_eq_some_iff.mp leads
  unfold behind? at isBehind
  split at isBehind
  · rename_i begins
    exact List.isPrefixOf_iff_prefix.mp begins
  · cases isBehind

/-! ## Values -/

/-- A value that a variable's text writes: a text that reads as nothing else, or an integer. -/
inductive Writes : String → Scalar → Prop where
  | text {text : String} (noTruth : Text.lowercase text ∉ ["true", "false"])
      (noInteger : integer? text.toList = none) (noFloat : float? text.toList = none) :
      Writes text (.text text)
  | integer {text : String} {value : Int} (isInteger : integer? text.toList = some value) :
      Writes text (.integer value)

theorem exists_digitChar_of_isDigit {c : Char} (isDigit : c.isDigit = true) :
    ∃ d, d < 10 ∧ Nat.digitChar d = c := by
  have bounds : 48 ≤ c.toNat ∧ c.toNat ≤ 57 := by
    simpa [Char.isDigit, UInt32.le_iff_toNat_le] using isDigit
  have all : ∀ d < 10, Nat.digitChar d = Char.ofNat (48 + d) := by decide
  refine ⟨c.toNat - 48, by omega, ?_⟩
  rw [all _ (by omega), Nat.add_sub_cancel' bounds.1, Char.ofNat_toNat]

theorem isSmall_of_isDigit {c : Char} (isDigit : c.isDigit = true) : Text.IsSmall c := by
  obtain ⟨d, below, rfl⟩ := exists_digitChar_of_isDigit isDigit
  have all : ∀ d < 10, Text.IsSmall (Nat.digitChar d) := by decide
  exact all d below

theorem isSign_or_mem_splitSign {text : List Char} {c : Char} (member : c ∈ text) :
    c ∈ ['-', '+'] ∨ c ∈ (Toml.splitSign text).2 := by
  unfold Toml.splitSign
  split
  · exact (List.mem_cons.mp member).imp_left fun same => by simp [same]
  · exact (List.mem_cons.mp member).imp_left fun same => by simp [same]
  · exact .inr member

/-- What reads as an integer consists of digits and a sign, which have no capital forms. -/
theorem isSmall_of_integer? {text : List Char} {value : Int}
    (isInteger : integer? text = some value) {c : Char} (member : c ∈ text) :
    Text.IsSmall c := by
  simp only [integer?, Option.ite_none_right_eq_some, Bool.and_eq_true] at isInteger
  rcases isSign_or_mem_splitSign member with isSign | isBehind
  · rcases List.mem_cons.mp isSign with rfl | isPlus
    · decide
    · obtain rfl := List.mem_singleton.mp isPlus
      decide
  · exact isSmall_of_isDigit (List.all_eq_true.mp isInteger.1.1.1.2 c isBehind)

/-- A text that is no truth value is an integer, a floating point value, or a text. -/
theorem variableValue_of_not_mem {text : String}
    (noTruth : Text.lowercase text ∉ ["true", "false"]) :
    variableValue text =
      match integer? text.toList, float? text.toList with
      | some n, _ => .integer n
      | none, some x => .float x
      | none, none => .text text := by
  unfold variableValue
  split
  · rename_i isTrue
    exact absurd (isTrue ▸ List.mem_cons_self) noTruth
  · rename_i isFalse
    exact absurd (isFalse ▸ List.mem_cons_of_mem _ List.mem_cons_self) noTruth
  all_goals simp only [*]

/-- What a variable's text writes is the value of the variable. -/
theorem Writes.variableValue_eq {text : String} {value : Scalar} (writes : Writes text value) :
    variableValue text = value := by
  cases writes with
  | text noTruth noInteger noFloat =>
      rw [variableValue_of_not_mem noTruth, noInteger, noFloat]
  | @integer n isInteger =>
      have same : Text.lowercase text = text :=
        Text.lowercase_eq_self fun c member => isSmall_of_integer? isInteger member
      have noTruth : Text.lowercase text ∉ ["true", "false"] := by
        rw [same]
        intro isTruth
        have noInteger : ∀ word ∈ ["true", "false"], integer? word.toList = none := by
          decide +kernel
        rw [noInteger text isTruth] at isInteger
        cases isInteger
      rw [variableValue_of_not_mem noTruth, isInteger]

theorem map_variableValue_of_rel {text : Option String} {value : Option Scalar}
    (written : Option.Rel Writes text value) : text.map variableValue = value := by
  cases written with
  | none => rfl
  | some writes => exact congrArg some writes.variableValue_eq

/-! ## Places -/

theorem parse?_path (key : Key) :
    Path.parse? key.path = some ⟨key.group, [.key key.name]⟩ := by
  cases key <;> decide +kernel

theorem lowercase_name (key : Key) : Text.lowercase key.name = key.name := by
  cases key <;> decide +kernel

/-- A setting is known from its table and its name there. -/
theorem Key.eq_of_group_of_name {key other : Key} (sameGroup : key.group = other.group)
    (sameName : key.name = other.name) : key = other := by
  revert sameGroup sameName
  cases key <;> cases other <;> decide

/-- A value that is put to the place of a setting comes there and to no other setting's place. -/
theorem areGiven_puts_path (key other : Key) (origin : Option String) (value : Scalar)
    {given : Option Scalar} (isGiven : key = other → given = some value) :
    AreGiven (puts (key.path, .scalar origin value) other.group [other.name]) given := by
  intro found isFound
  rw [puts, parse?_path] at isFound
  dsimp only at isFound
  split at isFound
  · rename_i sameGroup
    rw [putAt, lowercase_name] at isFound
    split at isFound
    · rename_i sameName
      obtain rfl := List.mem_singleton.mp isFound
      exact ⟨origin, value, rfl, isGiven (Key.eq_of_group_of_name sameGroup sameName)⟩
    · cases isFound
  · cases isFound

theorem puts_path_self (key : Key) (value : Setting) :
    puts (key.path, value) key.group [key.name] = [value] := by
  simp [puts, parse?_path, putAt, lowercase_name, partsAt]

theorem isTable_of_mem_puts_path {key other : Key} {value found : Setting}
    (isFound : found ∈ puts (key.path, value) other.group []) : found.IsTable := by
  rw [puts, parse?_path] at isFound
  dsimp only at isFound
  split at isFound
  · obtain rfl := List.mem_singleton.mp isFound
    exact ⟨none, [], rfl⟩
  · cases isFound

/-! ## Environments -/

/-- The settings whose variables are set in an environment, where every variable that begins with
the word, in whatever case, is one of these. -/
structure Sets (word : String) (environment : Environment) (texts : Key → Option String) :
    Prop where
  reads : ∀ key text, texts key = some text ↔ (key.variable word, text) ∈ environment
  only : ∀ entry ∈ environment,
    (Text.lowercase (word ++ "__")).toList <+: (Text.lowercase entry.1).toList →
      ∃ key : Key, entry.1 = key.variable word

namespace Sets

variable {word : String} {environment : Environment} {texts : Key → Option String}

theorem mem_fromEnvironment_iff (sets : Sets word environment texts)
    {entry : String × Setting} :
    entry ∈ fromEnvironment word environment ↔ ∃ key text, texts key = some text ∧
      entry = (key.path, .scalar (some environmentOrigin) (variableValue text)) := by
  rw [fromEnvironment, List.mem_filterMap]
  constructor
  · rintro ⟨⟨name, text⟩, isVariable, isEntry⟩
    obtain ⟨path, leads, rfl⟩ := Option.map_eq_some_iff.mp isEntry
    obtain ⟨key, rfl⟩ : ∃ key : Key, name = key.variable word :=
      sets.only _ isVariable (prefix_of_keyOf? leads)
    obtain rfl := Option.some.inj ((keyOf?_variable word key).symm.trans leads)
    exact ⟨key, text, (sets.reads key text).mpr isVariable, rfl⟩
  · rintro ⟨key, text, isSet, rfl⟩
    refine ⟨(key.variable word, text), (sets.reads key text).mp isSet, ?_⟩
    rw [keyOf?_variable]
    rfl

theorem gives (sets : Sets word environment texts) :
    Gives (fromEnvironment word environment) fun key => (texts key).map variableValue where
  only := by
    intro entry isEntry other
    obtain ⟨key, text, isSet, rfl⟩ := sets.mem_fromEnvironment_iff.mp isEntry
    refine areGiven_puts_path key other _ _ ?_
    rintro rfl
    rw [isSet]
    rfl
  all := by
    intro key value isGiven
    obtain ⟨text, isSet, rfl⟩ := Option.map_eq_some_iff.mp isGiven
    refine ⟨_, sets.mem_fromEnvironment_iff.mpr ⟨key, text, isSet, rfl⟩, ?_⟩
    rw [puts_path_self]
    exact List.cons_ne_nil _ _

theorem keepsGroups (sets : Sets word environment texts) :
    KeepsGroups (fromEnvironment word environment) where
  tables := by
    intro entry isEntry other found isFound
    obtain ⟨key, text, _, rfl⟩ := sets.mem_fromEnvironment_iff.mp isEntry
    exact isTable_of_mem_puts_path isFound
  forward := by
    intro entry isEntry path isPath position isStep
    obtain ⟨key, text, _, rfl⟩ := sets.mem_fromEnvironment_iff.mp isEntry
    obtain rfl := Option.some.inj ((parse?_path key).symm.trans isPath)
    cases List.mem_singleton.mp isStep

end Sets

end WebhookSync.Settings
