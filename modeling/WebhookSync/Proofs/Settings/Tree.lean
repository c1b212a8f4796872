import WebhookSync.Settings.Value

/-!
# Trees of settings

What stands under one key of a table when values are stored in it, and when entries are laid over
it.  Only what comes under this key, without regard to case, makes a difference.
-/

namespace WebhookSync.Setting

/-! ## Storing -/

theorem find?_replaceEntry_self (key : String) (value : Setting)
    (entries : List (String × Setting)) :
    (replaceEntry key value entries).find? (fun entry => entry.1 == key) = some (key, value) := by
  induction entries with
  | nil => simp [replaceEntry]
  | cons entry rest ih =>
      rw [replaceEntry]
      split
      · simp
      · rename_i differ
        rw [List.find?_cons_of_neg (by simpa using differ), ih]

theorem find?_replaceEntry_of_ne {key other : String} (differ : other ≠ key) (value : Setting)
    (entries : List (String × Setting)) :
    (replaceEntry key value entries).find? (fun entry => entry.1 == other) =
      entries.find? fun entry => entry.1 == other := by
  induction entries with
  | nil => simp [replaceEntry, Ne.symm differ]
  | cons entry rest ih =>
      rw [replaceEntry]
      split
      · rename_i same
        rw [List.find?_cons_of_neg (by simpa using Ne.symm differ),
          List.find?_cons_of_neg (by simpa [same] using Ne.symm differ)]
      · rw [List.find?_cons, List.find?_cons, ih]

@[simp]
theorem get?_store_self (setting : Setting) (key : String) (value : Setting) :
    (setting.store key value).get? key = some value := by
  cases setting with
  | table origin entries => simp [store, get?, Setting.entries, find?_replaceEntry_self]
  | _ => simp [store, get?, Setting.entries]

theorem get?_store_of_ne {key other : String} (differ : other ≠ key) (setting value : Setting) :
    (setting.store key value).get? other = setting.get? other := by
  cases setting with
  | table origin entries =>
      simp [store, get?, Setting.entries, find?_replaceEntry_of_ne differ]
  | _ => simp [store, get?, Setting.entries, Ne.symm differ]

/-- A table. -/
def IsTable (setting : Setting) : Prop :=
  ∃ origin entries, setting = .table origin entries

theorem isTable_store (setting : Setting) (key : String) (value : Setting) :
    (setting.store key value).IsTable := by
  cases setting <;> exact ⟨_, _, rfl⟩

/-! ## Laying -/

/-- What is stored where a value is laid over an old one: a table is laid over it entry by entry,
anything else takes its place. -/
def laidOver (old : Setting) : Setting → Setting
  | .table _ incoming => layAll old incoming
  | value => value

theorem lay_eq_store (setting : Setting) (key : String) (value : Setting) :
    setting.lay key value = setting.store (Text.lowercase key)
      (laidOver ((setting.get? (Text.lowercase key)).getD emptyTable) value) := by
  cases value <;> simp only [lay, laidOver]

theorem isTable_lay (setting : Setting) (key : String) (value : Setting) :
    (setting.lay key value).IsTable := by
  rw [lay_eq_store]
  exact isTable_store _ _ _

theorem isTable_layAll {setting : Setting} (isTable : setting.IsTable)
    (entries : List (String × Setting)) : (setting.layAll entries).IsTable := by
  induction entries generalizing setting with
  | nil => exact isTable
  | cons entry rest ih => exact ih (isTable_lay setting entry.1 entry.2)

/-! ## One key -/

/-- What is given twice is what is given at least once. -/
theorem cond_cond {α : Type} (first second : Bool) (given old : α) :
    (bif second then given else bif first then given else old) =
      bif first || second then given else old := by
  cases first <;> cases second <;> rfl

/-- A table has nothing under a name, or a value without parts. -/
inductive Holds (table : Setting) (name : String) : Option Scalar → Prop where
  | nothing (absent : table.get? name = none) : Holds table name none
  | value {origin : Option String} {value : Scalar}
      (present : table.get? name = some (.scalar origin value)) : Holds table name (some value)

namespace Holds

variable {table : Setting} {key name : String} {old given : Option Scalar}

theorem of_get?_eq {other : Setting} (same : other.get? name = table.get? name)
    (holds : Holds table name old) : Holds other name old := by
  cases holds with
  | nothing absent => exact .nothing (same.trans absent)
  | value present => exact .value (same.trans present)

theorem store_self (table : Setting) (name : String) (origin : Option String) (value : Scalar) :
    Holds (table.store name (.scalar origin value)) name (some value) :=
  .value (get?_store_self table name _)

theorem store_of_ne (differ : name ≠ key) (value : Setting) (holds : Holds table name old) :
    Holds (table.store key value) name old :=
  holds.of_get?_eq (get?_store_of_ne differ table value)

/-- Laying a value under a key matters for that name only. -/
theorem lay {value : Setting} (holds : Holds table name old)
    (gives : Text.lowercase key = name →
      ∃ origin found, value = .scalar origin found ∧ given = some found) :
    Holds (table.lay key value) name (bif Text.lowercase key == name then given else old) := by
  rw [lay_eq_store]
  by_cases same : Text.lowercase key = name
  · obtain ⟨origin, found, rfl, rfl⟩ := gives same
    rw [beq_iff_eq.mpr same, cond_true, same]
    exact store_self table name origin found
  · rw [beq_false_of_ne same, cond_false]
    exact holds.store_of_ne (Ne.symm same) _

/-- Laying entries over a table matters for a name if one of them has it. -/
theorem layAll {entries : List (String × Setting)} (holds : Holds table name old)
    (gives : ∀ entry ∈ entries, Text.lowercase entry.1 = name →
      ∃ origin found, entry.2 = .scalar origin found ∧ given = some found) :
    Holds (table.layAll entries) name
      (bif entries.any fun entry => Text.lowercase entry.1 == name then given else old) := by
  induction entries generalizing table old with
  | nil => exact holds
  | cons entry rest ih =>
      obtain ⟨givesFirst, givesRest⟩ := List.forall_mem_cons.mp gives
      have onward := ih (holds.lay givesFirst) givesRest
      rw [cond_cond] at onward
      exact onward

end Holds

end WebhookSync.Setting
