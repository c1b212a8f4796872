import WebhookSync.Proofs.Json.Printing
import WebhookSync.Proofs.Settings.Reading
import WebhookSync.Proofs.Settings.Variables

/-!
# Texts from the environment

The text of a variable is read as a truth value or a number where it looks like one, and written out
again where a text is needed.  Only texts that are written the same way come through unchanged
(`Settings.environment_texts_survive_iff`).  A token of digits loses its leading zeros
(`Settings.survives_digits_iff`).
-/

namespace WebhookSync.Settings

open Json (IsDigits IsWhole)

/-! ## Texts that come through -/

/-- A text that looks neither like a truth value nor like a number, or that is written as such
values are written out: in small letters, without a plus sign, with no more digits than needed. -/
def Survives (text : String) : Prop :=
  if Text.lowercase text ∈ ["true", "false"] then text ∈ ["true", "false"]
  else
    match integer? text.toList, float? text.toList with
    | some n, _ => toString n = text
    | none, some x => Decimal.plain.render x = text
    | none, none => True

theorem variableValue_of_lowercase {text : String} {value : Bool}
    (isTruth : Text.lowercase text = toString value) : variableValue text = .bool value := by
  cases value <;> simp only [variableValue, isTruth] <;> rfl

/-- The value of a variable reads as the variable's text just when the text comes through. -/
theorem text?_variableValue_eq_some_iff (text : String) :
    (variableValue text).text? = some text ↔ Survives text := by
  by_cases isTruth : Text.lowercase text ∈ ["true", "false"]
  · obtain ⟨value, isValue⟩ : ∃ value : Bool, Text.lowercase text = toString value := by
      rcases List.mem_cons.mp isTruth with isTrue | isFalse
      · exact ⟨true, isTrue⟩
      · exact ⟨false, List.mem_singleton.mp isFalse⟩
    have small : ∀ word ∈ ["true", "false"], Text.lowercase word = word := by decide +kernel
    rw [variableValue_of_lowercase isValue, Survives, if_pos isTruth]
    constructor
    · intro same
      obtain rfl := Option.some.inj same
      cases value <;> decide
    · intro isWord
      rw [small text isWord] at isValue
      exact congrArg some isValue.symm
  · rw [variableValue_of_not_mem isTruth, Survives, if_neg isTruth]
    cases integer? text.toList with
    | some n => exact Option.some_inj
    | none =>
        cases float? text.toList with
        | some x => exact Option.some_inj
        | none => exact iff_of_true rfl trivial

/-- Every text of a variable reads as some text. -/
theorem exists_text?_variableValue (text : String) :
    ∃ shown, (variableValue text).text? = some shown := by
  unfold variableValue
  split <;> exact ⟨_, rfl⟩

/-! ## Digits -/

theorem hexValue?_digitChar {d : Nat} (below : d < 10) :
    Text.hexValue? (Nat.digitChar d) = some d := by
  have all : ∀ d < 10, Text.hexValue? (Nat.digitChar d) = some d := by decide
  exact all d below

/-- Digits behind a number that is not zero are written out as they are. -/
theorem toDigits_append_digits {digits : List Char} (areDigits : ∀ c ∈ digits, c.isDigit = true)
    {n : Nat} (positive : 0 < n) :
    Nat.toDigits 10 n ++ digits =
      Nat.toDigits 10 (digits.foldl (fun n c => n * 10 + (Text.hexValue? c).getD 0) n) := by
  induction digits generalizing n with
  | nil => exact List.append_nil _
  | cons c rest ih =>
      obtain ⟨isDigit, others⟩ := List.forall_mem_cons.mp areDigits
      obtain ⟨d, below, rfl⟩ := exists_digitChar_of_isDigit isDigit
      have joined := Nat.toDigits_append_toDigits (b := 10) (by decide) positive below
      rw [Nat.toDigits_of_lt_base below] at joined
      have onward := ih others (n := 10 * n + d) (by omega)
      rw [← joined, List.append_assoc, List.singleton_append] at onward
      rw [onward, List.foldl_cons, hexValue?_digitChar below, Option.getD_some, Nat.mul_comm n]

/-- A number is written out with the digits that it was read from, if these are no more than
needed. -/
theorem toDigits_ofDigits_eq_iff {digits : List Char} (isDigits : IsDigits digits) :
    Nat.toDigits 10 (Text.ofDigits 10 digits) = digits ↔ IsWhole digits := by
  constructor
  · intro same
    rw [← same]
    exact Json.isWhole_toDigits _
  · rintro ⟨⟨nonempty, areDigits⟩, noZero⟩
    cases digits with
    | nil => exact absurd rfl nonempty
    | cons c rest =>
        obtain ⟨isDigit, others⟩ := List.forall_mem_cons.mp areDigits
        obtain ⟨d, below, rfl⟩ := exists_digitChar_of_isDigit isDigit
        rcases Nat.eq_zero_or_pos d with rfl | positive
        · obtain ⟨_, rfl⟩ := List.cons.inj (noZero rfl)
          rfl
        · have written := toDigits_append_digits others positive
          rw [Nat.toDigits_of_lt_base below, List.singleton_append] at written
          rw [Text.ofDigits, List.foldl_cons, hexValue?_digitChar below, Option.getD_some,
            Nat.zero_mul, Nat.zero_add, ← written]

theorem splitSign_of_isDigits {digits : List Char} (isDigits : IsDigits digits) :
    Toml.splitSign digits = (false, digits) := by
  unfold Toml.splitSign
  split
  · exact absurd (isDigits.2 _ List.mem_cons_self) (by decide)
  · exact absurd (isDigits.2 _ List.mem_cons_self) (by decide)
  · rfl

/-- Digits that fit into 64 bits are an integer, with a plus sign in front or without one. -/
theorem integer?_of_splitSign {text digits : List Char} (isDigits : IsDigits digits)
    (unsigned : Toml.splitSign text = (false, digits))
    (fits : Text.ofDigits 10 digits < 0x8000000000000000) :
    integer? text = some (Int.ofNat (Text.ofDigits 10 digits)) := by
  have nonempty : digits.isEmpty = false := List.isEmpty_eq_false_iff.mpr isDigits.1
  have areDigits : digits.all Char.isDigit = true := List.all_eq_true.mpr isDigits.2
  have below : (Text.ofDigits 10 digits : Int) ≤ Int64.maxValue.toInt := by
    change _ ≤ (0x7fffffffffffffff : Int)
    omega
  simp [integer?, unsigned, nonempty, areDigits, below]

theorem survives_iff_of_splitSign {text : String} {digits : List Char} (isDigits : IsDigits digits)
    (unsigned : Toml.splitSign text.toList = (false, digits))
    (fits : Text.ofDigits 10 digits < 0x8000000000000000) :
    Survives text ↔ Nat.toDigits 10 (Text.ofDigits 10 digits) = text.toList := by
  have isInteger := integer?_of_splitSign isDigits unsigned fits
  rw [← text?_variableValue_eq_some_iff, Writes.variableValue_eq (.integer isInteger)]
  change some (Nat.repr _) = some text ↔ _
  rw [Option.some_inj, ← String.toList_inj, Nat.toList_repr]

/-- A text of digits that fits into 64 bits comes through unless it has zeros in front. -/
theorem survives_digits_iff {text : String} (isDigits : IsDigits text.toList)
    (fits : Text.ofDigits 10 text.toList < 0x8000000000000000) :
    Survives text ↔ IsWhole text.toList := by
  rw [survives_iff_of_splitSign isDigits (splitSign_of_isDigits isDigits) fits,
    toDigits_ofDigits_eq_iff isDigits]

/-! ## Settings -/

/-- With variables for settings alone, and a whole number for the time limit if there is one,
settings are loaded.  Each text setting is the text that its variable's value is written as, and it
is the variable's own text just when that comes through. -/
theorem environment_texts_survive_iff {word : String} {environment : Environment}
    {texts : Key → Option String} (sets : Sets word environment texts)
    (timeout : ∀ text, texts .timeout = some text →
      ∃ seconds, integer? text.toList = some seconds ∧ 0 ≤ seconds) :
    ∃ settings, loadEnvironment word environment = .ok settings ∧
      ∀ key text, key ≠ .timeout → texts key = some text →
        settings.textAt key = (variableValue text).text? ∧
          (settings.textAt key = some text ↔ Survives text) := by
  obtain ⟨root, isLoaded, stands⟩ :=
    exists_ofLayers (.cons sets.gives .nil) (List.forall_mem_singleton.mpr sets.keepsGroups)
  have standing (key : Key) : overDefaults [fun key => (texts key).map variableValue] key =
      ((texts key).map variableValue).or (defaultValue key) :=
    rfl
  have readable : ∀ key, key ≠ .token → key ≠ .timeout → ∃ text,
      (overDefaults [fun key => (texts key).map variableValue] key).bind Scalar.text? =
        some text := by
    intro key notToken notTimeout
    rw [standing]
    cases texts key with
    | some text => exact exists_text?_variableValue text
    | none =>
        cases key with
        | token => exact absurd rfl notToken
        | timeout => exact absurd rfl notTimeout
        | _ => exact ⟨_, rfl⟩
  have wholeTimeout : ∃ seconds,
      overDefaults [fun key => (texts key).map variableValue] .timeout = some (.integer seconds) ∧
        0 ≤ seconds := by
    rw [standing]
    cases isSet : texts .timeout with
    | some text =>
        obtain ⟨seconds, isInteger, isWhole⟩ := timeout text isSet
        exact ⟨seconds, congrArg some (Writes.integer isInteger).variableValue_eq, isWhole⟩
    | none => exact ⟨_, rfl, by decide⟩
  obtain ⟨settings, isRead, reads⟩ := exists_ofTree stands readable wholeTimeout
  refine ⟨settings, isLoaded.trans isRead, fun key text notTimeout isSet => ?_⟩
  have isText : settings.textAt key = (variableValue text).text? := by
    rw [reads key notTimeout, standing, isSet]
    rfl
  exact ⟨isText, by rw [isText, text?_variableValue_eq_some_iff]⟩

/-- A token with zeros in front changes, and a name of digits without them does not. -/
theorem environment_texts_survive_iff_of_digits :
    ∃ settings, loadEnvironment "TOOL" [("TOOL__SERVER__TOKEN", "007"),
        ("TOOL__WEBHOOK__NAME", "70"), ("TOOL__SERVER__TIMEOUT_SECONDS", "+5")] = .ok settings ∧
      settings.textAt .token ≠ some "007" ∧ settings.textAt .webhookName = some "70" := by
  have isInteger : integer? "+5".toList = some 5 := by decide +kernel
  have sets : Sets "TOOL" [("TOOL__SERVER__TOKEN", "007"), ("TOOL__WEBHOOK__NAME", "70"),
      ("TOOL__SERVER__TIMEOUT_SECONDS", "+5")] fun key =>
        match key with
        | .token => some "007"
        | .webhookName => some "70"
        | .timeout => some "+5"
        | _ => none := by
    refine ⟨fun key text => ?_, ?_⟩
    · cases key <;> simp [Key.variable, Key.suffix, eq_comm]
    · simp only [List.forall_mem_cons]
      exact ⟨fun _ => ⟨.token, rfl⟩, fun _ => ⟨.webhookName, rfl⟩, fun _ => ⟨.timeout, rfl⟩,
        List.forall_mem_nil _⟩
  obtain ⟨settings, isLoaded, reads⟩ := environment_texts_survive_iff sets
    (fun text isSet => ⟨5, Option.some.inj isSet ▸ isInteger, by decide⟩)
  have isDigits {text : String} (nonempty : text.toList ≠ [])
      (areDigits : text.toList.all Char.isDigit = true) : IsDigits text.toList :=
    ⟨nonempty, List.all_eq_true.mp areDigits⟩
  have token : IsDigits "007".toList := isDigits (by decide +kernel) (by decide +kernel)
  have name : IsDigits "70".toList := isDigits (by decide +kernel) (by decide +kernel)
  refine ⟨settings, isLoaded, fun same => ?_, ?_⟩
  · have survives := (reads .token "007" (by decide) rfl).2.mp same
    rw [survives_digits_iff token (by decide +kernel)] at survives
    exact absurd (survives.2 (by decide +kernel)) (by decide +kernel)
  · refine (reads .webhookName "70" (by decide) rfl).2.mpr ?_
    rw [survives_digits_iff name (by decide +kernel)]
    exact ⟨name, by decide +kernel⟩

/-- A token of digits loses its zeros. -/
theorem token_of_digits_changes :
    (loadEnvironment "HOOKBRIDGE" [("HOOKBRIDGE__SERVER__TOKEN", "007")]).toOption =
      some ⟨⟨"http://localhost:7990", some "7", 30⟩, "http://localhost:8080", "hookbridge"⟩ := by
  decide +kernel

end WebhookSync.Settings
