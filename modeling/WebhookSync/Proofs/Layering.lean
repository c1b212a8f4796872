import Mathlib
import WebhookSync.Proofs.Settings.Reading
import WebhookSync.Proofs.Settings.Variables

/-!
# Settings override each other key by key

A file and the environment each set some of the settings.  Every setting is what the environment
says, else what the file says, else the default, so what one of them sets for one setting changes no
other (`Settings.layers_override_key_by_key`).  This needs that the file puts nothing but tables in
the place of the groups, and that no other variable begins with the program's word in any case.
-/

namespace WebhookSync.Settings

/-! ## Overlays -/

/-- Some of the settings. -/
structure Overlay where
  serverUrl : Option String
  token : Option String
  timeoutSeconds : Option UInt64
  orchestratorUrl : Option String
  webhookName : Option String

namespace Overlay

/-- No settings. -/
def nothing : Overlay :=
  ⟨none, none, none, none, none⟩

/-- The settings of one overlay, and those of another where the one has none. -/
def atop (upper lower : Overlay) : Overlay where
  serverUrl := upper.serverUrl.or lower.serverUrl
  token := upper.token.or lower.token
  timeoutSeconds := upper.timeoutSeconds.or lower.timeoutSeconds
  orchestratorUrl := upper.orchestratorUrl.or lower.orchestratorUrl
  webhookName := upper.webhookName.or lower.webhookName

/-- All settings, with the defaults where the overlay has none.  There is no token by default. -/
def complete (overlay : Overlay) : Settings where
  server :=
    { baseUrl := overlay.serverUrl.getD "http://localhost:7990"
      token := overlay.token
      timeoutSeconds := overlay.timeoutSeconds.getD 30 }
  orchestratorUrl := overlay.orchestratorUrl.getD "http://localhost:8080"
  webhookName := overlay.webhookName.getD "hookbridge"

/-- The value that is given for a setting: a text, or an integer for the time limit. -/
def value (overlay : Overlay) : Key → Option Scalar
  | .serverUrl => overlay.serverUrl.map .text
  | .token => overlay.token.map .text
  | .timeout => overlay.timeoutSeconds.map fun seconds => .integer seconds.toNat
  | .orchestratorUrl => overlay.orchestratorUrl.map .text
  | .webhookName => overlay.webhookName.map .text

@[simp]
theorem atop_nothing (overlay : Overlay) : overlay.atop nothing = overlay := by
  simp [atop, nothing]

theorem value_atop (upper lower : Overlay) (key : Key) :
    (upper.atop lower).value key = (upper.value key).or (lower.value key) := by
  cases key <;> exact Option.map_or

/-- The settings are read off a tree with the values of an overlay and the defaults. -/
theorem ofTree_of_standsAt {overlay : Overlay} {root : Setting}
    (stands : ∀ key, StandsAt root key ((overlay.value key).or (defaultValue key))) :
    ofTree root = .ok overlay.complete := by
  have readText (text : Option String) (default : String) :
      ((text.map Scalar.text).or (some (.text default))).bind Scalar.text? =
        some (text.getD default) := by
    cases text <;> rfl
  have readToken : ((overlay.token.map Scalar.text).or none).bind Scalar.text? = overlay.token := by
    cases overlay.token <;> rfl
  have readTimeout : (overlay.value .timeout).or (defaultValue .timeout) =
      some (.integer (overlay.timeoutSeconds.getD 30).toNat) := by
    cases isSet : overlay.timeoutSeconds <;> simp only [value, isSet] <;> rfl
  have isRead := Settings.ofTree_of_standsAt stands (readText overlay.serverUrl _) readTimeout
    (Int.natCast_nonneg _) (readText overlay.orchestratorUrl _) (readText overlay.webhookName _)
  rw [isRead, Int.toNat_natCast]
  simp only [value, defaultValue, readToken]
  rw [show (overlay.timeoutSeconds.getD 30).toNat.toUInt64 = overlay.timeoutSeconds.getD 30 from
    UInt64.ofNat_toNat]
  rfl

/-- Overlays over each other, the first one at the bottom. -/
def stack (overlays : List Overlay) : Overlay :=
  overlays.foldl (fun lower upper => upper.atop lower) nothing

/-- Overriding value by value comes to laying the overlays over each other. -/
theorem overDefaults_map_value (overlays : List Overlay) (key : Key) :
    overDefaults (overlays.map value) key = ((stack overlays).value key).or (defaultValue key) := by
  have laid (lower : Overlay) :
      (overlays.map value).foldl (fun value given => (given key).or value)
          ((lower.value key).or (defaultValue key)) =
        ((overlays.foldl (fun lower upper => upper.atop lower) lower).value key).or
          (defaultValue key) := by
    induction overlays generalizing lower with
    | nil => rfl
    | cons upper rest ih =>
        rw [List.map_cons, List.foldl_cons, List.foldl_cons, ← ih, value_atop, Option.or_assoc]
  have startsEmpty : (nothing.value key).or (defaultValue key) = defaultValue key := by
    cases key <;> rfl
  have fromNothing := laid nothing
  rwa [startsEmpty] at fromNothing

/-- Layers that give the settings of overlays come to the overlays over each other. -/
theorem ofLayers_eq {layers : List (List (String × Setting))} {overlays : List Overlay}
    (gives : List.Forall₂ (fun layer overlay => Gives layer overlay.value) layers overlays)
    (keeps : ∀ layer ∈ layers, KeepsGroups layer) :
    ofLayers layers = .ok (stack overlays).complete := by
  obtain ⟨root, isRead, stands⟩ := exists_ofLayers (List.forall₂_map_right_iff.mpr gives) keeps
  rw [isRead]
  refine ofTree_of_standsAt fun key => ?_
  rw [← overDefaults_map_value]
  exact stands key

end Overlay

/-! ## Files and variables -/

section Files

variable [Libraries]

/-- The layer of a file, in whatever format.  A file that is not there gives an empty one. -/
inductive FromFile (files : List SourceFile) (path : String) : List (String × Setting) → Prop where
  | absent (isAbsent : findFile? files path = none) : FromFile files path []
  | present {format : FileFormat} {file : SourceFile} {layer : List (String × Setting)}
      (isFound : findFile? files path = some (format, file))
      (isRead : format.document? file.name file.text = some layer) : FromFile files path layer

theorem FromFile.load_eq {files : List SourceFile} {path : String}
    {layer : List (String × Setting)} (fromFile : FromFile files path layer)
    (environment : Environment) :
    load files path environment =
      ofLayers [layer, fromEnvironment environmentWord environment] := by
  cases fromFile with
  | absent isAbsent =>
      rw [load, isAbsent]
      rfl
  | present isFound isRead =>
      rw [load, isFound]
      simp only [isRead]

/-- Every setting is what the environment says, else what the file says, else the default; and
without a file the settings are those of the environment alone. -/
theorem layers_override_key_by_key {files : List SourceFile} {path : String}
    {environment : Environment} {layer : List (String × Setting)} {inFile inEnvironment : Overlay}
    {texts : Key → Option String} (fromFile : FromFile files path layer)
    (fileGives : Gives layer inFile.value) (keepsGroups : KeepsGroups layer)
    (sets : Sets environmentWord environment texts)
    (writes : ∀ key, Option.Rel Writes (texts key) (inEnvironment.value key)) :
    load files path environment = .ok (inEnvironment.atop inFile).complete ∧
      loadEnvironment environmentWord environment = .ok inEnvironment.complete ∧
      ∀ otherPath, findFile? files otherPath = none →
        load files otherPath environment = loadEnvironment environmentWord environment := by
  have given : (fun key => (texts key).map variableValue) = inEnvironment.value :=
    funext fun key => map_variableValue_of_rel (writes key)
  have environmentGives : Gives (fromEnvironment environmentWord environment) inEnvironment.value :=
    given ▸ sets.gives
  refine ⟨?_, ?_, fun otherPath isAbsent => ?_⟩
  · rw [fromFile.load_eq, Overlay.ofLayers_eq (.cons fileGives (.cons environmentGives .nil))
      (List.forall_mem_cons.mpr ⟨keepsGroups, List.forall_mem_singleton.mpr sets.keepsGroups⟩)]
    simp only [Overlay.stack, List.foldl_cons, List.foldl_nil, Overlay.atop_nothing]
  · rw [loadEnvironment, Overlay.ofLayers_eq (.cons environmentGives .nil)
      (List.forall_mem_singleton.mpr sets.keepsGroups)]
    simp only [Overlay.stack, List.foldl_cons, List.foldl_nil, Overlay.atop_nothing]
  · rw [load, isAbsent]
    rfl

end Files

/-- A directory with one file. -/
def onlyFile (text : String) : List SourceFile :=
  [⟨"hookbridge.toml", text⟩]

theorem fromFile_onlyFile {text : String} {layer : List (String × Setting)}
    (isRead : FileFormat.toml.document? "hookbridge.toml" text = some layer) :
    FromFile (onlyFile text) "hookbridge.toml" layer := by
  have isName : plainName "hookbridge.toml" = "hookbridge.toml" ∧
      FileFormat.ofName? "hookbridge.toml" = some .toml := by
    decide +kernel
  have isFound : findFile? (onlyFile text) "hookbridge.toml" =
      some (.toml, ⟨"hookbridge.toml", text⟩) := by
    simp [findFile?, onlyFile, isName]
  exact .present isFound isRead

/-- A file with a key in mixed case, and variables of which one sets what the file sets, too. -/
theorem layers_override_key_by_key_of_both :
    let environment := [("PATH", "/bin"), ("HOOKBRIDGE__SERVER__TIMEOUT_SECONDS", "012"),
      ("HOOKBRIDGE__SERVER__BASE_URL", "https://other")]
    load (onlyFile "[server]\nbase_url = \"https://git\"\nToken = \"abc\"\n") "hookbridge.toml"
        environment =
      .ok ⟨⟨"https://other", some "abc", 12⟩, "http://localhost:8080", "hookbridge"⟩ := by
  intro environment
  have isRead : FileFormat.toml.document? "hookbridge.toml"
      "[server]\nbase_url = \"https://git\"\nToken = \"abc\"\n" =
        some [("server", .table (some "hookbridge.toml")
          [("base_url", .scalar (some "hookbridge.toml") (.text "https://git")),
            ("Token", .scalar (some "hookbridge.toml") (.text "abc"))])] := by
    cbv
  have isWord : Path.parse? "server" = some ⟨"server", []⟩ := by decide +kernel
  have small : Text.lowercase "server" = "server" ∧ Text.lowercase "base_url" = "base_url" ∧
      Text.lowercase "Token" = "token" := by
    decide +kernel
  have noFloat : float? "https://other".toList = none := by
    unfold float?
    dsimp only
    rw [if_neg (by decide +kernel), if_neg (by decide +kernel), if_pos (by decide +kernel)]
    rfl
  have isText : Writes "https://other" (.text "https://other") :=
    .text (by decide +kernel) (by decide +kernel) noFloat
  have isNumber : Writes "012" (.integer ((12 : UInt64).toNat : Int)) :=
    .integer (by decide +kernel)
  refine (@layers_override_key_by_key _ _ "hookbridge.toml" environment _
    ⟨some "https://git", some "abc", none, none, none⟩
    ⟨some "https://other", none, some 12, none, none⟩
    (fun key => if key = .serverUrl then some "https://other"
      else if key = .timeout then some "012" else none)
    (fromFile_onlyFile isRead) ?_ ?_ ?_ ?_).1
  · refine ⟨List.forall_mem_singleton.mpr fun key => ?_,
      fun key value isGiven => ⟨_, List.mem_cons_self, ?_⟩⟩
    · rw [puts_of_word isWord]
      cases key <;>
        simp [AreGiven, partsAt, small, Key.group, Key.name, Overlay.value, Setting.entries]
    · rw [puts_of_word isWord]
      cases key <;>
        simp [partsAt, small, Key.group, Key.name, Overlay.value, Setting.entries] at isGiven ⊢
  · refine ⟨List.forall_mem_singleton.mpr fun key found isFound => ?_, ?_⟩
    · rw [puts_of_word isWord] at isFound
      split at isFound
      · exact ⟨_, _, List.mem_singleton.mp isFound⟩
      · cases isFound
    · refine List.forall_mem_singleton.mpr fun path isPath position isStep => ?_
      obtain rfl := Option.some.inj (isWord.symm.trans isPath)
      cases isStep
  · refine ⟨fun key text => ?_, ?_⟩
    · cases key <;> simp [environment, Key.variable, environmentWord, Key.suffix, eq_comm]
    · refine List.forall_mem_cons.mpr ⟨?_, List.forall_mem_cons.mpr
        ⟨fun _ => ⟨.timeout, rfl⟩, List.forall_mem_singleton.mpr fun _ => ⟨.serverUrl, rfl⟩⟩⟩
      intro begins
      exact absurd begins (by decide +kernel)
  · intro key
    cases key with
    | serverUrl => exact .some isText
    | timeout => exact .some isNumber
    | _ => exact .none

/-- A text in the place of a table of settings sets none of them, and yet nothing is read.  A key
that counts from the end of a list that is not there has the same effect.  And a variable counts
although it does not begin with the program's word as that is written. -/
theorem groups_positions_and_case_matter :
    (∃ layer,
      FromFile (onlyFile "server = \"https://git.example.com\"\n") "hookbridge.toml" layer ∧
        Gives layer Overlay.nothing.value ∧
        (load (onlyFile "server = \"https://git.example.com\"\n") "hookbridge.toml" []).toOption =
          none) ∧
    (∃ layer, FromFile (onlyFile "\"mirrors[-1]\" = \"x\"\n") "hookbridge.toml" layer ∧
      Gives layer Overlay.nothing.value ∧
      (load (onlyFile "\"mirrors[-1]\" = \"x\"\n") "hookbridge.toml" []).toOption = none) ∧
    (∀ entry ∈ [("hookbridge__webhook__name", "lower")],
      ¬"HOOKBRIDGE__".toList <+: entry.1.toList) ∧
    (load [] "hookbridge.toml" [("hookbridge__webhook__name", "lower")]).toOption =
      some { Overlay.nothing.complete with webhookName := "lower" } := by
  have givesNothing {entry : String × Setting}
      (nowhere : ∀ key : Key, puts entry key.group [key.name] = []) :
      Gives [entry] Overlay.nothing.value := by
    refine ⟨List.forall_mem_singleton.mpr fun key => ?_, ?_⟩
    · rw [nowhere key]
      exact List.forall_mem_nil _
    · rintro ⟨⟩ value ⟨⟩
  refine ⟨?_, ?_, by decide +kernel, by decide +kernel⟩
  · have isRead : FileFormat.toml.document? "hookbridge.toml"
        "server = \"https://git.example.com\"\n" = some [("server",
          .scalar (some "hookbridge.toml") (.text "https://git.example.com"))] := by
      cbv
    have fromFile := fromFile_onlyFile isRead
    have isWord : Path.parse? "server" = some ⟨"server", []⟩ := by decide +kernel
    refine ⟨_, fromFile, givesNothing fun key => ?_, ?_⟩
    · rw [puts_of_word isWord]
      exact ite_self []
    · rw [fromFile.load_eq]
      decide +kernel
  · have isRead : FileFormat.toml.document? "hookbridge.toml" "\"mirrors[-1]\" = \"x\"\n" =
        some [("mirrors[-1]", .scalar (some "hookbridge.toml") (.text "x"))] := by
      cbv
    have fromFile := fromFile_onlyFile isRead
    have isPath : Path.parse? "mirrors[-1]" = some ⟨"mirrors", [.index (-1)]⟩ := by decide +kernel
    refine ⟨_, fromFile, givesNothing fun key => ?_, ?_⟩
    · simp [puts, isPath, putAt]
    · rw [fromFile.load_eq]
      decide +kernel

end WebhookSync.Settings
