import Mathlib.Data.List.Basic
import WebhookSync.Proofs.Url.Percent
import WebhookSync.Url.Extend

/-!
# Segments at the end of a path

A text that is put at the end of a path becomes one segment there, unless it steps out of its place
(`StepsOut`): then the path gets no longer.  Segments in normal form have no slash, so the slashes
of a written path count its segments, and it can be seen whether a text has become one
(`segmentsOf_extend`, `length_places_extend_le`).
-/

namespace WebhookSync.Url

open Text (hexCapital)

/-! ## Segments in normal form -/

/-- A character that a segment in normal form can have. -/
def IsSegmentChar (c : Char) : Prop :=
  keepsInPath c = true ∧ c ≠ '/'

instance (c : Char) : Decidable (IsSegmentChar c) :=
  inferInstanceAs (Decidable (_ ∧ _))

/-- Segments in normal form. -/
def Neat (segments : List String) : Prop :=
  ∀ segment ∈ segments, ∀ c ∈ segment.toList, IsSegmentChar c

theorem isSegmentChar_percent : IsSegmentChar '%' := by
  decide

theorem isSegmentChar_hexCapital : ∀ n < 16, IsSegmentChar (hexCapital n) := by
  decide

/-- An encoded segment is in normal form. -/
theorem isSegmentChar_of_mem_encode {special : Bool} {text : List Char} :
    ∀ c ∈ encode (keepsInSegment special) text, IsSegmentChar c := by
  refine forall_mem_encode isSegmentChar_percent isSegmentChar_hexCapital fun c _ keeps => ?_
  simp only [keepsInSegment, Bool.and_eq_true, Bool.not_eq_true', Bool.or_eq_false_iff,
    beq_eq_false_iff_ne] at keeps
  exact ⟨keeps.1, keeps.2.1.1⟩

namespace Neat

variable {segments others : List String}

theorem nil : Neat [] :=
  List.forall_mem_nil _

theorem append (first : Neat segments) (second : Neat others) : Neat (segments ++ others) :=
  List.forall_mem_append.mpr ⟨first, second⟩

theorem concat (first : Neat segments) {segment : String}
    (last : ∀ c ∈ segment.toList, IsSegmentChar c) : Neat (segments ++ [segment]) :=
  first.append (List.forall_mem_singleton.mpr last)

theorem of_subset (neat : Neat segments) (subset : others ⊆ segments) : Neat others :=
  fun segment member => neat segment (subset member)

theorem concat_empty (first : Neat segments) : Neat (segments ++ [""]) :=
  first.concat (List.forall_mem_nil _)

end Neat

/-! ## Written paths -/

@[simp]
theorem Path.write_append (first second : List String) :
    (Path.segments (first ++ second)).write =
      (Path.segments first).write ++ (Path.segments second).write :=
  List.flatMap_append

@[simp]
theorem Path.write_singleton (segment : String) :
    (Path.segments [segment]).write = '/' :: segment.toList :=
  List.flatMap_singleton ..

theorem Path.write_concat_empty (segments : List String) :
    (Path.segments (segments ++ [""])).write = (Path.segments segments).write ++ ['/'] := by
  rw [write_append, write_singleton]
  rfl

/-- The slashes of a path count its segments. -/
theorem Neat.count_write {segments : List String} (neat : Neat segments) :
    (Path.segments segments).write.count '/' = segments.length := by
  induction segments with
  | nil => rfl
  | cons segment segments inductionHypothesis =>
      obtain ⟨neatSegment, neatSegments⟩ := List.forall_mem_cons.mp neat
      have noSlash : segment.toList.count '/' = 0 :=
        List.count_eq_zero.mpr fun member => (neatSegment '/' member).2 rfl
      have step : (Path.segments (segment :: segments)).write =
          '/' :: segment.toList ++ (Path.segments segments).write :=
        List.flatMap_cons
      rw [step, List.count_append, List.count_cons_self, noSlash, inductionHypothesis neatSegments,
        List.length_cons]
      omega

theorem IsSegmentChar.visible {c : Char} (isSegmentChar : IsSegmentChar c) : 0x20 < c.toNat := by
  have keeps := isSegmentChar.1
  simp only [keepsInPath, keepsInFragment, keepsControlFree, Bool.and_eq_true, decide_eq_true_eq,
    Bool.not_eq_true', Bool.or_eq_false_iff, beq_eq_false_iff_ne] at keeps
  obtain ⟨⟨⟨least, _⟩, noBlank⟩, _⟩ := keeps
  refine Nat.lt_of_le_of_ne least fun isBlank => noBlank.1.1.1.1 ?_
  rw [← Char.ofNat_toNat c, ← isBlank]

/-- A path whose last segment is not empty ends with a character of that segment. -/
theorem Neat.exists_last {segments : List String} {last : String}
    (neat : Neat (segments ++ [last])) (visible : last ≠ "") :
    ∃ front c, (Path.segments (segments ++ [last])).write = front ++ [c] ∧ IsSegmentChar c := by
  rcases List.eq_nil_or_concat' last.toList with isNil | ⟨front, c, isLast⟩
  · exact absurd (String.toList_eq_nil_iff.mp isNil) visible
  · have inLast : c ∈ last.toList := by simp [isLast]
    refine ⟨(Path.segments segments).write ++ '/' :: front, c, ?_, neat last (by simp) c inLast⟩
    simp [isLast]

/-- A path ends with a slash only if its last segment is empty. -/
theorem Neat.getLast?_write_ne {segments : List String} {last : String}
    (neat : Neat (segments ++ [last])) (visible : last ≠ "") :
    (Path.segments (segments ++ [last])).write.getLast? ≠ some '/' := by
  obtain ⟨front, c, written, isSegmentChar⟩ := neat.exists_last visible
  rw [written, List.getLast?_concat]
  exact fun same => isSegmentChar.2 (Option.some.inj same)

/-- A path without one slash at its end. -/
def dropLastSlash (path : List Char) : List Char :=
  if path.getLast? = some '/' then path.dropLast else path

theorem dropLastSlash_concat (path : List Char) : dropLastSlash (path ++ ['/']) = path := by
  rw [dropLastSlash, if_pos List.getLast?_concat, List.dropLast_concat]

/-! ## Places -/

/-- The segments of a path in front of a new one: the root has none. -/
def places (segments : List String) : List String :=
  if segments = [""] then [] else segments

theorem places_of_ne {segments : List String} (notRoot : segments ≠ [""]) :
    places segments = segments :=
  if_neg notRoot

theorem appendSegment_eq (segments : List String) (segment : String) :
    appendSegment segments segment = places segments ++ [segment] := by
  unfold appendSegment places
  split <;> rfl

theorem concat_ne_root (segments : List String) {last : String} (visible : last ≠ "") :
    segments ++ [last] ≠ [""] := by
  intro same
  have lasts := congrArg List.getLast? same
  rw [List.getLast?_concat] at lasts
  exact visible (Option.some.inj lasts)

theorem dropEmptyLast_concat_of_ne (segments : List String) {last : String} (visible : last ≠ "") :
    dropEmptyLast (segments ++ [last]) = segments ++ [last] := by
  unfold dropEmptyLast
  split
  · rename_i isReversed
    rw [List.reverse_concat] at isReversed
    exact absurd (List.cons.inj isReversed).1 visible
  · rfl

theorem dropEmptyLast_concat_empty (segments : List String) (last : String) :
    dropEmptyLast (segments ++ [last] ++ [""]) = segments ++ [last] := by
  simp [dropEmptyLast]

theorem dropEmptyLast_subset (segments : List String) : dropEmptyLast segments ⊆ segments := by
  rcases List.eq_nil_or_concat' segments with rfl | ⟨front, last, rfl⟩
  · exact List.Subset.refl _
  · by_cases visible : last = ""
    · subst visible
      rcases List.eq_nil_or_concat' front with rfl | ⟨before, second, rfl⟩
      · exact List.Subset.refl _
      · rw [dropEmptyLast_concat_empty]
        exact List.subset_append_left _ _
    · rw [dropEmptyLast_concat_of_ne front visible]
      exact List.Subset.refl _

/-- What is put at the end of a path that does not end in two slashes comes behind the path without
a slash at its end. -/
theorem write_places {segments : List String} (neat : Neat segments)
    (single : ¬['/', '/'] <:+ (Path.segments segments).write) :
    (Path.segments (places (dropEmptyLast segments))).write =
      dropLastSlash (Path.segments segments).write := by
  rcases List.eq_nil_or_concat' segments with rfl | ⟨front, last, rfl⟩
  · rfl
  · by_cases empty : last = ""
    · subst empty
      rcases List.eq_nil_or_concat' front with rfl | ⟨before, second, rfl⟩
      · rfl
      · have visible : second ≠ "" := by
          rintro rfl
          refine single ⟨(Path.segments before).write, ?_⟩
          rw [Path.write_concat_empty, Path.write_concat_empty, List.append_assoc]
          rfl
        rw [dropEmptyLast_concat_empty, places_of_ne (concat_ne_root before visible),
          Path.write_concat_empty, dropLastSlash_concat]
    · rw [dropEmptyLast_concat_of_ne front empty, places_of_ne (concat_ne_root front empty),
        dropLastSlash, if_neg (neat.getLast?_write_ne empty)]

/-! ## Texts as segments -/

/-- The characters of a text that count in a segment. -/
def counting (text : String) : List Char :=
  text.toList.filter fun c => !(c == '\t' || c == '\n' || c == '\r')

/-- A text that becomes no segment: one point, which adds nothing, and two points, which, with
something between them or around them that does not count, lead to the place above. -/
def StepsOut (text : String) : Prop :=
  text = "." ∨ counting text = ['.', '.']

instance (text : String) : Decidable (StepsOut text) :=
  inferInstanceAs (Decidable (_ ∨ _))

/-- The segment of a text. -/
def segmentOf (special : Bool) (text : String) : String :=
  if counting text = ['.'] then ""
  else String.ofList (encode (keepsInSegment special) (counting text))

theorem isSegmentChar_segmentOf {special : Bool} {text : String} :
    ∀ c ∈ (segmentOf special text).toList, IsSegmentChar c := by
  unfold segmentOf
  split
  · exact List.forall_mem_nil _
  · rw [String.toList_ofList]
    exact isSegmentChar_of_mem_encode

section Pushing

variable {special : Bool} {segments : List String} {text : String} {texts : List String}

theorem pushOnto_of_not_stepsOut (stays : ¬StepsOut text) :
    pushOnto special segments text = places segments ++ [segmentOf special text] := by
  obtain ⟨notPoint, notPoints⟩ := not_or.mp stays
  have notTwo : text ≠ ".." := by
    rintro rfl
    exact notPoints (by decide)
  unfold pushOnto segmentOf
  rw [if_neg (by simp [notPoint, notTwo])]
  change (if counting text = ['.', '.'] then _ else if counting text = ['.'] then _ else _) = _
  rw [if_neg notPoints]
  by_cases isPoint : counting text = ['.']
  · rw [if_pos isPoint, if_pos isPoint]
    rfl
  · rw [if_neg isPoint, if_neg isPoint, appendSegment_eq]
    rfl

/-- What a text that steps out leaves of a path. -/
theorem pushOnto_of_stepsOut (stepsOut : StepsOut text) :
    pushOnto special segments text = segments ∨
      pushOnto special segments text = (places segments).dropLast ++ [""] := by
  unfold pushOnto
  split
  · exact .inl rfl
  · rename_i noPoints
    have isAbove : counting text = ['.', '.'] := by
      rcases stepsOut with isPoint | isAbove
      · simp [isPoint] at noPoints
      · exact isAbove
    exact .inr (if_pos isAbove)

theorem neat_places (neat : Neat segments) : Neat (places segments) := by
  unfold places
  split
  · exact .nil
  · exact neat

theorem neat_pushOnto (neat : Neat segments) : Neat (pushOnto special segments text) := by
  by_cases stepsOut : StepsOut text
  · rcases pushOnto_of_stepsOut stepsOut with same | above
    · rwa [same]
    · rw [above]
      exact ((neat_places neat).of_subset (List.dropLast_subset _)).concat_empty
  · rw [pushOnto_of_not_stepsOut stepsOut]
    exact (neat_places neat).concat isSegmentChar_segmentOf

theorem neat_foldl_pushOnto (neat : Neat segments) :
    Neat (texts.foldl (pushOnto special) segments) := by
  induction texts generalizing segments with
  | nil => exact neat
  | cons text texts inductionHypothesis => exact inductionHypothesis (neat_pushOnto neat)

/-- Texts that do not step out become one segment each. -/
theorem foldl_pushOnto (stays : ∀ text ∈ texts, ¬StepsOut text) (nonempty : segments ≠ [])
    (notRoot : segments ≠ [""]) :
    texts.foldl (pushOnto special) segments = segments ++ texts.map (segmentOf special) := by
  induction texts generalizing segments with
  | nil => exact (List.append_nil segments).symm
  | cons text texts inductionHypothesis =>
      obtain ⟨textStays, textsStay⟩ := List.forall_mem_cons.mp stays
      have longer : segments ++ [segmentOf special text] ≠ [""] := by
        intro same
        have lengths := congrArg List.length same
        rw [List.length_append] at lengths
        exact nonempty (List.length_eq_zero_iff.mp (Nat.succ.inj lengths))
      rw [List.foldl_cons, pushOnto_of_not_stepsOut textStays, places_of_ne notRoot,
        inductionHypothesis textsStay (by simp) longer, List.map_cons, List.append_assoc,
        List.singleton_append]

theorem length_places_le (segments : List String) : (places segments).length ≤ segments.length := by
  unfold places
  split
  · exact Nat.zero_le _
  · exact Nat.le_refl _

theorem length_places_pushOnto_le :
    (places (pushOnto special segments text)).length ≤
      (places segments).length + if StepsOut text then 0 else 1 := by
  by_cases stepsOut : StepsOut text
  · rw [if_pos stepsOut]
    rcases @pushOnto_of_stepsOut special segments text stepsOut with same | above
    · rw [same]
      exact Nat.le_refl _
    · rw [above]
      cases isPlaces : places segments with
      | nil => exact Nat.zero_le _
      | cons first others =>
          refine Nat.le_trans (length_places_le _) (Nat.le_of_eq ?_)
          simp
  · rw [if_neg stepsOut, pushOnto_of_not_stepsOut stepsOut]
    refine Nat.le_trans (length_places_le _) (Nat.le_of_eq ?_)
    rw [List.length_append, List.length_singleton]

/-- A path gets longer by at most the texts that do not step out. -/
theorem length_places_foldl_le :
    (places (texts.foldl (pushOnto special) segments)).length ≤
      (places segments).length + texts.countP fun text => ¬StepsOut text := by
  induction texts generalizing segments with
  | nil => exact Nat.le_refl _
  | cons text texts inductionHypothesis =>
      have step : (places (pushOnto special segments text)).length ≤
          (places segments).length + if StepsOut text then 0 else 1 :=
        length_places_pushOnto_le
      have counts : (text :: texts).countP (fun text => ¬StepsOut text) =
          texts.countP (fun text => ¬StepsOut text) + if StepsOut text then 0 else 1 := by
        rw [List.countP_cons]
        by_cases stepsOut : StepsOut text <;> simp [stepsOut]
      rw [List.foldl_cons, counts]
      refine Nat.le_trans inductionHypothesis ?_
      omega

end Pushing

/-! ## Longer addresses -/

section Extending

variable (url : Url)

/-- Texts that do not step out become one segment each, behind what the path had. -/
theorem segmentsOf_extend {first : String} {texts : List String}
    (stays : ∀ text ∈ first :: texts, ¬StepsOut text)
    (visible : segmentOf (isSpecial url.scheme) first ≠ "") :
    (url.extend (first :: texts)).segmentsOf =
      places (dropEmptyLast url.segmentsOf) ++
        (first :: texts).map (segmentOf (isSpecial url.scheme)) := by
  obtain ⟨firstStays, textsStay⟩ := List.forall_mem_cons.mp stays
  have pushed : (url.extend (first :: texts)).segmentsOf =
      texts.foldl (pushOnto (isSpecial url.scheme))
        (pushOnto (isSpecial url.scheme) (dropEmptyLast url.segmentsOf) first) :=
    rfl
  rw [pushed, pushOnto_of_not_stepsOut firstStays, foldl_pushOnto textsStay (by simp)
      (concat_ne_root _ visible), List.map_cons, List.append_assoc, List.singleton_append]

theorem neat_extend {url : Url} (neat : Neat url.segmentsOf) (texts : List String) :
    Neat (url.extend texts).segmentsOf :=
  neat_foldl_pushOnto (neat.of_subset (dropEmptyLast_subset _))

/-- An empty segment at the end of the path makes no difference to what is put there. -/
theorem extend_concat_empty {url : Url} {segments : List String} {last : String}
    (isSegments : url.segmentsOf = segments ++ [last]) (visible : last ≠ "") (texts : List String) :
    ({ url with path := .segments (url.segmentsOf ++ [""]) } : Url).extend texts =
      url.extend texts := by
  have sameFront : dropEmptyLast (url.segmentsOf ++ [""]) = dropEmptyLast url.segmentsOf := by
    rw [isSegments, dropEmptyLast_concat_empty, dropEmptyLast_concat_of_ne segments visible]
  have longer : ({ url with path := .segments (url.segmentsOf ++ [""]) } : Url).segmentsOf =
      url.segmentsOf ++ [""] :=
    rfl
  rw [extend, longer, sameFront]
  rfl

/-- The path of a longer address is longer by at most the texts that do not step out. -/
theorem length_places_extend_le (texts : List String) :
    (places (url.extend texts).segmentsOf).length ≤
      (places (dropEmptyLast url.segmentsOf)).length +
        texts.countP fun text => ¬StepsOut text :=
  length_places_foldl_le

end Extending

end WebhookSync.Url
