import Mathlib.Data.List.Forall2
import WebhookSync.Proofs.Json.Scanning

/-!
# Scanning values

A reader that takes a written value from the front of a text, with blanks in front of it or not,
`Reads` it.  What reads the items of an array, or the members of an object, reads all of them; and
whatever stands for a value at all can be passed over (`reads_skip`).
-/

namespace WebhookSync.Json

open Text (Decoded)

/-! ## Reading a written value -/

/-- The reader takes the text from the front and comes to the value: blanks in front of the text do
not count, and behind it anything may follow that does not go on with it. -/
def Reads {α : Type} (read : Reader α) (text : List Char) (value : α) : Prop :=
  ∀ ahead rest, skipBlank ahead = seen text ++ rest → Closes rest → read ahead = .ok (value, rest)

/-- The text begins with neither a blank nor a closing bracket. -/
def Starts (text : List Char) : Prop :=
  ∃ c more, text = c :: more ∧ c ∉ blanks ∧ c ≠ ']' ∧ c ≠ '}'

theorem Starts.skipBlank {text : List Char} (starts : Starts text) (rest : Decoded) :
    Json.skipBlank (seen text ++ rest) = seen text ++ rest := by
  obtain ⟨c, more, rfl, notBlank, _⟩ := starts
  exact skipBlank_cons notBlank _

theorem Starts.length_pos {text : List Char} (starts : Starts text) : 0 < text.length := by
  obtain ⟨c, more, rfl, _⟩ := starts
  exact Nat.succ_pos _

theorem Starts.append {text : List Char} (starts : Starts text) (more : List Char) :
    Starts (text ++ more) := by
  obtain ⟨c, rest, rfl, harmless⟩ := starts
  exact ⟨c, rest ++ more, rfl, harmless⟩

theorem starts_of_isUnsigned {text : List Char} (isUnsigned : IsUnsigned text) :
    ∃ c more, text = c :: more ∧ c.isDigit = true := by
  cases isUnsigned with
  | @parts whole _ _ isWhole _ _ =>
      cases whole with
      | nil => exact absurd rfl isWhole.1.1
      | cons c more => exact ⟨c, _, rfl, isWhole.1.2 c List.mem_cons_self⟩

theorem starts_of_isDigit {c : Char} (isDigit : c.isDigit = true) (more : List Char) :
    Starts (c :: more) := by
  refine ⟨c, more, rfl, fun isBlank => ?_, ?_, ?_⟩
  · have noDigits : ∀ blank ∈ blanks, blank.isDigit = false := by simp [blanks]
    rw [noDigits c isBlank] at isDigit
    cases isDigit
  · rintro rfl
    cases isDigit
  · rintro rfl
    cases isDigit

/-- What stands for a value begins with neither a blank nor a closing bracket. -/
theorem Spells.starts {document : Document} {text : List Char} (spelled : Spells document text) :
    Starts text := by
  cases spelled with
  | null => exact ⟨_, _, rfl, by decide⟩
  | yes => exact ⟨_, _, rfl, by decide⟩
  | no => exact ⟨_, _, rfl, by decide⟩
  | number isNumber =>
      cases isNumber with
      | positive isUnsigned =>
          obtain ⟨c, more, rfl, isDigit⟩ := starts_of_isUnsigned isUnsigned
          exact starts_of_isDigit isDigit more
      | negative isUnsigned => exact ⟨_, _, rfl, by decide⟩
  | string spelled => exact ⟨_, _, rfl, by decide⟩
  | array spelled => exact ⟨_, _, rfl, by decide⟩
  | object spelled => exact ⟨_, _, rfl, by decide⟩

/-- Blanks end a number, and so does what separates values. -/
theorem closes_of_mem {c : Char} (harmless : c ∈ blanks ++ [',', ']', '}']) (rest : Decoded) :
    Closes (some c :: rest) := by
  have all : ∀ other ∈ blanks ++ [',', ']', '}'],
      other.isDigit = false ∧ other ≠ '.' ∧ other ≠ 'e' ∧ other ≠ 'E' := by simp [blanks]
  intro first more isFirst
  obtain ⟨same, _⟩ := List.cons.inj isFirst
  rw [← Option.some.inj same]
  exact all c harmless

theorem closes_of_isBlank {blank : List Char} (isBlank : IsBlank blank) :
    Closes (seen blank) := by
  cases blank with
  | nil => exact fun c more isFirst => by cases isFirst
  | cons c blank => exact closes_of_mem (List.mem_append_left _ (isBlank c List.mem_cons_self)) _

/-- Behind blanks stands a character with which no number can go on. -/
theorem closes_blank {after : List Char} (isBlank : IsBlank after) {c : Char}
    (closing : c ∈ [',', ']', '}']) (rest : Decoded) :
    Closes (seen after ++ some c :: rest) := by
  cases after with
  | nil => exact closes_of_mem (List.mem_append_right _ closing) rest
  | cons blank after =>
      exact closes_of_mem (List.mem_append_left _ (isBlank blank List.mem_cons_self)) _

/-- A written value inside of brackets is read, up to what separates it from the next one. -/
theorem Reads.between {α : Type} {read : Reader α} {text : List Char} {value : α}
    (reads : Reads read text value) (starts : Starts text) {before after : List Char}
    (blankBefore : IsBlank before) (blankAfter : IsBlank after) {c : Char}
    (closing : c ∈ [',', ']', '}']) (rest : Decoded) :
    ∃ behind, read (seen before ++ (seen text ++ (seen after ++ some c :: rest))) =
      .ok (value, behind) ∧ skipBlank behind = some c :: rest := by
  refine ⟨seen after ++ some c :: rest, ?_, ?_⟩
  · refine reads _ _ ?_ (closes_blank blankAfter closing rest)
    rw [skipBlank_append blankBefore, starts.skipBlank]
  · have notBlank : c ∉ blanks := by
      have apart : ∀ other ∈ [',', ']', '}'], other ∉ blanks := by simp [blanks]
      exact apart c closing
    rw [skipBlank_append blankAfter, skipBlank_cons notBlank]

/-! ## Series -/

/-- Without the blanks in front, a series begins with its first part. -/
theorem SeriesFrom.strip {α : Type} {spells : α → List Char → Prop} {close : Char}
    {parts : List α} {text : List Char} (series : SeriesFrom spells close parts text)
    (starts : ∀ part ∈ parts.head?, ∀ text, spells part text → Starts text) :
    ∃ bare, SeriesFrom spells close parts bare ∧ Starts bare ∧ bare.length ≤ text.length ∧
      ∀ rest, skipBlank (seen text ++ rest) = seen bare ++ rest := by
  have stripped {before bare : List Char} (isBlank : IsBlank before) (startsBare : Starts bare)
      (rest : Decoded) : skipBlank (seen (before ++ bare) ++ rest) = seen bare ++ rest := by
    rw [seen_append, List.append_assoc, skipBlank_append isBlank, startsBare.skipBlank]
  have shorter (before bare : List Char) : bare.length ≤ (before ++ bare).length :=
    (List.suffix_append before bare).length_le
  cases series with
  | @last part before text after blankBefore spelled blankAfter =>
      have startsBare := (starts part rfl text spelled).append (after ++ [close])
      exact ⟨_, .last (List.forall_mem_nil _) spelled blankAfter, startsBare, shorter _ _,
        stripped blankBefore startsBare⟩
  | @next part parts before text after more blankBefore spelled blankAfter onward =>
      have startsBare := (starts part rfl text spelled).append (after ++ ',' :: more)
      exact ⟨_, .next (List.forall_mem_nil _) spelled blankAfter onward, startsBare, shorter _ _,
        stripped blankBefore startsBare⟩

section Items

variable {α β : Type} {spells : α → List Char → Prop} {item : Reader β}

/-- Each part is no longer than the bound and is read as the value beside it. -/
abbrev ReadsAll (spells : α → List Char → Prop) (item : Reader β) (bound : Nat) :
    List α → List β → Prop :=
  List.Forall₂ fun part value =>
    ∀ text, spells part text → text.length ≤ bound → Reads item text value

theorem itemsFrom_of_series {parts : List α} {text : List Char}
    (series : SeriesFrom spells ']' parts text) {values : List β} {limit : Nat}
    (reads : ReadsAll spells item limit parts values)
    (starts : ∀ part ∈ parts, ∀ text, spells part text → Starts text)
    (within : text.length ≤ limit) {bound : Nat} (enough : text.length ≤ bound) (rest : Decoded) :
    itemsFrom item bound (seen text ++ rest) = .ok (values, rest) := by
  induction series generalizing values bound with
  | @last part before text after blankBefore spelled blankAfter =>
      obtain ⟨value, others, readsFirst, readsOthers, rfl⟩ := List.forall₂_cons_left_iff.mp reads
      obtain rfl := List.forall₂_nil_left_iff.mp readsOthers
      simp only [List.length_append, List.length_singleton] at within enough
      obtain ⟨behind, isRead, ends⟩ :=
        (readsFirst text spelled (by omega)).between (starts part List.mem_cons_self text spelled)
          blankBefore blankAfter (by decide : ']' ∈ _) rest
      obtain ⟨bound, rfl⟩ : ∃ less, bound = less + 1 := ⟨bound - 1, by omega⟩
      simp only [seen_append, seen_cons, seen_nil, List.append_assoc, List.cons_append,
        List.nil_append]
      rw [itemsFrom, isRead]
      simp only [bind, Except.bind, ends]
      rfl
  | @next part parts before text after more blankBefore spelled blankAfter _ ih =>
      obtain ⟨value, others, readsFirst, readsOthers, rfl⟩ := List.forall₂_cons_left_iff.mp reads
      simp only [List.length_append, List.length_cons] at within enough
      obtain ⟨behind, isRead, ends⟩ :=
        (readsFirst text spelled (by omega)).between (starts part List.mem_cons_self text spelled)
          blankBefore blankAfter (by decide : ',' ∈ _) (seen more ++ rest)
      obtain ⟨bound, rfl⟩ : ∃ less, bound = less + 1 := ⟨bound - 1, by omega⟩
      have onward : itemsFrom item bound (seen more ++ rest) = .ok (others, rest) :=
        ih readsOthers (fun other member => starts other (List.mem_cons_of_mem part member))
          (by omega) (by omega)
      simp only [seen_append, seen_cons, List.append_assoc, List.cons_append]
      rw [itemsFrom, isRead]
      simp only [bind, Except.bind, ends, onward]
      rfl

/-- The items of an array are read one after the other. -/
theorem Series.items {parts : List α} {text : List Char} (series : Series spells ']' parts text)
    {values : List β} {limit : Nat} (reads : ReadsAll spells item limit parts values)
    (starts : ∀ part ∈ parts, ∀ text, spells part text → Starts text)
    (within : text.length ≤ limit) (rest : Decoded) :
    Json.items item (seen text ++ rest) = .ok (values, rest) := by
  cases series with
  | @none blank isBlank =>
      obtain rfl := List.forall₂_nil_left_iff.mp reads
      rw [Json.items, seen_append, List.append_assoc, skipBlank_append isBlank, seen_cons,
        List.cons_append, skipBlank_cons (by decide)]
      rfl
  | some series =>
      obtain ⟨bare, seriesBare, startsBare, shorter, skips⟩ :=
        series.strip fun part isHead => starts part (List.mem_of_mem_head? isHead)
      have isRead : itemsFrom item (seen bare ++ rest).length (seen bare ++ rest) =
          .ok (values, rest) := by
        refine itemsFrom_of_series seriesBare reads starts (Nat.le_trans shorter within) ?_ rest
        rw [List.length_append, seen, List.length_map]
        exact Nat.le_add_right _ _
      obtain ⟨c, more, rfl, _, notBracket, _⟩ := startsBare
      rw [Json.items, skips]
      simp only [seen_cons, List.cons_append] at isRead ⊢
      split
      · rename_i isEmpty
        cases isEmpty
      · rename_i isClosed
        obtain ⟨same, _⟩ := List.cons.inj isClosed
        exact absurd (Option.some.inj same) notBracket
      · exact isRead

end Items

/-! ## Members -/

section Members

variable {α κ σ : Type} {spells : α → List Char → Prop} {key : Reader κ} {found : String → κ}
  {member : σ → κ → Reader σ}

/-- The reader takes a key, without its opening quote, and knows it. -/
def ReadsKey (key : Reader κ) (found : String → κ) : Prop :=
  ∀ name chars rest, SpellsChars name.toList chars →
    key (seen chars ++ some '"' :: rest) = .ok (found name, rest)

/-- Reading members one after the other, each no longer than the bound, leads a state on. -/
inductive Carries (spells : α → List Char → Prop) (found : String → κ)
    (member : σ → κ → Reader σ) (bound : Nat) : σ → List (String × α) → σ → Prop where
  | nil (state : σ) : Carries spells found member bound state [] state
  | cons {state next last : σ} {name : String} {value : α} {others : List (String × α)}
      (reads : ∀ text, spells value text → text.length ≤ bound →
        Reads (member state (found name)) text next)
      (onward : Carries spells found member bound next others last) :
      Carries spells found member bound state ((name, value) :: others) last

/-- A key is read, with the colon behind it. -/
theorem ReadsKey.memberKey (readsKey : ReadsKey key found) {name : String}
    {before chars after : List Char} (blankBefore : IsBlank before)
    (spelled : SpellsChars name.toList chars) (blankAfter : IsBlank after) (rest : Decoded) :
    Json.memberKey key (seen before ++ some '"' ::
        (seen chars ++ some '"' :: (seen after ++ some ':' :: rest))) = .ok (found name, rest) := by
  have isKey := readsKey name chars (seen after ++ some ':' :: rest) spelled
  rw [Json.memberKey, skipBlank_append blankBefore, skipBlank_cons (by decide)]
  simp only [isKey, bind, Except.bind, skipBlank_append blankAfter,
    skipBlank_cons (by decide : ':' ∉ blanks)]
  rfl

/-- One member is read, up to what separates it from the next one. -/
theorem Member.read {name : String} {value : α} {text : List Char}
    (spelled : Member spells (name, value) text) (readsKey : ReadsKey key found)
    {state next : σ} {bound : Nat} (within : text.length ≤ bound)
    (reads : ∀ text, spells value text → text.length ≤ bound →
      Reads (member state (found name)) text next)
    (starts : ∀ text, spells value text → Starts text)
    {before after : List Char} (blankBefore : IsBlank before) (blankAfter : IsBlank after)
    {c : Char} (closing : c ∈ [',', ']', '}']) (rest : Decoded) :
    ∃ middle behind,
      Json.memberKey key (seen before ++ (seen text ++ (seen after ++ some c :: rest))) =
        .ok (found name, middle) ∧
      member state (found name) middle = .ok (next, behind) ∧
      skipBlank behind = some c :: rest := by
  cases spelled with
  | @pair _ _ chars gap blank inner spelledKey blankGap blankColon spelled =>
      simp only [List.length_cons, List.length_append] at within
      obtain ⟨behind, isRead, ends⟩ := (reads inner spelled (by omega)).between
        (starts inner spelled) blankColon blankAfter closing rest
      refine ⟨_, behind, ?_, isRead, ends⟩
      simp only [seen_cons, seen_append, List.cons_append, List.append_assoc]
      exact readsKey.memberKey blankBefore spelledKey blankGap _

theorem membersFrom_of_series (readsKey : ReadsKey key found) {parts : List (String × α)}
    {text : List Char} (series : SeriesFrom (Member spells) '}' parts text) {state last : σ}
    {limit : Nat} (carries : Carries spells found member limit state parts last)
    (starts : ∀ part ∈ parts, ∀ text, spells part.2 text → Starts text)
    (within : text.length ≤ limit) {bound : Nat} (enough : text.length ≤ bound) (rest : Decoded) :
    membersFrom key member bound state (seen text ++ rest) = .ok (last, rest) := by
  induction series generalizing state bound with
  | @last part before text after blankBefore spelled blankAfter =>
      cases carries with
      | cons reads onward =>
          cases onward
          simp only [List.length_append, List.length_singleton] at within enough
          obtain ⟨middle, behind, isKey, isRead, ends⟩ := spelled.read readsKey (by omega) reads
            (starts _ List.mem_cons_self) blankBefore blankAfter (by decide : '}' ∈ _) rest
          obtain ⟨bound, rfl⟩ : ∃ less, bound = less + 1 := ⟨bound - 1, by omega⟩
          simp only [seen_append, seen_cons, seen_nil, List.append_assoc, List.cons_append,
            List.nil_append]
          rw [membersFrom, isKey]
          simp only [bind, Except.bind, isRead, ends]
          rfl
  | @next part parts before text after more blankBefore spelled blankAfter _ ih =>
      cases carries with
      | cons reads onward =>
          simp only [List.length_append, List.length_cons] at within enough
          obtain ⟨middle, behind, isKey, isRead, ends⟩ := spelled.read readsKey (by omega) reads
            (starts _ List.mem_cons_self) blankBefore blankAfter (by decide : ',' ∈ _)
            (seen more ++ rest)
          obtain ⟨bound, rfl⟩ : ∃ less, bound = less + 1 := ⟨bound - 1, by omega⟩
          have readsOthers :
              membersFrom key member bound _ (seen more ++ rest) = .ok (last, rest) :=
            ih onward (fun other isOther => starts other (List.mem_cons_of_mem _ isOther))
              (by omega) (by omega)
          simp only [seen_append, seen_cons, List.append_assoc, List.cons_append]
          rw [membersFrom, isKey]
          simp only [bind, Except.bind, isRead, ends, readsOthers]

/-- The members of an object are read one after the other. -/
theorem Series.members (readsKey : ReadsKey key found) {parts : List (String × α)}
    {text : List Char} (series : Series (Member spells) '}' parts text) {state last : σ}
    {limit : Nat} (carries : Carries spells found member limit state parts last)
    (starts : ∀ part ∈ parts, ∀ text, spells part.2 text → Starts text)
    (within : text.length ≤ limit) (rest : Decoded) :
    Json.members key member state (seen text ++ rest) = .ok (last, rest) := by
  cases series with
  | @none blank isBlank =>
      cases carries
      rw [Json.members, seen_append, List.append_assoc, skipBlank_append isBlank, seen_cons,
        List.cons_append, skipBlank_cons (by decide)]
      rfl
  | some series =>
      have startsMembers : ∀ part ∈ parts.head?, ∀ text, Member spells part text →
          Starts text := by
        rintro part _ _ ⟨⟩
        exact ⟨_, _, rfl, by decide⟩
      obtain ⟨bare, seriesBare, startsBare, shorter, skips⟩ := series.strip startsMembers
      have isRead : membersFrom key member (seen bare ++ rest).length state (seen bare ++ rest) =
          .ok (last, rest) := by
        refine membersFrom_of_series readsKey seriesBare carries starts
          (Nat.le_trans shorter within) ?_ rest
        rw [List.length_append, seen, List.length_map]
        exact Nat.le_add_right _ _
      obtain ⟨c, more, rfl, _, _, notBrace⟩ := startsBare
      rw [Json.members, skips]
      simp only [seen_cons, List.cons_append] at isRead ⊢
      split
      · rename_i isEmpty
        cases isEmpty
      · rename_i isClosed
        obtain ⟨same, _⟩ := List.cons.inj isClosed
        exact absurd (Option.some.inj same) notBrace
      · exact isRead

end Members

/-! ## Passing over -/

theorem word_append (chars : List Char) (rest : Decoded) :
    word chars (seen chars ++ rest) = .ok ((), rest) := by
  induction chars with
  | nil => rfl
  | cons c chars ih => rw [seen_cons, List.cons_append, word, if_pos rfl, ih]

theorem readsKey_skipString : ReadsKey skipString fun _ => () :=
  fun _ _ rest spelled => spelled.skipString rest

theorem skipNested_of_isDigit {bound : Nat} {ahead more : Decoded} {c : Char}
    (isAhead : skipBlank ahead = some c :: more) (isDigit : c.isDigit = true) :
    skipNested (bound + 1) ahead =
      (scanNumber .malformed (some c :: more)).map fun found => ((), found.2) := by
  have isNot {other : Char} (notDigit : other.isDigit = false) {rest : Decoded} :
      some c :: more ≠ some other :: rest := by
    rintro ⟨⟩
    rw [notDigit] at isDigit
    cases isDigit
  rw [skipNested, isAhead]
  split
  case h_1 isEmpty => cases isEmpty
  case h_9 isFirst =>
    obtain ⟨same, rfl⟩ := List.cons.inj isFirst
    obtain rfl := Option.some.inj same
    rw [isDigit_eq, isDigit, if_pos rfl]
  case h_10 isGap => cases isGap
  all_goals exact absurd ‹_› (isNot rfl)

/-- Whatever stands for a value is passed over, if it is no longer than the bound. -/
theorem reads_skipNested {document : Document} {text : List Char}
    (spelled : Spells document text) {bound : Nat} (enough : text.length ≤ bound) :
    Reads (skipNested (bound + 1)) text () := by
  -- The bound falls with every bracket; what is inside of brackets is shorter than the whole.
  induction bound generalizing document text with
  | zero => exact absurd enough (Nat.not_le.mpr spelled.starts.length_pos)
  | succ bound ih =>
      intro ahead rest isAhead closes
      cases spelled with
      | null =>
          rw [skipNested, isAhead]
          exact word_append ['u', 'l', 'l'] rest
      | yes =>
          rw [skipNested, isAhead]
          exact word_append ['r', 'u', 'e'] rest
      | no =>
          rw [skipNested, isAhead]
          exact word_append ['a', 'l', 's', 'e'] rest
      | number isNumber =>
          cases isNumber with
          | positive isUnsigned =>
              obtain ⟨written, scans⟩ := isUnsigned.scanNumber .malformed closes
              obtain ⟨c, more, rfl, isDigit⟩ := starts_of_isUnsigned isUnsigned
              rw [skipNested_of_isDigit isAhead isDigit]
              exact congrArg (Except.map fun found => ((), found.2)) scans
          | negative isUnsigned =>
              obtain ⟨written, scans⟩ := isUnsigned.scanNumber .malformed closes
              rw [skipNested, isAhead]
              exact congrArg (Except.map fun found => ((), found.2)) scans
      | string spelled =>
          rw [skipNested, isAhead, seen_cons, List.cons_append, seen_append, List.append_assoc]
          exact spelled.skipString rest
      | @array items inner spelled =>
          rw [List.length_cons] at enough
          have reads : ReadsAll Spells (skipNested (bound + 1)) bound items
              (items.map fun _ => ()) := by
            rw [ReadsAll, List.forall₂_map_right_iff, List.forall₂_same]
            exact fun item _ text spelled within => ih spelled within
          have isRead := spelled.items reads (fun _ _ _ spelled => spelled.starts)
            (Nat.le_of_succ_le_succ enough) rest
          rw [skipNested, isAhead]
          exact congrArg (Except.map fun found => ((), found.2)) isRead
      | @object members inner spelled =>
          rw [List.length_cons] at enough
          have carries : Carries Spells (fun _ => ()) (fun _ _ => skipNested (bound + 1)) bound ()
              members () := by
            clear spelled isAhead enough
            induction members with
            | nil => exact .nil ()
            | cons member others isOthers => exact .cons (fun text spelled => ih spelled) isOthers
          rw [skipNested, isAhead]
          exact spelled.members readsKey_skipString carries
            (fun _ _ _ spelled => spelled.starts) (Nat.le_of_succ_le_succ enough) rest

theorem length_skipBlank_le (text : Decoded) : (skipBlank text).length ≤ text.length := by
  induction text with
  | nil => exact Nat.le_refl _
  | cons c rest ih =>
      cases c with
      | none => exact Nat.le_refl _
      | some c =>
          rw [skipBlank]
          split
          · exact Nat.le_succ_of_le ih
          · exact Nat.le_refl _

/-- Whatever stands for a value is passed over. -/
theorem reads_skip {document : Document} {text : List Char} (spelled : Spells document text) :
    Reads skip text () := by
  intro ahead rest isAhead closes
  have enough : text.length ≤ ahead.length := by
    have shorter := length_skipBlank_le ahead
    rw [isAhead, List.length_append, seen, List.length_map] at shorter
    exact Nat.le_of_add_right_le shorter
  exact reads_skipNested spelled enough ahead rest isAhead closes

end WebhookSync.Json
