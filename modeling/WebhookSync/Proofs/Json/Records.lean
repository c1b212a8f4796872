import WebhookSync.Proofs.Json.Reading

/-!
# Reading records

A record is read from an object whose members stand in any order.  Members that are no fields of the
record may stand between them; they are passed over (`RecordShape.Grows.reads_object`).  A record is
also read from an array of its fields (`RecordShape.Fills.reads_array`).
-/

namespace WebhookSync.Json

open Text (Decoded)

theorem readsKey_stringBody : ReadsKey stringBody id :=
  fun _ _ rest spelled => spelled.stringBody rest

/-! ## Drafts that grow -/

/-- The value of a member, if the member is among those that have come. -/
def ifCome {α : Type} (come : List String) (name : String) (value : Option α) : Option α :=
  if name ∈ come then value else none

section IfCome

variable {α : Type} {come : List String} {name : String} (value : Option α)

@[simp]
theorem ifCome_nil : ifCome [] name value = none :=
  if_neg List.not_mem_nil

/-- Nothing is missing where a value that is there has come. -/
theorem ifCome_eq_self {value : Option α} (comes : ∀ found ∈ value, name ∈ come) :
    ifCome come name value = value := by
  cases value with
  | none => exact ite_self none
  | some found => exact if_pos (comes found rfl)

theorem ifCome_of_not_mem (notMember : name ∉ come) : ifCome come name value = none :=
  if_neg notMember

@[simp]
theorem ifCome_cons_self : ifCome (name :: come) name value = value :=
  if_pos List.mem_cons_self

@[simp]
theorem ifCome_cons_of_ne {other : String} (differ : other ≠ name) :
    ifCome (other :: come) name value = ifCome come name value := by
  simp [ifCome, Ne.symm differ]

end IfCome

namespace RecordShape

variable {δ α : Type} {shape : RecordShape δ α}

/-- The names of the fields. -/
def names (shape : RecordShape δ α) : List String :=
  shape.fields.map Field.name

/-! ## Single members -/

/-- A field that has not come yet is read into the draft. -/
theorem reads_field {β : Type} {draft next : δ} {name : String} {get : δ → Option β}
    {set : δ → β → δ} {read : Reader β} {mayMiss : Bool} {text : List Char} {value : β}
    (isField : shape.fields.find? (fun field => field.name == name) =
      some (.stored name get set read mayMiss))
    (unset : get draft = none) (sets : set draft value = next) (reads : Reads read text value) :
    Reads (shape.member draft name) text next := by
  have isUnset : ¬(Field.stored name get set read mayMiss).isSet draft = true := by
    simp [Field.stored, unset]
  intro ahead rest isAhead closes
  rw [member, isField]
  dsimp only
  rw [if_neg isUnset, ← sets]
  exact congrArg (Except.map fun found => (set draft found.1, found.2))
    (reads ahead rest isAhead closes)

theorem reads_foreign {draft : δ} {key : String} {document : Document} {text : List Char}
    (foreign : key ∉ shape.names) (spelled : Spells document text) :
    Reads (shape.member draft key) text draft := by
  have noField : shape.fields.find? (fun field => field.name == key) = none := by
    rw [List.find?_eq_none]
    intro field isField isKey
    rw [← eq_of_beq isKey] at foreign
    exact foreign (List.mem_map_of_mem isField)
  intro ahead rest isAhead closes
  rw [member, noField]
  simp only [reads_skip spelled ahead rest isAhead closes]
  rfl

/-! ## All members -/

/-- A draft that grows with the members that have been read, whichever come first.  Members that are
no fields make no difference. -/
structure Grows (shape : RecordShape δ α) (known : List (String × Document))
    (draft : List String → δ) : Prop where
  start : draft [] = shape.start
  fields : ∀ part ∈ known, part.1 ∈ shape.names
  reads : ∀ come, ∀ part ∈ known, part.1 ∉ come → ∀ text, Spells part.2 text →
    Reads (shape.member (draft come) part.1) text (draft (part.1 :: come))
  ignores : ∀ come key, key ∉ shape.names → draft (key :: come) = draft come

theorem Grows.carries {known : List (String × Document)} {draft : List String → δ}
    (grows : shape.Grows known draft) {members : List (String × Document)}
    (among : ∀ part ∈ members, part ∈ known ∨ part.1 ∉ shape.names)
    (distinct : members.Pairwise fun first second => first.1 = second.1 → first.1 ∉ shape.names)
    {come : List String} (missing : ∀ part ∈ members, part.1 ∈ shape.names → part.1 ∉ come)
    (bound : Nat) :
    Carries Spells id shape.member bound (draft come) members
      (draft ((members.map Prod.fst).reverse ++ come)) := by
  induction members generalizing come with
  | nil => exact .nil _
  | cons part members ih =>
      obtain ⟨key, document⟩ := part
      obtain ⟨fromFirst, distinctRest⟩ := List.pairwise_cons.mp distinct
      rw [List.map_cons, List.reverse_cons, List.append_assoc, List.singleton_append]
      -- What has come grows by each name; only for fields does that make a difference.
      refine .cons (fun text spelled _ => ?_)
        (ih (fun part member => among part (List.mem_cons_of_mem _ member)) distinctRest ?_)
      · rcases among _ List.mem_cons_self with isKnown | foreign
        · exact grows.reads come _ isKnown
            (missing _ List.mem_cons_self (grows.fields _ isKnown)) text spelled
        · rw [grows.ignores come key foreign]
          exact reads_foreign foreign spelled
      · intro part member isName
        rw [List.mem_cons, not_or]
        refine ⟨fun same => ?_, missing part (List.mem_cons_of_mem _ member) isName⟩
        exact fromFirst part member same.symm (same ▸ isName)

/-- The record is read from the members of an object, in whatever order they stand, with others
among them. -/
theorem Grows.reads_object {known extras members : List (String × Document)}
    {draft : List String → δ} (grows : shape.Grows known draft)
    (distinct : (known.map Prod.fst).Nodup) (foreign : ∀ extra ∈ extras, extra.1 ∉ shape.names)
    (anyOrder : members.Perm (known ++ extras)) {value : α}
    (finishes : shape.finish (draft (members.map Prod.fst).reverse) = .ok value)
    {text : List Char} (spelled : Spells (.object members) text) :
    Reads shape.reader text value := by
  have among : ∀ part ∈ members, part ∈ known ∨ part.1 ∉ shape.names := fun part member =>
    (List.mem_append.mp (anyOrder.mem_iff.mp member)).imp_right (foreign part)
  have apart : members.Pairwise fun first second =>
      first.1 = second.1 → first.1 ∉ shape.names := by
    rw [anyOrder.pairwise_iff fun differ same => same ▸ differ same.symm, List.pairwise_append]
    refine ⟨?_, ?_, ?_⟩
    · rw [List.Nodup, List.pairwise_map] at distinct
      exact distinct.imp fun differ same => absurd same differ
    · exact List.pairwise_of_forall_mem_list fun first member _ _ _ => foreign first member
    · intro first _ second member same
      exact same ▸ foreign second member
  cases spelled with
  | @object _ inner series =>
      have carries := grows.carries among apart (fun _ _ _ => List.not_mem_nil) inner.length
      rw [List.append_nil, grows.start] at carries
      intro ahead rest isAhead _
      have isRead := series.members readsKey_stringBody carries
        (fun _ _ _ spelled => spelled.starts) (Nat.le_refl _) rest
      rw [reader, isAhead]
      simp only [seen_cons, List.cons_append, bind, Except.bind, isRead, finishes]
      rfl

/-! ## The array form -/

/-- The fields take the items one after the other, and a field for which no item is left may be
missing. -/
inductive Fills : List (Field δ) → δ → List Document → δ → Prop where
  | missing {fields : List (Field δ)} {draft : δ}
      (mayMiss : ∀ field ∈ fields, field.mayMiss = true) : Fills fields draft [] draft
  | next {field : Field δ} {fields : List (Field δ)} {draft between final : δ} {item : Document}
      {items : List Document} (reads : ∀ text, Spells item text →
        Reads (field.read draft) text between) (onward : Fills fields between items final) :
      Fills (field :: fields) draft (item :: items) final

theorem Fills.stored {β : Type} {name : String} {get : δ → Option β} {set : δ → β → δ}
    {read : Reader β} {mayMiss : Bool} {fields : List (Field δ)} {draft final : δ}
    {item : Document} {items : List Document} (value : β)
    (reads : ∀ text, Spells item text → Reads read text value)
    (onward : Fills fields (set draft value) items final) :
    Fills (.stored name get set read mayMiss :: fields) draft (item :: items) final := by
  refine .next (fun text spelled ahead rest isAhead closes => ?_) onward
  exact congrArg (Except.map fun found => (set draft found.1, found.2))
    (reads text spelled ahead rest isAhead closes)

/-- Behind the last item, fields that may be missing are missing. -/
theorem positional_of_closed {fields : List (Field δ)}
    (mayMiss : ∀ field ∈ fields, field.mayMiss = true) {ahead rest : Decoded}
    (isClosed : skipBlank ahead = some ']' :: rest) (position : Nat) (draft : δ) :
    shape.positional position draft fields ahead = .ok (draft, rest) := by
  induction fields generalizing position ahead with
  | nil =>
      rw [positional, closeArray, isClosed]
      rfl
  | cons field others ih =>
      obtain ⟨mayMissFirst, mayMissOthers⟩ := List.forall_mem_cons.mp mayMiss
      rw [positional, isClosed]
      simp only [mayMissFirst, if_true]
      exact ih mayMissOthers (skipBlank_cons (by decide) rest) (position + 1)

/-- A field takes its item, in front of which stands a comma unless it is the first one. -/
theorem positional_item {position : Nat} {ahead behind : Decoded} {before text : List Char}
    {item : Document} {field : Field δ} {draft between : δ} (spelled : Spells item text)
    (reads : Reads (field.read draft) text between) (blankBefore : IsBlank before)
    (closes : Closes behind)
    (isAhead : skipBlank ahead =
      if position = 0 then skipBlank (seen before ++ (seen text ++ behind))
      else some ',' :: (seen before ++ (seen text ++ behind))) (fields : List (Field δ)) :
    shape.positional position draft (field :: fields) ahead =
      shape.positional (position + 1) between fields behind := by
  have stripped : skipBlank (seen before ++ (seen text ++ behind)) = seen text ++ behind := by
    rw [skipBlank_append blankBefore, spelled.starts.skipBlank]
  cases position with
  | zero =>
      have isRead := reads (seen text ++ behind) behind (spelled.starts.skipBlank behind) closes
      obtain ⟨c, more, rfl, _, notClosed, _⟩ := spelled.starts
      rw [if_pos rfl, stripped] at isAhead
      rw [positional, isAhead]
      split
      · rename_i isEmpty
        cases isEmpty
      · rename_i isClosed
        obtain ⟨same, _⟩ := List.cons.inj isClosed
        exact absurd (Option.some.inj same) notClosed
      · simp only [if_true, bind, Except.bind, isRead]
  | succ position =>
      have isRead := reads (seen before ++ (seen text ++ behind)) behind stripped closes
      rw [if_neg (Nat.succ_ne_zero position)] at isAhead
      rw [positional, isAhead]
      change (field.read draft _ >>= _) = _
      rw [isRead]
      rfl

/-- Fields are read from the items of an array, from any position on. -/
theorem Fills.positional {items : List Document} {text : List Char}
    (series : SeriesFrom Spells ']' items text) {fields : List (Field δ)} {draft final : δ}
    (fills : Fills fields draft items final) {position : Nat} {ahead rest : Decoded}
    (isAhead : skipBlank ahead = if position = 0 then skipBlank (seen text ++ rest)
      else some ',' :: (seen text ++ rest)) :
    shape.positional position draft fields ahead = .ok (final, rest) := by
  induction series generalizing fields draft position ahead with
  | @last item before text after blankBefore spelled blankAfter =>
      obtain _ | ⟨reads, ⟨mayMiss⟩⟩ := fills
      simp only [seen_append, seen_cons, seen_nil, List.append_assoc, List.cons_append,
        List.nil_append] at isAhead
      rw [positional_item spelled (reads _ spelled) blankBefore
        (closes_blank blankAfter (by decide) rest) isAhead]
      refine positional_of_closed mayMiss ?_ (position + 1) final
      rw [skipBlank_append blankAfter, skipBlank_cons (by decide)]
  | @next item items before text after more blankBefore spelled blankAfter _ ih =>
      obtain _ | ⟨reads, onward⟩ := fills
      simp only [seen_append, seen_cons, List.append_assoc, List.cons_append] at isAhead
      rw [positional_item spelled (reads _ spelled) blankBefore
        (closes_blank blankAfter (by decide) (seen more ++ rest)) isAhead]
      refine ih onward ?_
      rw [if_neg (Nat.succ_ne_zero position), skipBlank_append blankAfter,
        skipBlank_cons (by decide)]

/-- A record is read from an array of its fields. -/
theorem Fills.reads_array {items : List Document} {final : δ} {value : α}
    (fills : Fills shape.fields shape.start items final) (nonempty : items ≠ [])
    (finishes : shape.finish final = .ok value) {text : List Char}
    (spelled : Spells (.array items) text) : Reads shape.reader text value := by
  cases spelled with
  | @array _ inner series =>
      cases series with
      | none isBlank => exact absurd rfl nonempty
      | some series =>
          intro ahead rest isAhead _
          have isRead : shape.positional 0 shape.start shape.fields (seen inner ++ rest) =
              .ok (final, rest) :=
            fills.positional series (by rw [if_pos rfl])
          rw [reader, isAhead]
          simp only [seen_cons, List.cons_append, bind, Except.bind, isRead, finishes]
          rfl

end RecordShape

end WebhookSync.Json
