/-!
# Sets of names

A set of names is a list in strictly ascending order of code points.  The order is part of the
type, so two sets are equal exactly when they have the same members (`NameSet.ext`), and a set has
one written form.
-/

namespace WebhookSync

/-- A finite set of names, listed in ascending order. -/
structure NameSet where
  /-- the names in order -/
  toList : List String
  /-- each name is below all later ones -/
  ascending : toList.Pairwise (· < ·)

namespace NameSet

instance : DecidableEq NameSet := fun first second =>
  decidable_of_iff (first.toList = second.toList)
    ⟨fun same => by cases first; cases second; simp_all, fun same => by rw [same]⟩

instance : Membership String NameSet :=
  ⟨fun names name => name ∈ names.toList⟩

@[simp]
theorem mem_iff {name : String} {names : NameSet} : name ∈ names ↔ name ∈ names.toList :=
  Iff.rfl

instance (name : String) (names : NameSet) : Decidable (name ∈ names) :=
  inferInstanceAs (Decidable (name ∈ names.toList))

/-- Two names are in order, equal, or in the opposite order. -/
theorem trichotomy (first second : String) : first < second ∨ first = second ∨ second < first := by
  by_cases below : first < second
  · exact .inl below
  · by_cases above : second < first
    · exact .inr (.inr above)
    · exact .inr (.inl (String.le_antisymm (String.not_lt.mp above) (String.not_lt.mp below)))

/-- Put a name into an ascending list, where it belongs and only once. -/
def insertInto (name : String) : List String → List String
  | [] => [name]
  | first :: rest =>
      if name < first then name :: first :: rest
      else if name = first then first :: rest
      else first :: insertInto name rest

@[simp]
theorem mem_insertInto {name other : String} {names : List String} :
    other ∈ insertInto name names ↔ other = name ∨ other ∈ names := by
  induction names with
  | nil => simp [insertInto]
  | cons first rest ih =>
      unfold insertInto
      split
      · simp
      · split
        · rename_i same
          subst same
          simp
        · simp only [List.mem_cons, ih]
          exact ⟨fun h => by rcases h with h | h | h <;> simp [h],
            fun h => by rcases h with h | h | h <;> simp [h]⟩

/-- Insertion keeps the order. -/
theorem pairwise_insertInto {name : String} {names : List String}
    (ascending : names.Pairwise (· < ·)) : (insertInto name names).Pairwise (· < ·) := by
  induction names with
  | nil => simp [insertInto]
  | cons first rest ih =>
      obtain ⟨firstBelow, restAscending⟩ := List.pairwise_cons.mp ascending
      unfold insertInto
      split
      · rename_i below
        refine List.pairwise_cons.mpr ⟨fun other member => ?_, ascending⟩
        rcases List.mem_cons.mp member with same | later
        · exact same ▸ below
        · exact String.lt_trans below (firstBelow other later)
      · split
        · exact ascending
        · rename_i notBelow notSame
          refine List.pairwise_cons.mpr ⟨fun other member => ?_, ih restAscending⟩
          rcases mem_insertInto.mp member with same | later
          · subst same
            rcases trichotomy other first with h | h | h
            · exact absurd h notBelow
            · exact absurd h notSame
            · exact h
          · exact firstBelow other later

/-- No name. -/
def empty : NameSet :=
  ⟨[], .nil⟩

/-- The set with one more name. -/
def insert (name : String) (names : NameSet) : NameSet :=
  ⟨insertInto name names.toList, pairwise_insertInto names.ascending⟩

@[simp]
theorem mem_toList_insert {name other : String} {names : NameSet} :
    other ∈ (insert name names).toList ↔ other = name ∨ other ∈ names.toList :=
  mem_insertInto

/-- The set of the names of a list, in whatever order and with whatever repeats. -/
def ofList (names : List String) : NameSet :=
  names.foldr insert empty

@[simp]
theorem mem_toList_ofList {name : String} {names : List String} :
    name ∈ (ofList names).toList ↔ name ∈ names := by
  induction names with
  | nil => simp [ofList, empty]
  | cons first rest ih =>
      rw [List.mem_cons, ← ih]
      exact mem_toList_insert

/-- Two ascending lists with the same members are the same list. -/
theorem eq_of_pairwise_of_mem_iff {first second : List String}
    (firstAscending : first.Pairwise (· < ·)) (secondAscending : second.Pairwise (· < ·))
    (sameMembers : ∀ name, name ∈ first ↔ name ∈ second) : first = second := by
  induction first generalizing second with
  | nil =>
      cases second with
      | nil => rfl
      | cons name rest => exact absurd ((sameMembers name).mpr (by simp)) (by simp)
  | cons a as ih =>
      cases second with
      | nil => exact absurd ((sameMembers a).mp (by simp)) (by simp)
      | cons b bs =>
          obtain ⟨aBelow, asAscending⟩ := List.pairwise_cons.mp firstAscending
          obtain ⟨bBelow, bsAscending⟩ := List.pairwise_cons.mp secondAscending
          have heads : a = b := by
            rcases List.mem_cons.mp ((sameMembers a).mp (by simp)) with same | later
            · exact same
            · rcases List.mem_cons.mp ((sameMembers b).mpr (by simp)) with same | later'
              · exact same.symm
              · exact absurd (String.lt_trans (bBelow a later) (aBelow b later'))
                  (String.lt_irrefl b)
          subst heads
          congr 1
          refine ih asAscending bsAscending fun name => ?_
          have same := sameMembers name
          simp only [List.mem_cons] at same
          constructor
          · intro member
            rcases same.mp (.inr member) with head | tail
            · subst head
              exact absurd (aBelow name member) (String.lt_irrefl name)
            · exact tail
          · intro member
            rcases same.mpr (.inr member) with head | tail
            · subst head
              exact absurd (bBelow name member) (String.lt_irrefl name)
            · exact tail

/-- Sets with the same members are the same. -/
@[ext]
theorem ext {first second : NameSet}
    (sameMembers : ∀ name, name ∈ first.toList ↔ name ∈ second.toList) : first = second := by
  cases first with
  | mk firstList firstAscending =>
      cases second with
      | mk secondList secondAscending =>
          simp only [mk.injEq]
          exact eq_of_pairwise_of_mem_iff firstAscending secondAscending sameMembers

/-- Listing a set and collecting the list gives the set back. -/
@[simp]
theorem ofList_toList (names : NameSet) : ofList names.toList = names := by
  ext name
  simp

end NameSet

end WebhookSync
