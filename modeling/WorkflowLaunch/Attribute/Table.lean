import WorkflowLaunch.Attribute.ValueType

set_option autoImplicit false

/-!
Attribute types by name. The entries are kept in strictly increasing order of their names, compared
by code point, so that equal look-ups mean equal tables and every walk over a table is in name
order.
-/

namespace WorkflowLaunch.Attribute

abbrev Entry := String × ValueType

/-- The type held under a name. -/
def find? (name : String) : List Entry → Option ValueType
  | [] => none
  | (held, type) :: rest => if held = name then some type else find? name rest

/-- Puts an entry in its place, replacing one of the same name. -/
def place (name : String) (type : ValueType) : List Entry → List Entry
  | [] => [(name, type)]
  | (held, old) :: rest =>
    if name < held then (name, type) :: (held, old) :: rest
    else if name = held then (name, type) :: rest
    else (held, old) :: place name type rest

def Sorted (entries : List Entry) : Prop := entries.Pairwise (·.1 < ·.1)

theorem mem_of_mem_place {name : String} {type : ValueType} {entry : Entry}
    {entries : List Entry} (member : entry ∈ place name type entries) :
    entry = (name, type) ∨ entry ∈ entries := by
  induction entries with
  | nil => simpa [place] using member
  | cons head rest ih =>
    obtain ⟨held, old⟩ := head
    rw [place] at member
    split at member
    · simpa using member
    · split at member
      · rcases List.mem_cons.mp member with h | h
        · exact .inl h
        · exact .inr (List.mem_cons_of_mem _ h)
      · rcases List.mem_cons.mp member with h | h
        · exact .inr (h ▸ List.mem_cons_self)
        · exact (ih h).imp id (List.mem_cons_of_mem _)

theorem sorted_place (name : String) (type : ValueType) {entries : List Entry}
    (sorted : Sorted entries) : Sorted (place name type entries) := by
  induction entries with
  | nil => simp [place, Sorted]
  | cons head rest ih =>
    obtain ⟨held, old⟩ := head
    obtain ⟨above, tail⟩ := List.pairwise_cons.mp sorted
    rw [place]
    split
    · next before =>
      refine List.pairwise_cons.mpr ⟨?_, sorted⟩
      intro entry member
      rcases List.mem_cons.mp member with h | h
      · exact h ▸ before
      · exact String.lt_trans before (above entry h)
    · next notBefore =>
      split
      · next same => subst same; exact List.pairwise_cons.mpr ⟨above, tail⟩
      · next different =>
        refine List.pairwise_cons.mpr ⟨?_, ih tail⟩
        intro entry member
        rcases mem_of_mem_place member with h | h
        · subst h
          rcases String.le_total name held with h | h
          · exact absurd (String.le_antisymm h (String.not_lt.mp notBefore)) different
          · exact String.not_le.mp fun le => different (String.le_antisymm le h)
        · exact above entry h

theorem find?_place (name other : String) (type : ValueType) (entries : List Entry) :
    find? other (place name type entries) =
      if name = other then some type else find? other entries := by
  induction entries with
  | nil => simp [place, find?]
  | cons head rest ih =>
    obtain ⟨held, old⟩ := head
    rw [place]
    split
    · simp [find?]
    · split
      · next same => subst same; simp only [find?]; split <;> rfl
      · next different =>
        simp only [find?, ih]
        split
        · next h => subst h; rw [if_neg different]
        · rfl

theorem find?_eq_none_of_below {name : String} {entries : List Entry}
    (below : ∀ entry ∈ entries, name < entry.1) : find? name entries = none := by
  induction entries with
  | nil => rfl
  | cons head rest ih =>
    have first := below head List.mem_cons_self
    have : head.1 ≠ name := fun h => String.lt_irrefl name (h ▸ first)
    simp [find?, this, ih fun entry h => below entry (List.mem_cons_of_mem _ h)]

/-- A sorted list of entries is determined by its look-ups. -/
theorem eq_of_find?_eq {left right : List Entry} (leftSorted : Sorted left)
    (rightSorted : Sorted right) (same : ∀ name, find? name left = find? name right) :
    left = right := by
  induction left generalizing right with
  | nil =>
    cases right with
    | nil => rfl
    | cons head rest => simpa [find?] using same head.1
  | cons head rest ih =>
    obtain ⟨above, tail⟩ := List.pairwise_cons.mp leftSorted
    cases right with
    | nil => simpa [find?] using same head.1
    | cons head' rest' =>
      obtain ⟨above', tail'⟩ := List.pairwise_cons.mp rightSorted
      have heads : head.1 = head'.1 := by
        rcases String.le_total head.1 head'.1 with h | h
        · refine Classical.byContradiction fun ne => ?_
          have lt : head.1 < head'.1 := String.not_le.mp fun ge => ne (String.le_antisymm h ge)
          have absent := @find?_eq_none_of_below head.1 (head' :: rest') (by
            intro entry member
            rcases List.mem_cons.mp member with h | h
            · exact h ▸ lt
            · exact String.lt_trans lt (above' entry h))
          have := same head.1
          rw [absent] at this
          simp [find?] at this
        · refine Classical.byContradiction fun ne => ?_
          have lt : head'.1 < head.1 :=
            String.not_le.mp fun ge => ne (String.le_antisymm ge h)
          have absent := @find?_eq_none_of_below head'.1 (head :: rest) (by
            intro entry member
            rcases List.mem_cons.mp member with h | h
            · exact h ▸ lt
            · exact String.lt_trans lt (above entry h))
          have := same head'.1
          rw [absent] at this
          simp [find?] at this
      have types : head.2 = head'.2 := by simpa [find?, heads] using same head.1
      have rests : rest = rest' := by
        refine ih tail tail' fun name => ?_
        have := same name
        simp only [find?, ← heads, ← types] at this
        split at this
        · next h =>
          subst h
          rw [find?_eq_none_of_below above,
            find?_eq_none_of_below fun entry h => heads ▸ above' entry h]
        · exact this
      rw [rests, show head = head' from Prod.ext heads types]

structure Table where
  entries : List Entry
  sorted : Sorted entries

namespace Table

instance : DecidableEq Table := fun left right =>
  decidable_of_iff (left.entries = right.entries)
    ⟨fun h => by cases left; cases right; simp_all, fun h => h ▸ rfl⟩

def empty : Table := ⟨[], .nil⟩

instance : EmptyCollection Table := ⟨empty⟩

instance : Inhabited Table := ⟨empty⟩

def get? (table : Table) (name : String) : Option ValueType := find? name table.entries

/-- The table with a name sent to a type, whatever it was sent to before. -/
def insert (table : Table) (name : String) (type : ValueType) : Table :=
  ⟨place name type table.entries, sorted_place name type table.sorted⟩

def size (table : Table) : Nat := table.entries.length

/-- Inserts entries from left to right, so that the last one of a name counts. -/
def insertAll (table : Table) (entries : List Entry) : Table :=
  entries.foldl (fun table (name, type) => table.insert name type) table

def ofEntries (entries : List Entry) : Table := (∅ : Table).insertAll entries

@[simp] theorem get?_empty (name : String) : (∅ : Table).get? name = none := rfl

@[simp] theorem get?_insert (table : Table) (name other : String) (type : ValueType) :
    (table.insert name type).get? other = if name = other then some type else table.get? other :=
  find?_place name other type table.entries

theorem ext {left right : Table} (same : ∀ name, left.get? name = right.get? name) :
    left = right := by
  have := eq_of_find?_eq left.sorted right.sorted same
  cases left
  cases right
  simp_all

end Table

end WorkflowLaunch.Attribute
