import WorkflowLaunch.Attribute.Table

set_option autoImplicit false

/-!
Look-ups in a table into which entries were inserted. The entries of a table have different names,
so the order of their insertion does not matter.
-/

namespace WorkflowLaunch.Attribute

theorem mem_of_find?_eq_some {name : String} {type : ValueType} {entries : List Entry}
    (found : find? name entries = some type) : (name, type) ∈ entries := by
  induction entries with
  | nil => simp [find?] at found
  | cons head rest ih =>
    obtain ⟨held, old⟩ := head
    rw [find?] at found
    split at found
    · next same => simp_all
    · exact List.mem_cons_of_mem _ (ih found)

theorem find?_eq_some_of_mem {name : String} {type : ValueType} {entries : List Entry}
    (sorted : Sorted entries) (member : (name, type) ∈ entries) :
    find? name entries = some type := by
  induction entries with
  | nil => simp at member
  | cons head rest ih =>
    obtain ⟨held, old⟩ := head
    obtain ⟨above, tail⟩ := List.pairwise_cons.mp sorted
    rw [find?]
    rcases List.mem_cons.mp member with same | later
    · obtain ⟨rfl, rfl⟩ := Prod.mk.inj same
      exact if_pos rfl
    · have different : held ≠ name := fun same => String.lt_irrefl name (same ▸ above _ later)
      rw [if_neg different, ih tail later]

theorem find?_append (name : String) (front rest : List Entry) :
    find? name (front ++ rest) = (find? name front).or (find? name rest) := by
  induction front with
  | nil => rfl
  | cons head others ih =>
    rw [List.cons_append, find?, find?, ih]
    split <;> rfl

theorem find?_filter (keep : String → Bool) (name : String) (entries : List Entry) :
    find? name (entries.filter fun entry => keep entry.1) =
      if keep name then find? name entries else none := by
  induction entries with
  | nil => simp [find?]
  | cons head rest ih =>
    obtain ⟨held, type⟩ := head
    by_cases same : held = name
    · subst same
      cases kept : keep held <;> simp [kept, ih, find?]
    · cases kept : keep held <;> simp [kept, ih, find?, same]

/-- Of entries in the order of their names, those in front of one are the ones below it. -/
theorem find?_front {front rest : List Entry} {entry : Entry}
    (sorted : Sorted (front ++ entry :: rest)) (name : String) :
    find? name front =
      if name < entry.1 then find? name (front ++ entry :: rest) else none := by
  obtain ⟨_, tail, apart⟩ := List.pairwise_append.mp sorted
  split
  · next below =>
    have absent : find? name (entry :: rest) = none := by
      apply find?_eq_none_of_below
      intro other member
      rcases List.mem_cons.mp member with rfl | later
      · exact below
      · exact String.lt_trans below ((List.pairwise_cons.mp tail).1 other later)
    rw [find?_append, absent, Option.or_none]
  · next above =>
    cases found : find? name front with
    | none => rfl
    | some type =>
      exact absurd (apart _ (mem_of_find?_eq_some found) entry List.mem_cons_self) above

namespace Table

@[simp] theorem insertAll_nil (table : Table) : table.insertAll [] = table := rfl

@[simp] theorem insertAll_cons (table : Table) (name : String) (type : ValueType)
    (rest : List Entry) :
    table.insertAll ((name, type) :: rest) = (table.insert name type).insertAll rest := rfl

theorem get?_insertAll (table : Table) {entries : List Entry} (sorted : Sorted entries)
    (name : String) :
    (table.insertAll entries).get? name = (find? name entries).or (table.get? name) := by
  induction entries generalizing table with
  | nil => simp [find?]
  | cons head rest ih =>
    obtain ⟨held, type⟩ := head
    obtain ⟨above, tail⟩ := List.pairwise_cons.mp sorted
    rw [insertAll_cons, ih _ tail, get?_insert, find?]
    split
    · next same => rw [← same, find?_eq_none_of_below above]; rfl
    · rfl

/-- Inserting the entries of a table into the empty one gives it back. -/
theorem insertAll_entries (table : Table) : (∅ : Table).insertAll table.entries = table := by
  apply ext
  intro name
  rw [get?_insertAll _ table.sorted, get?_empty, Option.or_none]
  rfl

end Table

end WorkflowLaunch.Attribute
