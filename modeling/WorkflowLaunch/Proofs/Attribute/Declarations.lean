import WorkflowLaunch.Attribute.Declaration

set_option autoImplicit false

/-!
What a declaration resolves to. A name has the type that stands at its last position, since every
pair overwrites what an earlier pair of the same name has entered. So only the order among the pairs
of one name matters.
-/

namespace WorkflowLaunch.Attribute

/-- A pair behind which its name does not come again. -/
def Closes (pairs : List (String × String)) (name token : String) : Prop :=
  ∃ before after, pairs = before ++ (name, token) :: after ∧ ∀ pair ∈ after, pair.1 ≠ name

variable {pairs : List (String × String)} {table result : Table} {name token : String}

theorem typeNamed_eq_ok_iff {type : ValueType} :
    typeNamed token = .ok type ↔ ValueType.ofName? token = some type := by
  rw [typeNamed]
  cases ValueType.ofName? token <;> simp

theorem declare_cons_eq_ok (declared : declare table ((name, token) :: pairs) = .ok result) :
    ∃ type, ValueType.ofName? token = some type ∧
      declare (table.insert name type) pairs = .ok result := by
  rw [declare] at declared
  cases named : typeNamed token with
  | error fault => simp [named, bind, Except.bind] at declared
  | ok type =>
    refine ⟨type, typeNamed_eq_ok_iff.mp named, ?_⟩
    simpa [named, bind, Except.bind] using declared

/-- Names that no pair has keep their type. -/
theorem get?_of_declare (declared : declare table pairs = .ok result)
    (absent : ∀ pair ∈ pairs, pair.1 ≠ name) : result.get? name = table.get? name := by
  induction pairs generalizing table with
  | nil =>
    obtain rfl : table = result := by simpa [declare] using declared
    rfl
  | cons pair rest ih =>
    obtain ⟨held, token⟩ := pair
    obtain ⟨different, others⟩ := List.forall_mem_cons.mp absent
    obtain ⟨type, _, declared⟩ := declare_cons_eq_ok declared
    rw [ih declared others, Table.get?_insert, if_neg different]

/-- The last pair of a name decides on its type. -/
theorem get?_of_closes (declared : declare table pairs = .ok result)
    (closes : Closes pairs name token) :
    ∃ type, ValueType.ofName? token = some type ∧ result.get? name = some type := by
  obtain ⟨before, after, rfl, last⟩ := closes
  induction before generalizing table with
  | nil =>
    obtain ⟨type, named, declared⟩ := declare_cons_eq_ok declared
    refine ⟨type, named, ?_⟩
    rw [get?_of_declare declared last, Table.get?_insert, if_pos rfl]
  | cons pair rest ih =>
    obtain ⟨type, _, declared⟩ := declare_cons_eq_ok declared
    exact ih declared

/-- Whether pairs can be entered does not depend on the table or on their order. -/
theorem exists_declare_iff : (∃ result, declare table pairs = .ok result) ↔
    ∀ pair ∈ pairs, ∃ type, ValueType.ofName? pair.2 = some type := by
  constructor
  · rintro ⟨result, declared⟩
    induction pairs generalizing table with
    | nil => simp
    | cons pair rest ih =>
      obtain ⟨type, named, declared⟩ := declare_cons_eq_ok declared
      exact List.forall_mem_cons.mpr ⟨⟨type, named⟩, ih declared⟩
  · intro known
    induction pairs generalizing table with
    | nil => exact ⟨table, rfl⟩
    | cons pair rest ih =>
      obtain ⟨⟨type, named⟩, others⟩ := List.forall_mem_cons.mp known
      obtain ⟨result, declared⟩ := @ih (table.insert pair.1 type) others
      refine ⟨result, ?_⟩
      rw [declare, typeNamed_eq_ok_iff.mpr named]
      exact declared

/-- A name has the type that its own pairs give it, whatever stands between them. -/
theorem get?_of_declare_filter {start : Table} (declared : declare table pairs = .ok result)
    (same : start.get? name = table.get? name) :
    ∃ part, declare start (pairs.filter (·.1 = name)) = .ok part ∧
      part.get? name = result.get? name := by
  induction pairs generalizing table start with
  | nil =>
    obtain rfl : table = result := by simpa [declare] using declared
    exact ⟨start, rfl, same⟩
  | cons pair rest ih =>
    obtain ⟨held, token⟩ := pair
    obtain ⟨type, named, declared⟩ := declare_cons_eq_ok declared
    by_cases own : held = name
    · have inserted : (start.insert held type).get? name = (table.insert held type).get? name := by
        simp [own]
      obtain ⟨part, entered, found⟩ := ih declared inserted
      refine ⟨part, ?_, found⟩
      rw [List.filter_cons_of_pos (by simpa using own), declare, typeNamed_eq_ok_iff.mpr named]
      exact entered
    · have untouched : start.get? name = (table.insert held type).get? name := by
        rw [same, Table.get?_insert, if_neg own]
      rw [List.filter_cons_of_neg (by simpa using own)]
      exact ih declared untouched

/-- The same pairs in another order, those of one name in the order that they had. -/
structure Reordered (pairs others : List (String × String)) : Prop where
  perm : pairs.Perm others
  order : ∀ name, pairs.filter (·.1 = name) = others.filter (·.1 = name)

namespace Reordered

variable {others : List (String × String)}

theorem symm (reordered : Reordered pairs others) : Reordered others pairs :=
  ⟨reordered.perm.symm, fun name => (reordered.order name).symm⟩

theorem declare (reordered : Reordered pairs others)
    (declared : Attribute.declare ∅ pairs = .ok table) :
    Attribute.declare ∅ others = .ok table := by
  have known := exists_declare_iff.mp ⟨table, declared⟩
  obtain ⟨other, entered⟩ : ∃ other, Attribute.declare ∅ others = .ok other := by
    apply exists_declare_iff.mpr
    intro pair member
    exact known pair (reordered.perm.mem_iff.mpr member)
  suffices same : other = table by rwa [← same]
  apply Table.ext
  intro name
  obtain ⟨part, here, found⟩ := @get?_of_declare_filter _ _ _ name ∅ declared rfl
  obtain ⟨again, there, kept⟩ := @get?_of_declare_filter _ _ _ name ∅ entered rfl
  rw [← reordered.order name, here] at there
  obtain rfl := Except.ok.inj there
  rw [← found, ← kept]

end Reordered

namespace Declaration

/-- The type name at the last position of a name. -/
def Last (declaration : Declaration) (name token : String) : Prop :=
  ∃ position, declaration.names[position]? = some name ∧
    declaration.types[position]? = some token ∧
    ∀ later : Nat, position < later → declaration.names[later]? ≠ some name

variable {declaration : Declaration}

theorem Last.closes (last : declaration.Last name token) :
    Closes (declaration.names.zip declaration.types) name token := by
  obtain ⟨position, named, typed, final⟩ := last
  have pair : (declaration.names.zip declaration.types)[position]? = some (name, token) :=
    List.getElem?_zip_eq_some.mpr ⟨named, typed⟩
  obtain ⟨inside, here⟩ := List.getElem?_eq_some_iff.mp pair
  refine ⟨(declaration.names.zip declaration.types).take position,
    (declaration.names.zip declaration.types).drop (position + 1), ?_, ?_⟩
  · rw [← here, ← List.drop_eq_getElem_cons inside, List.take_append_drop]
  · intro other member same
    obtain ⟨offset, found⟩ := List.mem_iff_getElem?.mp member
    rw [List.getElem?_drop, List.getElem?_zip_eq_some] at found
    apply final (position + 1 + offset) (by omega)
    rw [found.1, same]

/-- A table that a declaration resolves to: every name has the type at its last position, and there
is no other name. -/
structure Resolves (declaration : Declaration) (table : Table) : Prop where
  paired : declaration.names.length = declaration.types.length
  last : ∀ name token, declaration.Last name token →
    ∃ type, ValueType.ofName? token = some type ∧ table.get? name = some type
  absent : ∀ name, name ∉ declaration.names → table.get? name = none

theorem resolves_of_resolve (resolved : declaration.resolve = .ok table) :
    declaration.Resolves table := by
  rw [resolve] at resolved
  split at resolved
  · next paired =>
    refine ⟨paired, ?_, ?_⟩
    · intro name token last
      exact get?_of_closes resolved last.closes
    · intro name absent
      rw [get?_of_declare resolved, Table.get?_empty]
      rintro ⟨held, token⟩ member rfl
      exact absent (List.of_mem_zip member).1
  · simp at resolved

/-- A declaration of as many names and types, with its pairs in another order that keeps the one
among the pairs of each name. -/
structure Reorders (declaration other : Declaration) : Prop where
  names : other.names.length = declaration.names.length
  types : other.types.length = declaration.types.length
  pairs : Reordered (declaration.names.zip declaration.types) (other.names.zip other.types)

namespace Reorders

variable {other : Declaration}

theorem symm (reorders : declaration.Reorders other) : other.Reorders declaration :=
  ⟨reorders.names.symm, reorders.types.symm, reorders.pairs.symm⟩

theorem resolve (reorders : declaration.Reorders other)
    (resolved : declaration.resolve = .ok table) : other.resolve = .ok table := by
  have paired := (resolves_of_resolve resolved).paired
  rw [Declaration.resolve, if_pos paired] at resolved
  rw [Declaration.resolve, if_pos (by rw [reorders.names, reorders.types, paired])]
  exact reorders.pairs.declare resolved

end Reorders

end Declaration

end WorkflowLaunch.Attribute
