import WorkflowLaunch.Proofs.Attribute.Declarations
import WorkflowLaunch.Proofs.Checks

set_option autoImplicit false

/-!
Every result of resolving a declaration. The type names are looked at from left to right until one
names no type; only where all of them name one is there a table, and then it has every name that was
declared and no other.
-/

namespace WorkflowLaunch.Attribute

open Checks (Decides First)

/-- Some type is called this, exactly. -/
def Known (token : String) : Prop := ∃ type : ValueType, type.name = token

theorem known_iff {token : String} : Known token ↔ (ValueType.ofName? token).isSome = true := by
  rw [Option.isSome_iff_exists]
  constructor
  · rintro ⟨type, rfl⟩
    exact ⟨type, ValueType.ofName?_name type⟩
  · rintro ⟨type, named⟩
    exact ⟨type, ValueType.name_of_ofName? named⟩

instance (token : String) : Decidable (Known token) := decidable_of_iff' _ known_iff

theorem ValueType.name_injective {one other : ValueType} (same : one.name = other.name) :
    one = other := by
  simpa using congrArg ofName? same

/-- The fault that a type name comes to. -/
def Unknown (token : String) (fault : DeclarationFault) : Prop := .unknownType token = fault

theorem decides_typeNamed (token : String) : Decides Known Unknown [token] (typeNamed token) := by
  rw [typeNamed]
  cases named : ValueType.ofName? token with
  | none =>
    refine .failed ?_ rfl
    simp [known_iff, named]
  | some type =>
    refine .next ?_ (.passed type)
    simp [known_iff, named]

/-- Pairs are entered as long as their types are known, whatever the table holds before. -/
theorem decides_declare (table : Table) (pairs : List (String × String)) :
    Decides Known Unknown (pairs.map Prod.snd) (declare table pairs) := by
  induction pairs generalizing table with
  | nil => exact .passed table
  | cons pair rest ih =>
    obtain ⟨name, token⟩ := pair
    exact (decides_typeNamed token).bind fun type _ => ih (table.insert name type)

namespace Declaration

variable {declaration : Declaration} {table other : Table} {name token : String}
  {result : Except DeclarationFault Table}

theorem decides_resolve (paired : declaration.names.length = declaration.types.length) :
    Decides Known Unknown declaration.types declaration.resolve := by
  have decides := decides_declare ∅ (declaration.names.zip declaration.types)
  rw [List.map_snd_zip (Nat.le_of_eq paired.symm)] at decides
  rwa [resolve, if_pos paired]

theorem resolve_of_unknown (paired : declaration.names.length = declaration.types.length)
    (first : First Known declaration.types token) :
    declaration.resolve = .error (.unknownType token) := by
  apply ((decides_resolve paired).eq_error_iff ?_).mpr ⟨token, first, rfl⟩
  rintro token one other rfl rfl
  rfl

/-- Every name of a list has a last position: its first one from behind. -/
theorem exists_last_position {names : List String} (member : name ∈ names) :
    ∃ position : Nat, names[position]? = some name ∧
      ∀ later : Nat, position < later → names[later]? ≠ some name := by
  -- In the reversed list the last occurrence is the first, and `after` stands behind it.
  obtain ⟨after, before, reversed, absent⟩ :=
    List.eq_append_cons_of_mem (List.mem_reverse.mpr member)
  have split : names = before.reverse ++ name :: after.reverse := by
    simpa using congrArg List.reverse reversed
  refine ⟨before.reverse.length, by simp [split], ?_⟩
  intro later behind again
  obtain ⟨offset, rfl⟩ := Nat.exists_eq_add_of_lt behind
  have inside : after.reverse[offset]? = some name := by
    rw [split, List.getElem?_append_right (by omega)] at again
    simpa [Nat.add_assoc] using again
  exact absent (List.mem_reverse.mp (List.mem_of_getElem? inside))

theorem exists_last (paired : declaration.names.length = declaration.types.length)
    (member : name ∈ declaration.names) : ∃ token, declaration.Last name token := by
  obtain ⟨position, named, final⟩ := exists_last_position member
  obtain ⟨inside, _⟩ := List.getElem?_eq_some_iff.mp named
  exact ⟨declaration.types[position], position, named, List.getElem?_eq_getElem (by omega), final⟩

/-- The results of a declaration, by what is wrong with it. -/
inductive Yields (declaration : Declaration) : Except DeclarationFault Table → Prop where
  | mismatched : declaration.names.length ≠ declaration.types.length →
      Yields declaration
        (.error (.lengthMismatch declaration.names.length declaration.types.length))
  | unknown {token : String} : declaration.names.length = declaration.types.length →
      First Known declaration.types token → Yields declaration (.error (.unknownType token))
  | table {table : Table} (paired : declaration.names.length = declaration.types.length)
      (known : ∀ token ∈ declaration.types, Known token)
      (domain : ∀ name, (∃ type, table.get? name = some type) ↔ name ∈ declaration.names)
      (last : ∀ name token, declaration.Last name token →
        ∃ type : ValueType, type.name = token ∧ table.get? name = some type) :
      Yields declaration (.ok table)

theorem Resolves.get?_of_last (resolves : declaration.Resolves table)
    (last : declaration.Last name token) :
    ∃ type : ValueType, type.name = token ∧ table.get? name = some type := by
  obtain ⟨type, named, found⟩ := resolves.last name token last
  exact ⟨type, ValueType.name_of_ofName? named, found⟩

theorem Resolves.exists_get?_iff (resolves : declaration.Resolves table) :
    (∃ type, table.get? name = some type) ↔ name ∈ declaration.names := by
  constructor
  · rintro ⟨type, found⟩
    apply Decidable.byContradiction
    intro absent
    simp [resolves.absent name absent] at found
  · intro member
    obtain ⟨token, last⟩ := exists_last resolves.paired member
    obtain ⟨type, _, found⟩ := resolves.get?_of_last last
    exact ⟨type, found⟩

theorem yields_resolve (declaration : Declaration) : declaration.Yields declaration.resolve := by
  by_cases paired : declaration.names.length = declaration.types.length
  · have decides := decides_resolve paired
    cases resolved : declaration.resolve with
    | error fault =>
      obtain ⟨token, found, rfl⟩ := decides.exists_first resolved
      exact .unknown paired found
    | ok table =>
      have resolves := resolves_of_resolve resolved
      exact .table paired (decides.passes_of_ok resolved) (fun _ => resolves.exists_get?_iff)
        fun _ _ => resolves.get?_of_last
  · rw [resolve, if_neg paired]
    exact .mismatched paired

theorem Yields.get?_eq_some {type : ValueType} (yields : declaration.Yields (.ok table))
    (others : declaration.Yields (.ok other)) (found : table.get? name = some type) :
    other.get? name = some type := by
  cases yields with
  | table paired _ domain last =>
    cases others with
    | table _ _ _ final =>
      obtain ⟨token, here⟩ := exists_last paired ((domain name).mp ⟨type, found⟩)
      obtain ⟨first, named, holds⟩ := last name token here
      obtain ⟨second, called, held⟩ := final name token here
      have same := ValueType.name_injective (named.trans called.symm)
      rw [held, ← same, ← holds, found]

/-- The declared names and the types at their last positions make up one table only. -/
theorem Yields.table_eq (yields : declaration.Yields (.ok table))
    (others : declaration.Yields (.ok other)) : table = other := by
  apply Table.ext
  intro name
  apply Option.ext
  intro type
  exact ⟨yields.get?_eq_some others, others.get?_eq_some yields⟩

/-- A declaration fails with both lengths if they differ, else with the first type name that no type
has, and else comes to the table of the declared names in which each has the type that stands at its
last position. -/
theorem resolve_eq_iff (declaration : Declaration) (result : Except DeclarationFault Table) :
    declaration.resolve = result ↔ declaration.Yields result := by
  constructor
  · rintro rfl
    exact yields_resolve declaration
  · intro yields
    cases yields with
    | mismatched differs => rw [resolve, if_neg differs]
    | unknown paired first => exact resolve_of_unknown paired first
    | @table table paired known domain last =>
      obtain ⟨other, resolved⟩ := (decides_resolve paired).exists_ok_iff.mpr known
      have others := resolved ▸ yields_resolve declaration
      rw [resolved, others.table_eq (.table paired known domain last)]

end Declaration

end WorkflowLaunch.Attribute
