import WorkflowLaunch.Catalog.Basic
import WorkflowLaunch.Proofs.Attribute.Tables

set_option autoImplicit false

/-!
Merging names and attributes into a catalog. What the catalog holds stays as it is; a second merge
of the same names and attributes adds nothing.
-/

namespace WorkflowLaunch.Catalog

open Attribute (Table ValueType)

/-- Names put at the end one after the other, those that are already present being skipped. -/
def mergeNames (held : List String) : List String → List String
  | [] => held
  | name :: rest => mergeNames (if name ∈ held then held else held ++ [name]) rest

/-- A catalog with further names, and with those attributes whose names it does not hold yet. -/
def merge (catalog : Catalog) (names : List String) (table : Table) : Catalog :=
  ⟨mergeNames catalog.namespaces names, table.insertAll catalog.attributes.entries⟩

theorem prefix_mergeNames (held names : List String) : held <+: mergeNames held names := by
  induction names generalizing held with
  | nil => exact List.prefix_refl held
  | cons name rest ih =>
    apply List.IsPrefix.trans ?_ (ih _)
    split
    · exact List.prefix_refl held
    · exact List.prefix_append held [name]

theorem mem_mergeNames {held names : List String} {name : String} (member : name ∈ names) :
    name ∈ mergeNames held names := by
  induction names generalizing held with
  | nil => simp at member
  | cons first rest ih =>
    rcases List.mem_cons.mp member with rfl | later
    · apply (prefix_mergeNames _ rest).subset
      split
      · assumption
      · simp
    · exact ih later

theorem mergeNames_of_subset {held names : List String} (subset : names ⊆ held) :
    mergeNames held names = held := by
  induction names with
  | nil => rfl
  | cons name rest ih =>
    obtain ⟨present, others⟩ := List.cons_subset.mp subset
    rw [mergeNames, if_pos present, ih others]

theorem mergeNames_mergeNames (held names : List String) :
    mergeNames (mergeNames held names) names = mergeNames held names := by
  apply mergeNames_of_subset
  intro name member
  exact mem_mergeNames member

theorem mergeNames_append (held names others : List String) :
    mergeNames held (names ++ others) = mergeNames (mergeNames held names) others := by
  induction names generalizing held with
  | nil => rfl
  | cons name rest ih => exact ih _

/-- Behind the names that were present stand the new ones, each where it came first. -/
theorem mergeNames_eq (held names : List String) :
    mergeNames held names = held ++ (names.filter (· ∉ held)).eraseDups := by
  induction names generalizing held with
  | nil => simp [mergeNames]
  | cons name rest ih =>
    rw [mergeNames, ih]
    split
    · next present => simp [present]
    · next absent =>
      have others : rest.filter (· ∉ held ++ [name]) =
          (rest.filter (· ∉ held)).filter (fun other => !other == name) := by
        rw [List.filter_filter]
        apply List.filter_congr
        intro other _
        by_cases same : other = name <;> simp [same]
      rw [others, List.filter_cons_of_pos (by simpa using absent), List.eraseDups_cons,
        List.append_assoc, List.singleton_append]

theorem nodup_mergeNames {held : List String} (distinct : held.Nodup) (names : List String) :
    (mergeNames held names).Nodup := by
  induction names generalizing held with
  | nil => exact distinct
  | cons name rest ih =>
    apply ih
    split
    · exact distinct
    · next absent =>
      apply List.nodup_append.mpr
      refine ⟨distinct, by simp, ?_⟩
      intro other member same alone
      obtain rfl := List.mem_singleton.mp alone
      rintro rfl
      exact absent member

@[simp] theorem get?_merge (catalog : Catalog) (names : List String) (table : Table)
    (name : String) :
    (catalog.merge names table).attributes.get? name =
      (catalog.attributes.get? name).or (table.get? name) :=
  table.get?_insertAll catalog.attributes.sorted name

theorem merge_eq {catalog other : Catalog} {names : List String} {table : Table}
    (namespaces : other.namespaces = mergeNames catalog.namespaces names)
    (attributes : ∀ name, other.attributes.get? name =
      (catalog.attributes.get? name).or (table.get? name)) :
    other = catalog.merge names table := by
  have tables : other.attributes = (catalog.merge names table).attributes := by
    apply Table.ext
    intro name
    rw [attributes, get?_merge]
  cases other
  simp_all [merge]

theorem merge_merge (catalog : Catalog) (names : List String) (table : Table) :
    (catalog.merge names table).merge names table = catalog.merge names table := by
  apply Eq.symm
  apply merge_eq
  · exact (mergeNames_mergeNames catalog.namespaces names).symm
  · intro name
    cases held : catalog.attributes.get? name <;> simp [held]

/-- A catalog that has lost nothing of an earlier one: no namespace and no attribute's type, and the
namespaces stand in the same order. -/
structure Extends (earlier later : Catalog) : Prop where
  namespaces : earlier.namespaces <+: later.namespaces
  attributes : ∀ name type, earlier.attributes.get? name = some type →
    later.attributes.get? name = some type

theorem Extends.refl (catalog : Catalog) : Extends catalog catalog :=
  ⟨List.prefix_refl _, fun _ _ held => held⟩

theorem Extends.trans {first second third : Catalog} (earlier : Extends first second)
    (later : Extends second third) : Extends first third := by
  constructor
  · exact earlier.namespaces.trans later.namespaces
  · intro name type held
    apply later.attributes
    exact earlier.attributes name type held

/-- A catalog with further names, each once and where it came first, and with further attributes
where none of their name was held. -/
structure Gains (before : Catalog) (names : List String) (types : String → Option ValueType)
    (after : Catalog) : Prop where
  namespaces : after.namespaces =
    before.namespaces ++ (names.filter (· ∉ before.namespaces)).eraseDups
  attributes : ∀ name, after.attributes.get? name = (before.attributes.get? name).or (types name)

theorem gains_merge (catalog : Catalog) (names : List String) (table : Table) :
    Gains catalog names table.get? (catalog.merge names table) :=
  ⟨mergeNames_eq catalog.namespaces names, get?_merge catalog names table⟩

section Gains

variable {first second third : Catalog} {names others : List String}
  {types more : String → Option ValueType}

theorem Gains.refl (catalog : Catalog) : Gains catalog [] (fun _ => none) catalog := by
  constructor <;> simp

theorem Gains.mergeNames_eq (gains : Gains first names types second) :
    second.namespaces = mergeNames first.namespaces names := by
  rw [gains.namespaces, Catalog.mergeNames_eq]

theorem Gains.trans (earlier : Gains first names types second)
    (later : Gains second others more third) :
    Gains first (names ++ others) (fun name => (types name).or (more name)) third := by
  constructor
  · rw [later.mergeNames_eq, earlier.mergeNames_eq, ← mergeNames_append, Catalog.mergeNames_eq]
  · intro name
    rw [later.attributes, earlier.attributes, Option.or_assoc]

theorem Gains.extends (gains : Gains first names types second) : Extends first second := by
  constructor
  · rw [gains.mergeNames_eq]
    exact prefix_mergeNames _ _
  · intro name type held
    rw [gains.attributes, held, Option.some_or]

theorem Gains.mem_namespaces (gains : Gains first names types second) {name : String} :
    name ∈ second.namespaces ↔ name ∈ first.namespaces ∨ name ∈ names := by
  rw [gains.namespaces, List.mem_append, List.mem_eraseDups, List.mem_filter]
  by_cases held : name ∈ first.namespaces <;> simp [held]

theorem Gains.nodup (gains : Gains first names types second) (distinct : first.namespaces.Nodup) :
    second.namespaces.Nodup := by
  rw [gains.mergeNames_eq]
  exact nodup_mergeNames distinct names

end Gains

theorem extends_merge (catalog : Catalog) (names : List String) (table : Table) :
    Extends catalog (catalog.merge names table) :=
  (gains_merge catalog names table).extends

/-- Something that a catalog can hold. -/
inductive Item where
  | name (name : String)
  | entry (name : String) (type : ValueType)

def Has (catalog : Catalog) : Item → Prop
  | .name name => name ∈ catalog.namespaces
  | .entry name type => catalog.attributes.get? name = some type

theorem Extends.has {earlier later : Catalog} (longer : Extends earlier later) {item : Item}
    (held : earlier.Has item) : later.Has item := by
  cases item with
  | name name => exact longer.namespaces.subset held
  | entry name type => exact longer.attributes name type held

end WorkflowLaunch.Catalog
