import WorkflowLaunch.Proofs.Catalog.Merging
import WorkflowLaunch.Server.Basic

set_option autoImplicit false

/-!
Entering the settings of a server into its catalog. Entering stops at a conflict and undoes
nothing, but whatever it leaves has the same merge with the settings as what it began with.
-/

namespace WorkflowLaunch.Server

open Attribute (Entry Table ValueType)
open Catalog (mergeNames)

theorem enterNamespaces_eq (catalog : Catalog) (names : List String) :
    (enterNamespaces catalog names).1 =
      { catalog with namespaces := mergeNames catalog.namespaces names } := by
  induction names generalizing catalog with
  | nil => rfl
  | cons name rest ih =>
    simp only [enterNamespaces, mergeNames, Catalog.createNamespace]
    split
    · exact ih catalog
    · exact ih _

/-- What entries do to a catalog into which they are entered, up to the first conflict. -/
structure Entered (before : Catalog) (entries : List Entry)
    (result : Except AttributeConflict Unit) (after : Catalog) : Prop where
  namespaces : after.namespaces = before.namespaces
  attributes : ∀ name, after.attributes.get? name = before.attributes.get? name ∨
    before.attributes.get? name = none ∧
      ∃ type, (name, type) ∈ entries ∧ after.attributes.get? name = some type
  complete : result = .ok () → ∀ entry ∈ entries, after.attributes.get? entry.1 = some entry.2
  conflict : ∀ details, result = .error details →
    (details.name, details.requested) ∈ entries ∧
      after.attributes.get? details.name = some details.held ∧ details.held ≠ details.requested

theorem Entered.keeps {before after : Catalog} {entries : List Entry}
    {result : Except AttributeConflict Unit} (entered : Entered before entries result after)
    {name : String} {type : ValueType} (held : before.attributes.get? name = some type) :
    after.attributes.get? name = some type := by
  rcases entered.attributes name with same | ⟨absent, _⟩
  · rw [same, held]
  · rw [absent] at held
    simp at held

theorem Entered.refl (catalog : Catalog) : Entered catalog [] (.ok ()) catalog :=
  ⟨rfl, fun _ => .inl rfl, by simp, by simp⟩

/-- An entry that a catalog has, by now at the latest, in front of others. -/
theorem Entered.cons {before middle after : Catalog} {entry : Entry} {rest : List Entry}
    {result : Except AttributeConflict Unit} (entered : Entered middle rest result after)
    (namespaces : middle.namespaces = before.namespaces)
    (attributes : ∀ name, middle.attributes.get? name = before.attributes.get? name ∨
      before.attributes.get? name = none ∧ name = entry.1)
    (present : middle.attributes.get? entry.1 = some entry.2) :
    Entered before (entry :: rest) result after where
  namespaces := entered.namespaces.trans namespaces
  attributes := by
    intro name
    rcases attributes name with same | ⟨absent, rfl⟩
    · rw [← same]
      apply (entered.attributes name).imp_right
      rintro ⟨absent, type, member, held⟩
      exact ⟨absent, type, List.mem_cons_of_mem _ member, held⟩
    · exact .inr ⟨absent, entry.2, List.mem_cons_self, entered.keeps present⟩
  complete := by
    intro done other member
    rcases List.mem_cons.mp member with rfl | later
    · exact entered.keeps present
    · exact entered.complete done other later
  conflict := by
    intro details failed
    obtain ⟨member, held⟩ := entered.conflict details failed
    exact ⟨List.mem_cons_of_mem _ member, held⟩

/-- How entering ends: all entries are in the catalog, or those in front of the one that it stops
at. -/
inductive Proceeds (before : Catalog) :
    List Entry → Except AttributeConflict Unit → Catalog → Prop where
  | whole {entries : List Entry} {after : Catalog} : Entered before entries (.ok ()) after →
      Proceeds before entries (.ok ()) after
  | stopped {front rest : List Entry} {after : Catalog} {details : AttributeConflict} :
      Entered before front (.ok ()) after →
      after.attributes.get? details.name = some details.held → details.held ≠ details.requested →
      Proceeds before (front ++ (details.name, details.requested) :: rest) (.error details) after

theorem Proceeds.cons {before middle after : Catalog} {entry : Entry} {rest : List Entry}
    {result : Except AttributeConflict Unit} (proceeds : Proceeds middle rest result after)
    (namespaces : middle.namespaces = before.namespaces)
    (attributes : ∀ name, middle.attributes.get? name = before.attributes.get? name ∨
      before.attributes.get? name = none ∧ name = entry.1)
    (present : middle.attributes.get? entry.1 = some entry.2) :
    Proceeds before (entry :: rest) result after := by
  cases proceeds with
  | whole entered => exact .whole (entered.cons namespaces attributes present)
  | stopped entered held different =>
    exact .stopped (entered.cons namespaces attributes present) held different

theorem proceeds_enterAttributes (catalog : Catalog) (entries : List Entry) :
    Proceeds catalog entries (enterAttributes catalog entries).1
      (enterAttributes catalog entries).2.1 := by
  induction entries generalizing catalog with
  | nil => exact .whole (.refl catalog)
  | cons entry rest ih =>
    obtain ⟨name, type⟩ := entry
    simp only [enterAttributes, Catalog.register]
    cases found : catalog.attributes.get? name with
    | none =>
      simp only
      have inner := ih { catalog with attributes := catalog.attributes.insert name type }
      refine inner.cons rfl ?_ (by simp)
      intro other
      by_cases same : name = other
      · subst same
        exact .inr ⟨found, rfl⟩
      · exact .inl (by rw [Table.get?_insert, if_neg same])
    | some held =>
      by_cases same : held = type
      · subst same
        simp only [if_true]
        exact (ih catalog).cons rfl (fun _ => .inl rfl) found
      · simp only [if_neg same]
        let details : AttributeConflict := ⟨name, held, type⟩
        have here : catalog.attributes.get? details.name = some details.held := found
        exact .stopped (.refl catalog) here same

theorem Proceeds.entered {before after : Catalog} {entries : List Entry}
    {result : Except AttributeConflict Unit} (proceeds : Proceeds before entries result after) :
    Entered before entries result after := by
  cases proceeds with
  | whole entered => exact entered
  | @stopped front rest _ details entered held different =>
    refine ⟨entered.namespaces, ?_, by simp, ?_⟩
    · intro name
      apply (entered.attributes name).imp_right
      rintro ⟨absent, type, member, found⟩
      exact ⟨absent, type, List.mem_append_left _ member, found⟩
    · rintro other same
      obtain rfl := Except.error.inj same
      exact ⟨by simp, held, different⟩

theorem entered_enterAttributes (catalog : Catalog) (entries : List Entry) :
    Entered catalog entries (enterAttributes catalog entries).1
      (enterAttributes catalog entries).2.1 :=
  (proceeds_enterAttributes catalog entries).entered

/-- Entries that are all in the catalog have changed it where nothing was held. -/
theorem Entered.get?_eq {before after : Catalog} {entries : List Entry}
    (entered : Entered before entries (.ok ()) after) (sorted : Attribute.Sorted entries)
    (name : String) : after.attributes.get? name =
      (before.attributes.get? name).or (Attribute.find? name entries) := by
  cases found : Attribute.find? name entries with
  | none =>
    rw [Option.or_none]
    rcases entered.attributes name with same | ⟨_, type, member, _⟩
    · exact same
    · rw [Attribute.find?_eq_some_of_mem sorted member] at found
      simp at found
  | some type =>
    have whole := entered.complete rfl (name, type) (Attribute.mem_of_find?_eq_some found)
    cases held : before.attributes.get? name with
    | none => exact whole
    | some type' => rw [entered.keeps held, Option.some_or]

/-- Entries that are all in the catalog have the types that it held before. -/
theorem Entered.agrees {before after : Catalog} {entries : List Entry}
    (entered : Entered before entries (.ok ()) after) {name : String} {type held : ValueType}
    (requested : Attribute.find? name entries = some type)
    (found : before.attributes.get? name = some held) : held = type := by
  have whole := entered.complete rfl (name, type) (Attribute.mem_of_find?_eq_some requested)
  rw [entered.keeps found] at whole
  exact Option.some.inj whole

/-- The names and attributes of settings entered into a catalog, and whether that succeeds. -/
def enter (settings : Settings) (catalog : Catalog) : Except AttributeConflict Unit × Catalog :=
  let (result, catalog, _) :=
    enterAttributes (enterNamespaces catalog settings.namespaces).1 settings.attributes.entries
  (result, catalog)

/-- A catalog with everything in some settings that it does not hold yet. -/
def merged (settings : Settings) (catalog : Catalog) : Catalog :=
  catalog.merge settings.namespaces settings.attributes

/-- Whether every attribute in some settings can have its type in a merged catalog. -/
def Grants (settings : Settings) (catalog : Catalog) : Prop :=
  ∀ name type, settings.attributes.get? name = some type →
    catalog.attributes.get? name = some type

/-- An attribute that some settings ask for and that a catalog holds with another type. -/
structure Clash (settings : Settings) (catalog : Catalog) (details : AttributeConflict) : Prop where
  requested : settings.attributes.get? details.name = some details.requested
  held : catalog.attributes.get? details.name = some details.held
  different : details.held ≠ details.requested

/-- The types that some settings ask for, for the names below another one. -/
def typesBelow (settings : Settings) (limit name : String) : Option ValueType :=
  if name < limit then settings.attributes.get? name else none

/-- How entering some settings ends: with all of them, if the catalog agrees with their types, or at
the least name that it does not agree on. -/
inductive Enters (settings : Settings) (before : Catalog) :
    Except AttributeConflict Unit → Catalog → Prop where
  | granted {after : Catalog} : (∀ details, ¬Clash settings before details) →
      before.Gains settings.namespaces settings.attributes.get? after →
      Enters settings before (.ok ()) after
  | clashed {after : Catalog} {details : AttributeConflict} : Clash settings before details →
      (∀ other, Clash settings before other → details.name ≤ other.name) →
      before.Gains settings.namespaces (typesBelow settings details.name) after →
      Enters settings before (.error details) after

/-- However entering ends, all names are in the catalog by then. -/
theorem Enters.gains {settings : Settings} {before after : Catalog}
    {result : Except AttributeConflict Unit} (enters : Enters settings before result after) :
    ∃ types, before.Gains settings.namespaces types after := by
  cases enters with
  | granted _ gains => exact ⟨_, gains⟩
  | clashed _ _ gains => exact ⟨_, gains⟩

theorem Proceeds.enters {settings : Settings} {catalog after : Catalog}
    {result : Except AttributeConflict Unit}
    (proceeds : Proceeds (enterNamespaces catalog settings.namespaces).1
      settings.attributes.entries result after) : Enters settings catalog result after := by
  have sorted := settings.attributes.sorted
  have types : ∀ name, settings.attributes.get? name =
      Attribute.find? name settings.attributes.entries := fun _ => rfl
  have names := Catalog.mergeNames_eq catalog.namespaces settings.namespaces
  rw [enterNamespaces_eq] at proceeds
  generalize settings.attributes.entries = entries at proceeds sorted types
  cases proceeds with
  | whole entered =>
    refine .granted ?_ ⟨entered.namespaces.trans names, ?_⟩
    · rintro details ⟨requested, held, different⟩
      rw [types] at requested
      exact different (entered.agrees requested held)
    · intro name
      rw [entered.get?_eq sorted, types]
  | @stopped front rest _ details entered held different =>
    have below : ∀ name, after.attributes.get? name =
        (catalog.attributes.get? name).or (typesBelow settings details.name name) := by
      intro name
      rw [entered.get?_eq (List.pairwise_append.mp sorted).1, Attribute.find?_front sorted,
        typesBelow, types]
    refine .clashed ⟨?_, ?_, different⟩ ?_ ⟨entered.namespaces.trans names, below⟩
    · rw [types]
      exact Attribute.find?_eq_some_of_mem sorted (by simp)
    · rw [← held, below, typesBelow, if_neg (String.lt_irrefl _), Option.or_none]
    · rintro other ⟨requested, found, disagreed⟩
      apply String.not_lt.mp
      intro lower
      have passed : Attribute.find? other.name front = some other.requested := by
        rw [Attribute.find?_front sorted, if_pos lower, ← types, requested]
      exact disagreed (entered.agrees passed found)

variable (settings : Settings) (catalog : Catalog)

theorem enters_enter :
    Enters settings catalog (enter settings catalog).1 (enter settings catalog).2 :=
  (proceeds_enterAttributes _ _).enters

theorem entered_enter : Entered (enterNamespaces catalog settings.namespaces).1
    settings.attributes.entries (enter settings catalog).1 (enter settings catalog).2 :=
  entered_enterAttributes _ _

theorem namespaces_enter :
    (enter settings catalog).2.namespaces = (merged settings catalog).namespaces := by
  obtain ⟨_, gains⟩ := (enters_enter settings catalog).gains
  exact gains.mergeNames_eq

theorem attributes_enter (name : String) :
    (enter settings catalog).2.attributes.get? name = catalog.attributes.get? name ∨
      catalog.attributes.get? name = none ∧
        (enter settings catalog).2.attributes.get? name = settings.attributes.get? name := by
  have entered := (entered_enter settings catalog).attributes name
  rw [enterNamespaces_eq] at entered
  apply entered.imp_right
  rintro ⟨absent, type, member, held⟩
  refine ⟨absent, ?_⟩
  rw [held]
  exact (Attribute.find?_eq_some_of_mem settings.attributes.sorted member).symm

/-- However far entering came, nothing is missing from the merge and nothing foreign is in it. -/
theorem merged_enter : merged settings (enter settings catalog).2 = merged settings catalog := by
  apply Catalog.merge_eq
  · rw [merged, Catalog.merge, namespaces_enter]
    exact Catalog.mergeNames_mergeNames _ _
  · intro name
    rw [merged, Catalog.get?_merge]
    rcases attributes_enter settings catalog name with same | ⟨absent, new⟩
    · rw [same]
    · rw [absent, new, Option.none_or]
      cases settings.attributes.get? name <;> rfl

theorem enter_eq_ok_iff :
    (enter settings catalog).1 = .ok () ↔ Grants settings (merged settings catalog) := by
  have entered := entered_enter settings catalog
  constructor
  · intro done name type requested
    have held := entered.complete done (name, type) (Attribute.mem_of_find?_eq_some requested)
    rw [merged, Catalog.get?_merge, requested]
    rcases attributes_enter settings catalog name with same | ⟨absent, _⟩
    · rw [← same, held, Option.some_or]
    · rw [absent, Option.none_or]
  · intro grants
    cases result : (enter settings catalog).1 with
    | ok => rfl
    | error details =>
      obtain ⟨member, held, different⟩ := entered.conflict details result
      have requested : settings.attributes.get? details.name = some details.requested :=
        Attribute.find?_eq_some_of_mem settings.attributes.sorted member
      have granted := grants _ _ requested
      rw [merged, Catalog.get?_merge, requested] at granted
      refine absurd ?_ different
      rcases attributes_enter settings catalog details.name with same | ⟨_, new⟩
      · rw [← same, held, Option.some_or] at granted
        exact Option.some.inj granted
      · rw [held, requested] at new
        exact Option.some.inj new

theorem enter_of_ok (done : (enter settings catalog).1 = .ok ()) :
    (enter settings catalog).2 = merged settings catalog := by
  have enters := enters_enter settings catalog
  rw [done] at enters
  cases enters with
  | granted _ gains => exact Catalog.merge_eq gains.mergeNames_eq gains.attributes

end WorkflowLaunch.Server
