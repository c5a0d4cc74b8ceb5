import Mathlib.Data.List.Basic
import WorkflowLaunch.Proofs.Attribute.Tables
import WorkflowLaunch.Server.Settings

set_option autoImplicit false

/-!
What directives are folded into. A setting depends on the directives of its own field alone. The
last of them counts, but namespaces are put one behind the other and attributes are merged name by
name, so that only the order among the directives of one field matters.
-/

namespace WorkflowLaunch

open Attribute (ValueType)

/-- What a directive touches. The two directives on storage touch the same. -/
inductive Field where
  | port
  | ip
  | storage
  | namespaces
  | attributes
  | logger
  | interrupt
  deriving DecidableEq

namespace Directive

def field : Directive → Field
  | port _ => .port
  | ip _ => .ip
  | databaseFile _ | persistenceDisabled => .storage
  | namespaces _ => .namespaces
  | attributes _ => .attributes
  | logger _ => .logger
  | interrupt _ => .interrupt

@[simp] def port? : Directive → Option UInt16
  | port number => some number
  | _ => none

@[simp] def ip? : Directive → Option String
  | ip text => some text
  | _ => none

@[simp] def storage? : Directive → Option Storage
  | databaseFile path => some (.file path)
  | persistenceDisabled => some .memory
  | _ => none

@[simp] def namespaces? : Directive → Option (List String)
  | namespaces names => some names
  | _ => none

/-- The type that a directive gives to a name. -/
@[simp] def type? (name : String) : Directive → Option ValueType
  | attributes table => table.get? name
  | _ => none

@[simp] def logger? : Directive → Option Log.Logger
  | logger made => some made
  | _ => none

@[simp] def interrupt? : Directive → Option Hook
  | interrupt hook => some hook
  | _ => none

end Directive

variable {α : Type} {value? : Directive → Option α} {directives others : List Directive}
  {standard : Standard} {settings other : Settings}

/-- The last value that some directives give. -/
def last? (value? : Directive → Option α) (directives : List Directive) : Option α :=
  (directives.filterMap value?).getLast?

/-- Settings that some directives lead to from the standard ones. -/
structure Folds (standard : Standard) (directives : List Directive) (settings : Settings) :
    Prop where
  port : settings.port = (last? Directive.port? directives).getD standard.port
  ip : settings.ip = (last? Directive.ip? directives).getD standard.ip
  storage : settings.storage =
    (last? Directive.storage? directives).getD (.file standard.databaseFile)
  namespaces : settings.namespaces = (directives.filterMap Directive.namespaces?).flatten
  attributes : ∀ name, settings.attributes.get? name = last? (Directive.type? name) directives
  logger : settings.logger = last? Directive.logger? directives
  interrupt : settings.interrupt = last? Directive.interrupt? directives

theorem last?_cons (value? : Directive → Option α) (directive : Directive)
    (rest : List Directive) :
    last? value? (directive :: rest) = (last? value? rest).or (value? directive) := by
  cases given : value? directive with
  | none => simp [last?, given]
  | some value =>
    simp only [last?, List.filterMap_cons, given, List.getLast?_cons, Option.or_some]

/-- What every directive overwrites that gives a value for it, and no other touches. -/
theorem overwritten (value? : Directive → Option α) (held : Settings → Option α)
    (overwrites : ∀ settings directive,
      held (settings.apply directive) = (value? directive).or (held settings))
    (directives : List Directive) (settings : Settings) :
    held (directives.foldl Settings.apply settings) =
      (last? value? directives).or (held settings) := by
  induction directives generalizing settings with
  | nil => rfl
  | cons directive rest ih =>
    rw [List.foldl_cons, ih, overwrites, last?_cons, Option.or_assoc]

theorem appended (directives : List Directive) (settings : Settings) :
    (directives.foldl Settings.apply settings).namespaces =
      settings.namespaces ++ (directives.filterMap Directive.namespaces?).flatten := by
  induction directives generalizing settings with
  | nil => simp
  | cons directive rest ih =>
    rw [List.foldl_cons, ih]
    cases directive <;> simp [Settings.apply, List.filterMap_cons]

theorem folds_foldl (standard : Standard) (directives : List Directive) :
    Folds standard directives (directives.foldl Settings.apply (.standard standard)) := by
  constructor
  · have port := overwritten Directive.port? (fun settings => some settings.port)
      (by rintro _ (_ | _) <;> rfl) directives (.standard standard)
    simpa [Settings.standard] using port
  · have ip := overwritten Directive.ip? (fun settings => some settings.ip)
      (by rintro _ (_ | _) <;> rfl) directives (.standard standard)
    simpa [Settings.standard] using ip
  · have storage := overwritten Directive.storage?
      (fun settings => some settings.storage) (by rintro _ (_ | _) <;> rfl) directives
      (.standard standard)
    simpa [Settings.standard] using storage
  · exact appended directives (.standard standard)
  · intro name
    have type := overwritten (Directive.type? name)
      (fun settings => settings.attributes.get? name) ?_ directives (.standard standard)
    · simpa [Settings.standard] using type
    · rintro settings (_ | _)
      case attributes table => exact settings.attributes.get?_insertAll table.sorted name
      all_goals rfl
  · have logger := overwritten Directive.logger? Settings.logger
      (by rintro _ (_ | _) <;> rfl) directives (.standard standard)
    simpa [Settings.standard] using logger
  · have interrupt := overwritten Directive.interrupt? Settings.interrupt
      (by rintro _ (_ | _) <;> rfl) directives (.standard standard)
    simpa [Settings.standard] using interrupt

/-- Directives lead to one settings only. -/
theorem Folds.eq (folds : Folds standard directives settings)
    (again : Folds standard directives other) : settings = other := by
  have attributes : settings.attributes = other.attributes := by
    apply Attribute.Table.ext
    intro name
    rw [folds.attributes, again.attributes]
  obtain ⟨port, ip, storage, namespaces, _, logger, interrupt⟩ := folds
  obtain ⟨port', ip', storage', namespaces', _, logger', interrupt'⟩ := again
  obtain ⟨_, _, _, _, _, _, _⟩ := settings
  obtain ⟨_, _, _, _, _, _, _⟩ := other
  simp_all

/-- Directives in another order, those of one field in the order that they had. -/
def Rearranged (directives others : List Directive) : Prop :=
  ∀ field, directives.filter (·.field = field) = others.filter (·.field = field)

/-- The values for one field do not depend on the directives of others. -/
theorem Rearranged.filterMap_eq (rearranged : Rearranged directives others) (field : Field)
    (own : ∀ directive, value? directive ≠ none → directive.field = field) :
    directives.filterMap value? = others.filterMap value? := by
  have restricted (directives : List Directive) :
      (directives.filter (·.field = field)).filterMap value? = directives.filterMap value? := by
    rw [List.filterMap_filter]
    apply List.filterMap_congr
    intro directive _
    by_cases touches : directive.field = field
    · simp [touches]
    · have none : value? directive = none := Not.imp_symm (own directive) touches
      simp [touches, none]
  rw [← restricted, rearranged, restricted]

theorem Rearranged.last?_eq (rearranged : Rearranged directives others) (field : Field)
    (own : ∀ directive, value? directive ≠ none → directive.field = field) :
    last? value? directives = last? value? others := by
  rw [last?, rearranged.filterMap_eq field own, last?]

theorem Rearranged.folds (rearranged : Rearranged directives others)
    (folds : Folds standard directives settings) : Folds standard others settings := by
  constructor
  · rw [folds.port, rearranged.last?_eq .port]
    rintro (_ | _) <;> simp [Directive.field]
  · rw [folds.ip, rearranged.last?_eq .ip]
    rintro (_ | _) <;> simp [Directive.field]
  · rw [folds.storage, rearranged.last?_eq .storage]
    rintro (_ | _) <;> simp [Directive.field]
  · rw [folds.namespaces, rearranged.filterMap_eq .namespaces]
    rintro (_ | _) <;> simp [Directive.field]
  · intro name
    rw [folds.attributes, rearranged.last?_eq .attributes]
    rintro (_ | _) <;> simp [Directive.field]
  · rw [folds.logger, rearranged.last?_eq .logger]
    rintro (_ | _) <;> simp [Directive.field]
  · rw [folds.interrupt, rearranged.last?_eq .interrupt]
    rintro (_ | _) <;> simp [Directive.field]

namespace DirectiveSet

theorem push_all (collected pushed : List Directive) :
    pushed.foldl push (ofList collected) = ofList (collected ++ pushed) := by
  induction pushed generalizing collected with
  | nil => simp
  | cons directive rest ih =>
    rw [List.foldl_cons]
    simpa [push, ofList] using ih (collected ++ [directive])

/-- Whether directives are pushed or collected, each setting comes from those of its own field, and
directives may change places with those of other fields. -/
theorem settings_by_field (standard : Standard) (directives : List Directive) :
    (∀ collected pushed, collected ++ pushed = directives →
      pushed.foldl push (ofList collected) = ofList directives) ∧
    Folds standard directives ((ofList directives).settings (.standard standard)) ∧
    ∀ others, Rearranged directives others →
      (ofList others).settings (.standard standard) =
        (ofList directives).settings (.standard standard) := by
  have folds := folds_foldl standard directives
  refine ⟨?_, folds, ?_⟩
  · rintro collected pushed rfl
    exact push_all collected pushed
  · intro others rearranged
    exact (folds_foldl standard others).eq (rearranged.folds folds)

/-- Namespaces move in front of the directives on storage, whose order decides. -/
theorem settings_by_field_moved :
    let standard : Standard := ⟨false, .ofString "home.db", 7233, "127.0.0.1", "json"⟩
    let directives : List Directive :=
      [.persistenceDisabled, .namespaces ["a"], .databaseFile (.ofString "a.db"),
        .namespaces ["b", "a"]]
    let others : List Directive :=
      [.namespaces ["a"], .namespaces ["b", "a"], .persistenceDisabled,
        .databaseFile (.ofString "a.db")]
    Rearranged directives others ∧
      (directives.foldl push empty).settings (.standard standard) =
        ⟨7233, "127.0.0.1", .file (.ofString "a.db"), ["a", "b", "a"], ∅, none, none⟩ ∧
      (ofList others).settings (.standard standard) =
        (directives.foldl push empty).settings (.standard standard) := by
  intro standard directives others
  have rearranged : Rearranged directives others := by
    rintro (_ | _) <;> decide
  obtain ⟨pushed, _, moved⟩ := settings_by_field standard directives
  have built : directives.foldl push empty = ofList directives := pushed [] directives rfl
  refine ⟨rearranged, by decide, ?_⟩
  rw [built, moved others rearranged]

end DirectiveSet

end WorkflowLaunch
