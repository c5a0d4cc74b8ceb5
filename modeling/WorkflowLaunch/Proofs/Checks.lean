set_option autoImplicit false

/-!
Checks that are made one after the other until one fails. Whatever carries them out, its result is
the fault of the first check that does not pass, or a value if there is none.
-/

namespace WorkflowLaunch

theorem mapError_eq_ok {ε ε' α : Type} {outcome : Except ε α} {wrap : ε → ε'} {value : α} :
    outcome.mapError wrap = .ok value ↔ outcome = .ok value := by
  cases outcome with
  | error fault => exact ⟨nofun, nofun⟩
  | ok found =>
    constructor
    · intro same
      exact congrArg _ (Except.ok.inj same)
    · rintro ⟨⟩
      rfl

theorem bind_eq_ok {ε α β : Type} {outcome : Except ε α} {onward : α → Except ε β} {value : β} :
    (outcome >>= onward) = .ok value ↔
      ∃ reached, outcome = .ok reached ∧ onward reached = .ok value := by
  cases outcome <;> simp [bind, Except.bind]

end WorkflowLaunch

namespace WorkflowLaunch.Checks

variable {κ ε α β : Type}

/-- The first check of a row that does not pass. -/
inductive First (passes : κ → Prop) : List κ → κ → Prop where
  | here {check : κ} {rest : List κ} : ¬passes check → First passes (check :: rest) check
  | later {check first : κ} {rest : List κ} : passes check → First passes rest first →
      First passes (check :: rest) first

/-- A result that checks come to one after the other. A check that fails reports a fault. -/
inductive Decides (passes : κ → Prop) (reports : κ → ε → Prop) :
    List κ → Except ε α → Prop where
  | passed (value : α) : Decides passes reports [] (.ok value)
  | failed {check : κ} {rest : List κ} {fault : ε} : ¬passes check → reports check fault →
      Decides passes reports (check :: rest) (.error fault)
  | next {check : κ} {rest : List κ} {result : Except ε α} : passes check →
      Decides passes reports rest result → Decides passes reports (check :: rest) result

variable {passes : κ → Prop} {reports : κ → ε → Prop} {checks others : List κ}
  {check first second : κ} {fault : ε} {value : α} {result : Except ε α}

namespace First

theorem mem (found : First passes checks first) : first ∈ checks := by
  induction found with
  | here => exact List.mem_cons_self
  | later _ _ ih => exact List.mem_cons_of_mem _ ih

theorem fails (found : First passes checks first) : ¬passes first := by
  induction found with
  | here fails => exact fails
  | later _ _ ih => exact ih

theorem unique (found : First passes checks first) (other : First passes checks second) :
    first = second := by
  induction found with
  | here fails =>
    cases other with
    | here => rfl
    | later passes => exact absurd passes fails
  | later passes _ ih =>
    cases other with
    | here fails => exact absurd passes fails
    | later _ rest => exact ih rest

/-- Where some check fails, there is a first one. -/
theorem exists_of_fails (member : check ∈ checks) (fails : ¬passes check) :
    ∃ first, First passes checks first := by
  induction checks with
  | nil => simp at member
  | cons head rest ih =>
    by_cases passed : passes head
    · rcases List.mem_cons.mp member with rfl | later
      · exact absurd passed fails
      · obtain ⟨first, found⟩ := ih later
        exact ⟨first, .later passed found⟩
    · exact ⟨head, .here passed⟩

end First

namespace Decides

/-- A fault is the one of the first check that failed. -/
theorem exists_first (decides : Decides passes reports checks result)
    (failed : result = .error fault) :
    ∃ check, First passes checks check ∧ reports check fault := by
  induction decides with
  | passed => simp at failed
  | failed fails reported =>
    obtain rfl := Except.error.inj failed
    exact ⟨_, .here fails, reported⟩
  | next passed _ ih =>
    obtain ⟨check, found, reported⟩ := ih failed
    exact ⟨check, .later passed found, reported⟩

/-- A value means that no check failed. -/
theorem passes_of_ok (decides : Decides passes reports checks result)
    (succeeded : result = .ok value) : ∀ check ∈ checks, passes check := by
  induction decides with
  | passed => simp
  | failed => simp at succeeded
  | next passed _ ih => exact List.forall_mem_cons.mpr ⟨passed, ih succeeded⟩

theorem exists_ok_iff (decides : Decides passes reports checks result) :
    (∃ value, result = .ok value) ↔ ∀ check ∈ checks, passes check := by
  constructor
  · rintro ⟨value, succeeded⟩
    exact decides.passes_of_ok succeeded
  · intro passed
    cases ended : result with
    | ok value => exact ⟨value, rfl⟩
    | error fault =>
      obtain ⟨check, found, _⟩ := decides.exists_first ended
      exact absurd (passed check found.mem) found.fails

/-- The fault is determined by the first check that fails, if every check reports one fault only. -/
theorem eq_error_iff (decides : Decides passes reports checks result)
    (single : ∀ check one other, reports check one → reports check other → one = other) :
    result = .error fault ↔ ∃ check, First passes checks check ∧ reports check fault := by
  constructor
  · exact decides.exists_first
  · rintro ⟨check, found, reported⟩
    cases ended : result with
    | ok value => exact absurd (decides.passes_of_ok ended check found.mem) found.fails
    | error other =>
      obtain ⟨second, again, told⟩ := decides.exists_first ended
      obtain rfl := found.unique again
      rw [single check _ _ reported told]

/-- Behind a check that failed no other is made. -/
theorem stop (decides : Decides passes reports checks result) (failed : result = .error fault)
    (others : List κ) :
    Decides passes reports (checks ++ others) (.error fault : Except ε β) := by
  induction decides with
  | passed => simp at failed
  | failed fails reported =>
    obtain rfl := Except.error.inj failed
    exact .failed fails reported
  | next passed _ ih => exact .next passed (ih failed)

theorem append {later : Except ε β} (decides : Decides passes reports checks result)
    (succeeded : result = .ok value) (rest : Decides passes reports others later) :
    Decides passes reports (checks ++ others) later := by
  induction decides with
  | passed => exact rest
  | failed => simp at succeeded
  | next passed _ ih => exact .next passed (ih succeeded)

theorem bind {after : α → Except ε β} (decides : Decides passes reports checks result)
    (rest : ∀ value, result = .ok value → Decides passes reports others (after value)) :
    Decides passes reports (checks ++ others) (result >>= after) := by
  cases ended : result with
  | ok value => exact decides.append ended (rest value ended)
  | error fault => exact decides.stop ended others

end Decides

end WorkflowLaunch.Checks
