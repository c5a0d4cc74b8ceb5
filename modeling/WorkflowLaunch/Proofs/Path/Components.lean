import WorkflowLaunch.Proofs.Path.Steps

set_option autoImplicit false

/-!
The components of a path against its steps. Both leave out what leads nowhere, but for the dot that
a relative path begins with. So a path with a file name has the components of its parent and the
name behind them, and a longer name that is joined to a path is one component more.
-/

namespace WorkflowLaunch.Path

/-- What a step adds to the components. -/
def Step.component? : Step → Option Component
  | .here => none
  | .up => some .up
  | .down name => some (.normal name)

/-- The root, or the dot that a relative path begins with. -/
def origin (absolute : Bool) (steps : List Step) : List Component :=
  if absolute then [.root] else if steps.head? = some .here then [.current] else []

theorem filterMap_stepsOf (pieces : List Octets) :
    (stepsOf pieces).filterMap Step.component? =
      (pieces.filter fun piece => !vacuous piece).map ofPiece := by
  induction pieces with
  | nil => rfl
  | cons piece rest ih =>
    rw [← List.singleton_append, stepsOf_append, List.filterMap_append, ih, List.filter_append,
      List.map_append]
    congr 1
    by_cases idle : vacuous piece
    · have nowhere : piece = [] ∨ piece = [dot] := by simpa [vacuous] using idle
      rcases nowhere with rfl | rfl <;> rfl
    · have single : piece ≠ [dot] := by
        rintro rfl
        exact idle (by decide)
      rw [stepsOf_singleton idle, stepOf, if_neg single]
      by_cases up : piece = [dot, dot]
      · subst up
        rfl
      · simp [idle, up, ofPiece, Step.component?]

theorem filterMap_of_here {steps : List Step} (still : ∀ step ∈ steps, step = .here) :
    steps.filterMap Step.component? = [] := by
  apply List.filterMap_eq_nil_iff.mpr
  intro step member
  rw [still step member]
  rfl

/-- A relative path that begins by staying where it is begins with a dot. -/
theorem lead_of_head? {path : Path} (relative : path.isAbsolute = false)
    (stays : path.steps.head? = some .here) : path.lead.1 = [dot] := by
  obtain ⟨octets⟩ := path
  rw [steps] at stays
  cases octets with
  | nil => simp [Text.pieces] at stays
  | cons octet rest =>
    have noRoot : octet ≠ slash := by
      rintro rfl
      simp [Bool.eq_false_iff, isAbsolute_iff] at relative
    cases pieces : Text.pieces slash rest with
    | nil => exact absurd pieces (Text.pieces_ne_nil _ _)
    | cons piece others =>
      have whole := Text.intercalate_pieces slash rest
      rw [pieces] at whole
      obtain ⟨rfl, rfl⟩ : octet = dot ∧ piece = [] := by
        simp only [Text.pieces, if_neg noRoot, pieces] at stays
        rw [List.filter_cons_of_pos (by simp), List.map_cons, List.head?_cons,
          Option.some.injEq] at stays
        split at stays
        · next single => simpa using single
        · split at stays <;> simp at stays
      cases others with
      | nil => rw [← whole]; rfl
      | cons next others => rw [← whole]; rfl

theorem components_eq (path : Path) : path.components =
    origin path.isAbsolute path.steps ++ path.steps.filterMap Step.component? := by
  have lead : path.leadComponents = origin path.isAbsolute path.steps := by
    rw [leadComponents, origin, isAbsolute]
    by_cases root : path.lead.1 = [slash]
    · simp [root]
    · have relative : path.isAbsolute = false := by simp [isAbsolute, root]
      have dotted : path.lead.1 = [dot] ↔ path.steps.head? = some .here := by
        constructor
        · intro single
          obtain ⟨idle, layout, _⟩ := path.exists_steps_eq
          simp [layout, leadSteps, single]
        · exact lead_of_head? relative
      simp [root, dotted]
  obtain ⟨idle, layout, still⟩ := path.exists_steps_eq
  have led : (leadSteps path.lead.1).filterMap Step.component? = [] := by
    unfold leadSteps
    split <;> rfl
  rw [components, lead, layout, List.filterMap_append, List.filterMap_append, led,
    filterMap_of_here still, filterMap_stepsOf, List.nil_append, List.append_nil]

/-- What follows the first step of a path says nothing about where the path begins. -/
theorem origin_append {absolute : Bool} {steps behind : List Step}
    (leads : absolute = false → steps = [] → behind.head? ≠ some .here) :
    origin absolute (steps ++ behind) = origin absolute steps := by
  cases absolute with
  | true => rfl
  | false =>
    cases steps with
    | nil => simp [origin, leads rfl rfl]
    | cons step rest => rfl

/-- A path with a file name is its parent and the name. -/
theorem components_of_fileName? {path : Path} {name : Name}
    (named : path.fileName? = some name) :
    ∃ parent, path.parent? = some parent ∧
      path.components = parent.components ++ [.normal name] := by
  have nonempty : path.body ≠ [] := by
    intro empty
    simp [fileName?, empty] at named
  obtain ⟨front, final, body, real⟩ := exists_body_eq nonempty
  obtain ⟨notDots, rfl⟩ : final ≠ [dot, dot] ∧ final = name := by
    simpa [fileName?, body] using named
  obtain ⟨_, steps⟩ := steps_without_last body
  obtain ⟨idle, behind, before, after, layout⟩ := exists_steps_behind body real
  have absolute := (above_of_body body real).isAbsolute
  refine ⟨_, by rw [parent?, if_neg nonempty, body, List.dropLast_concat], ?_⟩
  generalize Path.mk (path.lead.1 ++ [slash].intercalate (trimPieces front)) = parent
    at steps absolute ⊢
  rw [← steps] at layout
  have down : Step.component? (stepOf final) = some (.normal final) := by
    have single : final ≠ [dot] := by
      rintro rfl
      exact real (by decide)
    rw [stepOf, if_neg single, if_neg notDots]
    rfl
  have same : origin path.isAbsolute path.steps = origin parent.isAbsolute parent.steps := by
    rw [layout, absolute]
    apply origin_append
    intro relative still stays
    have led := lead_of_head? relative (by rw [layout, still, List.nil_append, stays])
    rw [still, led] at steps
    simp [leadSteps] at steps
  rw [components_eq, components_eq, same, layout, List.filterMap_append, List.filterMap_append,
    List.filterMap_cons_some down, filterMap_of_here before, filterMap_of_here after,
    List.nil_append, List.append_assoc]

theorem isAbsolute_join (path : Path) {other : Path} (relative : other.isAbsolute = false) :
    (path.join other).isAbsolute = path.isAbsolute := by
  apply Eq.symm
  rw [join, relative, if_neg (by simp)]
  split
  · apply isAbsolute_eq_of_front (List.prefix_append _ _)
    intro empty
    rwa [empty, List.nil_append]
  · next slashed =>
    apply isAbsolute_eq_of_front (List.prefix_append _ _)
    intro empty
    simp [empty] at slashed

theorem components_join (path : Path) {name : Name} (plain : slash ∉ name)
    (long : 2 < name.length) :
    (path.join ⟨name⟩).components = path.components ++ [.normal name] := by
  have relative := isAbsolute_of_name plain
  have steps : (path.join ⟨name⟩).steps = path.steps ++ [.down name] := by
    rw [steps_join relative, steps_of_name plain long]
  rw [components_eq, components_eq, isAbsolute_join path relative, steps,
    origin_append (by simp), List.filterMap_append, List.append_assoc]
  rfl

end WorkflowLaunch.Path
