import Mathlib.Data.List.DropRight
import WorkflowLaunch.FileSystem.Walk

set_option autoImplicit false

/-!
The steps of a path against its components: the parent of a path leads along its first steps, and a
joined path along the steps of both. The file name is the last step, if the path ends with it.
-/

namespace WorkflowLaunch

theorem Text.pieces_eq_splitOn {α : Type} [DecidableEq α] (separator : α) (items : List α) :
    Text.pieces separator items = items.splitOn separator := by
  induction items with
  | nil => rfl
  | cons item rest ih =>
    rw [pieces, List.splitOn_cons_eq_if_modifyHead, ih]
    by_cases same : item = separator
    · simp [same]
    · rw [if_neg same, if_neg (by simpa using same)]
      cases split : rest.splitOn separator with
      | nil => exact absurd split (List.splitOn_ne_nil _ _)
      | cons piece others => rfl

theorem not_mem_of_mem_splitOn {α : Type} [DecidableEq α] {separator : α} {items piece : List α}
    (member : piece ∈ items.splitOn separator) : separator ∉ piece := by
  induction items generalizing piece with
  | nil => simp_all
  | cons item rest ih =>
    rw [List.splitOn_cons_eq_if_modifyHead] at member
    by_cases same : item = separator
    · subst same
      rw [if_pos (by simp)] at member
      rcases List.mem_cons.mp member with rfl | later
      · simp
      · exact ih later
    · rw [if_neg (by simpa using same)] at member
      cases split : rest.splitOn separator with
      | nil => exact absurd split (List.splitOn_ne_nil _ _)
      | cons first others =>
        rw [split, List.modifyHead_cons] at member
        rw [split] at ih
        rcases List.mem_cons.mp member with rfl | later
        · simp [Ne.symm same, ih List.mem_cons_self]
        · exact ih (List.mem_cons_of_mem _ later)

theorem prefix_intercalate {α : Type} (separator : List α) (front : List (List α))
    (rest : List (List α)) :
    separator.intercalate front <+: separator.intercalate (front ++ rest) := by
  induction front with
  | nil => exact List.nil_prefix
  | cons piece front ih =>
    cases front with
    | nil =>
      cases rest with
      | nil => exact List.prefix_refl _
      | cons next rest =>
        rw [List.intercalate_singleton, List.singleton_append, List.intercalate_cons_cons,
          List.append_assoc]
        exact List.prefix_append _ _
    | cons next front =>
      rw [List.cons_append, List.cons_append, List.intercalate_cons_cons,
        List.intercalate_cons_cons]
      exact (List.prefix_append_right_inj _).mpr ih

namespace Path

/-- The step of a piece between slashes. -/
def stepOf (piece : Octets) : Step :=
  if piece = [dot] then .here else if piece = [dot, dot] then .up else .down piece

def stepsOf (pieces : List Octets) : List Step := (pieces.filter (· ≠ [])).map stepOf

theorem steps_eq_stepsOf (path : Path) : path.steps = stepsOf (path.octets.splitOn slash) := by
  rw [← Text.pieces_eq_splitOn]
  rfl

@[simp] theorem stepsOf_append (left right : List Octets) :
    stepsOf (left ++ right) = stepsOf left ++ stepsOf right := by
  simp [stepsOf]

theorem stepsOf_singleton {piece : Octets} (real : ¬vacuous piece) :
    stepsOf [piece] = [stepOf piece] := by
  have nonempty : piece ≠ [] := by
    rintro rfl
    exact real (by decide)
  simp [stepsOf, nonempty]

theorem eq_here_of_mem_stepsOf {pieces : List Octets} (idle : ∀ piece ∈ pieces, vacuous piece)
    {step : Step} (member : step ∈ stepsOf pieces) : step = .here := by
  obtain ⟨piece, kept, rfl⟩ := List.mem_map.mp member
  obtain ⟨present, nonempty⟩ := List.mem_filter.mp kept
  have blank := idle piece present
  have single : piece = [dot] := by simpa [vacuous, of_decide_eq_true nonempty] using blank
  simp [stepOf, single]

/-- Behind a slash the steps begin anew. -/
theorem steps_append_slash (left right : Octets) :
    (⟨left ++ slash :: right⟩ : Path).steps = (⟨left⟩ : Path).steps ++ (⟨right⟩ : Path).steps := by
  simp only [steps_eq_stepsOf, List.splitOn_append_cons_self, stepsOf_append]

theorem steps_of_not_mem {name : Octets} (plain : slash ∉ name) (real : ¬vacuous name) :
    (⟨name⟩ : Path).steps = [stepOf name] := by
  rw [steps_eq_stepsOf, List.splitOn_eq_singleton plain, stepsOf_singleton real]

theorem isAbsolute_iff (path : Path) : path.isAbsolute ↔ path.octets.head? = some slash := by
  unfold isAbsolute lead
  split
  · next octets => simp [octets, slash]
  · next octets => simp [octets, slash, dot]
  · next octets => simp [octets, slash, dot]
  · next noRoot _ _ =>
    cases octets : path.octets with
    | nil => simp [slash]
    | cons octet rest =>
      have different : octet ≠ slash := fun same => noRoot rest (by rw [octets, same]; rfl)
      simp [different]

/-- The step of a leading dot. -/
def leadSteps (lead : Octets) : List Step := if lead = [dot] then [.here] else []

/-- A lead and what may stand behind it. -/
def IsLead (lead rest : Octets) : Prop :=
  lead = [] ∨ lead = [slash] ∨ lead = [dot] ∧ ∀ octet ∈ rest.head?, octet = slash

theorem IsLead.of_front {lead front rest : Octets} (isLead : IsLead lead rest)
    (shorter : front <+: rest) : IsLead lead front := by
  obtain ⟨behind, rfl⟩ := shorter
  rcases isLead with none | root | ⟨single, next⟩
  · exact .inl none
  · exact .inr (.inl root)
  · refine .inr (.inr ⟨single, ?_⟩)
    intro octet first
    apply next octet
    rw [List.head?_append, Option.mem_def.mp first]
    rfl

theorem octets_eq_lead (path : Path) : path.octets = path.lead.1 ++ path.lead.2 := by
  unfold lead
  split <;> simp_all [slash, dot]

theorem isLead_lead (path : Path) : IsLead path.lead.1 path.lead.2 := by
  unfold lead IsLead
  split <;> simp [slash, dot]

theorem steps_lead {lead rest : Octets} (isLead : IsLead lead rest) :
    (⟨lead ++ rest⟩ : Path).steps = leadSteps lead ++ stepsOf (rest.splitOn slash) := by
  rcases isLead with rfl | rfl | ⟨rfl, next⟩
  · simp [steps_eq_stepsOf, leadSteps, dot]
  · rw [List.singleton_append, ← List.nil_append (slash :: rest), steps_append_slash,
      ← steps_eq_stepsOf ⟨rest⟩]
    rfl
  · cases rest with
    | nil => rfl
    | cons octet rest =>
      obtain rfl : octet = slash := next octet rfl
      rw [steps_append_slash, ← List.nil_append (slash :: rest), List.splitOn_append_cons_self,
        stepsOf_append, ← steps_eq_stepsOf ⟨rest⟩]
      rfl

/-- The steps behind the body of a path lead nowhere. -/
theorem exists_steps_eq (path : Path) :
    ∃ idle, path.steps = leadSteps path.lead.1 ++ (stepsOf path.body ++ idle) ∧
      ∀ step ∈ idle, step = .here := by
  refine ⟨stepsOf ((Text.pieces slash path.lead.2).rtakeWhile vacuous), ?_, ?_⟩
  · have split := steps_lead path.isLead_lead
    rw [← octets_eq_lead, ← Text.pieces_eq_splitOn] at split
    rw [split, ← stepsOf_append]
    congr 2
    exact List.rdropWhile_append_rtakeWhile.symm
  · intro step member
    exact eq_here_of_mem_stepsOf (fun piece present => List.mem_rtakeWhile_imp present) member

theorem prefix_body (path : Path) : path.body <+: path.lead.2.splitOn slash := by
  rw [← Text.pieces_eq_splitOn]
  exact List.rdropWhile_prefix vacuous _

/-- The last piece of a body makes a component. -/
theorem exists_body_eq {path : Path} (nonempty : path.body ≠ []) :
    ∃ front final, path.body = front ++ [final] ∧ ¬vacuous final := by
  refine ⟨path.body.dropLast, path.body.getLast nonempty,
    (List.dropLast_append_getLast nonempty).symm, ?_⟩
  exact List.rdropWhile_last_not vacuous _ nonempty

/-- A path whose last step goes down has that name. -/
theorem fileName?_of_steps {path : Path} {front : List Step} {name : Name}
    (steps : path.steps = front ++ [.down name]) : path.fileName? = some name := by
  obtain ⟨idle, layout, still⟩ := path.exists_steps_eq
  rw [steps] at layout
  have final := congrArg List.getLast? layout
  rw [List.getLast?_concat] at final
  have noIdle : idle = [] := by
    by_contra some
    have member := List.getLast_mem some
    rw [List.getLast?_append_of_ne_nil _ (by simp [some]), List.getLast?_append_of_ne_nil _ some,
      List.getLast?_eq_some_getLast some, still _ member] at final
    simp at final
  subst noIdle
  rw [List.append_nil] at final
  by_cases empty : path.body = []
  · rw [empty] at final
    simp only [leadSteps, stepsOf, List.filter_nil, List.map_nil, List.append_nil] at final
    split at final <;> simp at final
  · obtain ⟨front, last, body, real⟩ := exists_body_eq empty
    rw [body, stepsOf_append, stepsOf_singleton real, ← List.append_assoc, List.getLast?_concat]
      at final
    have step : stepOf last = .down name := (Option.some.inj final).symm
    rw [fileName?, body, List.getLast?_concat]
    have single : last ≠ [dot] := by
      rintro rfl
      exact real (by decide)
    unfold stepOf at step
    rw [if_neg single] at step
    split at step
    · simp at step
    · next normal =>
      simp only [normal, if_false]
      simpa using step

/-- A path and one that goes on where it ends. -/
structure Above (upper lower : Path) : Prop where
  octets : upper.octets <+: lower.octets
  isAbsolute : upper.isAbsolute = lower.isAbsolute
  steps : ∃ rest, rest ≠ [] ∧ lower.steps = upper.steps ++ rest

theorem Above.trans {upper middle lower : Path} (first : Above upper middle)
    (second : Above middle lower) : Above upper lower := by
  obtain ⟨between, _, middleSteps⟩ := first.steps
  obtain ⟨rest, nonempty, lowerSteps⟩ := second.steps
  refine ⟨first.octets.trans second.octets, first.isAbsolute.trans second.isAbsolute,
    between ++ rest, by simp [nonempty], ?_⟩
  rw [lowerSteps, middleSteps, List.append_assoc]

/-- A prefix of a path is absolute if the path is, unless nothing is left of the path's lead. -/
theorem isAbsolute_eq_of_front {upper lower : Path} (front : upper.octets <+: lower.octets)
    (kept : upper.octets = [] → lower.isAbsolute = false) :
    upper.isAbsolute = lower.isAbsolute := by
  cases octets : upper.octets with
  | nil =>
    rw [kept octets, Bool.eq_false_iff, Ne, isAbsolute_iff, octets]
    simp
  | cons octet rest =>
    obtain ⟨behind, whole⟩ := front
    rw [Bool.eq_iff_iff, isAbsolute_iff, isAbsolute_iff, ← whole, octets]
    simp

theorem stepsOf_splitOn_intercalate {pieces : List Octets}
    (plain : ∀ piece ∈ pieces, slash ∉ piece) :
    stepsOf (([slash].intercalate pieces).splitOn slash) = stepsOf pieces := by
  by_cases empty : pieces = []
  · subst empty; rfl
  · rw [List.splitOn_intercalate slash plain empty]

/-- The steps of a path without the last piece of its body. -/
theorem steps_without_last {path : Path} {front : List Octets} {final : Octets}
    (body : path.body = front ++ [final]) :
    path.lead.1 ++ [slash].intercalate (trimPieces front) <+: path.octets ∧
      (⟨path.lead.1 ++ [slash].intercalate (trimPieces front)⟩ : Path).steps =
        leadSteps path.lead.1 ++ stepsOf (trimPieces front) := by
  have split : front = trimPieces front ++ front.rtakeWhile vacuous :=
    List.rdropWhile_append_rtakeWhile.symm
  have whole : path.body = trimPieces front ++ (front.rtakeWhile vacuous ++ [final]) := by
    rw [body, ← List.append_assoc, ← split]
  obtain ⟨behind, pieces⟩ := path.prefix_body
  rw [whole, List.append_assoc] at pieces
  have within : [slash].intercalate (trimPieces front) <+: path.lead.2 := by
    have shorter := prefix_intercalate [slash] (trimPieces front)
      ((front.rtakeWhile vacuous ++ [final]) ++ behind)
    rwa [pieces, List.intercalate_splitOn] at shorter
  have plain : ∀ piece ∈ trimPieces front, slash ∉ piece := by
    intro piece member
    exact not_mem_of_mem_splitOn (pieces ▸ List.mem_append_left _ member)
  constructor
  · rw [octets_eq_lead path]
    exact (List.prefix_append_right_inj _).mpr within
  · rw [steps_lead (path.isLead_lead.of_front within), stepsOf_splitOn_intercalate plain]

/-- The steps of a path behind those that it has without the last piece of its body. -/
theorem exists_steps_behind {path : Path} {front : List Octets} {final : Octets}
    (body : path.body = front ++ [final]) (real : ¬vacuous final) :
    ∃ idle behind, (∀ step ∈ idle, step = .here) ∧ (∀ step ∈ behind, step = .here) ∧
      path.steps = leadSteps path.lead.1 ++ stepsOf (trimPieces front) ++
        (idle ++ stepOf final :: behind) := by
  have split : front = trimPieces front ++ front.rtakeWhile vacuous :=
    List.rdropWhile_append_rtakeWhile.symm
  obtain ⟨behind, layout, still⟩ := path.exists_steps_eq
  refine ⟨stepsOf (front.rtakeWhile vacuous), behind, ?_, still, ?_⟩
  · intro step member
    exact eq_here_of_mem_stepsOf (fun piece present => List.mem_rtakeWhile_imp present) member
  · rw [layout, body]
    conv_lhs => rw [split]
    simp [stepsOf_singleton real]

/-- A path without the last piece of its body. -/
theorem above_of_body {path : Path} {front : List Octets} {final : Octets}
    (body : path.body = front ++ [final]) (real : ¬vacuous final) :
    Above ⟨path.lead.1 ++ [slash].intercalate (trimPieces front)⟩ path := by
  obtain ⟨shorter, steps⟩ := steps_without_last body
  obtain ⟨idle, behind, _, _, layout⟩ := exists_steps_behind body real
  refine ⟨shorter, isAbsolute_eq_of_front shorter ?_, ?_⟩
  · intro empty
    simp [isAbsolute, (List.append_eq_nil_iff.mp empty).1]
  · exact ⟨idle ++ stepOf final :: behind, by simp, by rw [steps, layout]⟩

/-- A path without body leads nowhere. -/
theorem eq_here_of_body_eq_nil {path : Path} (empty : path.body = []) {step : Step}
    (member : step ∈ path.steps) : step = .here := by
  obtain ⟨idle, layout, still⟩ := path.exists_steps_eq
  rw [layout, empty] at member
  rcases List.mem_append.mp member with lead | behind
  · unfold leadSteps at lead
    split at lead <;> simp_all
  · exact still step (by simpa [stepsOf] using behind)

theorem stepOf_ne_here {piece : Octets} (real : ¬vacuous piece) : stepOf piece ≠ .here := by
  have notDot : piece ≠ [dot] := by
    rintro rfl
    exact real (by decide)
  rw [stepOf, if_neg notDot]
  split <;> simp

/-- The last step that leads anywhere stands behind the steps of the parent. -/
theorem exists_last_step {path : Path} (nonempty : path.body ≠ []) :
    ∃ parent idle step behind, path.parent? = some parent ∧ Above parent path ∧
      (∀ step ∈ idle, step = .here) ∧ step ≠ .here ∧ (∀ step ∈ behind, step = .here) ∧
      path.steps = parent.steps ++ (idle ++ step :: behind) := by
  obtain ⟨front, final, body, real⟩ := exists_body_eq nonempty
  obtain ⟨_, steps⟩ := steps_without_last body
  obtain ⟨idle, behind, before, after, layout⟩ := exists_steps_behind body real
  refine ⟨_, idle, _, behind, ?_, above_of_body body real, before, stepOf_ne_here real, after, ?_⟩
  · rw [parent?, if_neg nonempty, body, List.dropLast_concat]
  · rw [steps, layout]

/-- A parent leads along the first steps of its path. -/
theorem above_of_parent? {path parent : Path} (found : path.parent? = some parent) :
    Above parent path := by
  rw [parent?] at found
  split at found
  · next empty =>
    split at found
    · next single =>
      obtain rfl : (⟨[]⟩ : Path) = parent := Option.some.inj found
      have relative : path.isAbsolute = false := by simp [isAbsolute, single, slash, dot]
      obtain ⟨idle, layout, _⟩ := path.exists_steps_eq
      refine ⟨List.nil_prefix, relative.symm ▸ rfl, path.steps, ?_, rfl⟩
      simp [layout, single, leadSteps]
    · simp at found
  · next some =>
    obtain ⟨front, final, body, real⟩ := exists_body_eq some
    rw [body, List.dropLast_concat] at found
    obtain rfl := Option.some.inj found
    exact above_of_body body real

theorem steps_join {path other : Path} (relative : other.isAbsolute = false) :
    (path.join other).steps = path.steps ++ other.steps := by
  rw [join, relative]
  simp only [Bool.false_eq_true, if_false]
  split
  · next plain =>
    simp only [Bool.or_eq_true, decide_eq_true_eq] at plain
    rcases plain with empty | slashed
    · obtain ⟨octets⟩ := path
      simp only at empty
      subst empty
      rfl
    · obtain ⟨octets⟩ := path
      obtain ⟨front, rfl⟩ := List.getLast?_eq_some_iff.mp slashed
      rw [List.append_assoc, List.singleton_append, steps_append_slash, steps_append_slash]
      simp [steps, Text.pieces]
  · exact steps_append_slash _ _

theorem exists_octets_join (path other : Path) :
    ∃ front, (path.join other).octets = front ++ other.octets := by
  unfold join
  split
  · exact ⟨[], rfl⟩
  · split
    · exact ⟨path.octets, rfl⟩
    · exact ⟨path.octets ++ [slash], by simp⟩

theorem exists_octets_withFileName (path : Path) (name : Name) :
    ∃ front, (path.withFileName name).octets = front ++ name := by
  unfold withFileName
  split <;> exact exists_octets_join _ ⟨name⟩

/-- A name that is longer than the dots is a step down. -/
theorem steps_of_name {name : Name} (plain : slash ∉ name) (long : 2 < name.length) :
    (⟨name⟩ : Path).steps = [.down name] := by
  rw [steps_of_not_mem plain]
  · have notDot : name ≠ [dot] := by rintro rfl; simp at long
    have notDots : name ≠ [dot, dot] := by rintro rfl; simp at long
    simp [stepOf, notDot, notDots]
  · simp only [vacuous, Bool.or_eq_true, decide_eq_true_eq, not_or]
    constructor
    · rintro rfl; simp at long
    · rintro rfl; simp at long

theorem isAbsolute_of_name {name : Name} (plain : slash ∉ name) :
    (⟨name⟩ : Path).isAbsolute = false := by
  rw [Bool.eq_false_iff, Ne, isAbsolute_iff]
  intro first
  apply plain
  exact List.mem_of_mem_head? first

/-- A path whose file name was replaced ends with the step to the new name. -/
theorem steps_withFileName (path : Path) {name : Name} (plain : slash ∉ name)
    (long : 2 < name.length) :
    ∃ front, (path.withFileName name).steps = front ++ [.down name] := by
  have down := steps_of_name plain long
  have relative := isAbsolute_of_name plain
  rw [withFileName]
  split
  · exact ⟨path.steps, by rw [steps_join relative, down]⟩
  · exact ⟨_, by rw [steps_join relative, down]⟩

theorem slash_not_mem_fileName {path : Path} {name : Name} (found : path.fileName? = some name) :
    slash ∉ name := by
  rw [fileName?] at found
  split at found
  · next piece last =>
    split at found
    · simp at found
    · obtain rfl := Option.some.inj found
      exact not_mem_of_mem_splitOn (path.prefix_body.subset (List.mem_of_getLast? last))
  · simp at found

end Path

end WorkflowLaunch
