import WorkflowLaunch.Proofs.FileSystem.Ways

set_option autoImplicit false

/-!
The entry that a path names, and the file that it denotes. Where the entry stands depends on the
directories and the links alone.
-/

namespace WorkflowLaunch.FileSystem

open WorkflowLaunch.Path (Name Step)

/-- The location of the entry that a path names. A link that stands there is not followed. -/
def entryAt? (files : FileSystem) (path : Path) : Option Location :=
  match files.walk .keep path with
  | .ok (.entry parent name _) => some (parent ++ [name])
  | _ => none

/-- Whether a symbolic link stands at a path. -/
def isLink (files : FileSystem) (path : Path) : Bool :=
  match (files.entryAt? path).bind files.node? with
  | some (.link _) => true
  | _ => false

/-- The content of the file that a path denotes, links being followed. -/
def fileAt? (files : FileSystem) (path : Path) : Option Octets := (files.read path).toOption

/-- A path that leads to a directory and then to a name in it. -/
structure Approach (files : FileSystem) (path : Path) (parent : Location) (name : Name)
    (left : Nat) : Prop where
  valid : pathFault? path = none
  short : name.length ≤ nameLimit
  exists_way : ∃ front, path.steps = front ++ [.down name] ∧
    Way files 40 (base files.workingDirectory path) front parent left

variable {files other : FileSystem} {path : Path} {parent : Location} {name : Name} {left : Nat}
  {slash : Bool} {last : LastLink}

theorem walk_eq_walkFrom (valid : pathFault? path = none) :
    files.walk last path = walkFrom files last 40 path.endsInSlash
      (base files.workingDirectory path) path.steps := by
  rw [walk, valid]
  rfl

theorem pathFault?_of_walk {goal : Goal} (arrives : files.walk last path = .ok goal) :
    pathFault? path = none := by
  unfold walk at arrives
  split at arrives
  · simp at arrives
  · assumption

/-- A walk that arrives at all has come to the directory in front of its last step. -/
theorem exists_way_of_walk {goal : Goal} {front : List Step} {step : Step}
    (arrives : files.walk last path = .ok goal) (steps : path.steps = front ++ [step]) :
    ∃ parent left, Way files 40 (base files.workingDirectory path) front parent left ∧
      walkFrom files last left path.endsInSlash parent [step] = .ok goal := by
  rw [walk_eq_walkFrom (pathFault?_of_walk arrives), steps] at arrives
  obtain ⟨parent, left, way⟩ := exists_way_of_walkFrom (by simp) arrives
  rw [walkFrom_append way _ _ (by simp)] at arrives
  exact ⟨parent, left, way, arrives⟩

theorem Approach.walk (approach : Approach files path parent name left) (last : LastLink) :
    files.walk last path = walkFrom files last left path.endsInSlash parent [.down name] := by
  obtain ⟨front, steps, way⟩ := approach.exists_way
  rw [walk_eq_walkFrom approach.valid, steps, walkFrom_append way _ _ (by simp)]

theorem Approach.walk_keep (approach : Approach files path parent name left) :
    files.walk .keep path = .ok (.entry parent name path.endsInSlash) := by
  rw [approach.walk, walkFrom_last, if_neg (by simp), if_neg (Nat.not_lt.mpr approach.short)]
  split <;> rfl

theorem Approach.entryAt? (approach : Approach files path parent name left) :
    files.entryAt? path = some (parent ++ [name]) := by
  rw [FileSystem.entryAt?, approach.walk_keep]

theorem Approach.isLink (approach : Approach files path parent name left) :
    files.isLink path = true ↔ ∃ target, files.node? (parent ++ [name]) = some (.link target) := by
  rw [FileSystem.isLink, approach.entryAt?, Option.bind_some]
  split
  · next target link => simp [link]
  · next other =>
    simp only [Bool.false_eq_true, false_iff, not_exists]
    exact other

theorem Approach.node?_ne_link (approach : Approach files path parent name left)
    (plain : files.isLink path = false) (target : Path) :
    files.node? (parent ++ [name]) ≠ some (.link target) := by
  intro link
  have linked := approach.isLink.mpr ⟨target, link⟩
  simp [plain] at linked

/-- Where no link stands, following one that stands last makes no difference. -/
theorem Approach.walk_bare (approach : Approach files path parent name left)
    (plain : files.isLink path = false) (last : LastLink) (bare : path.endsInSlash = false) :
    files.walk last path = .ok (.entry parent name false) := by
  rw [approach.walk, walkFrom_last, bare, if_neg (by simp),
    if_neg (Nat.not_lt.mpr approach.short)]
  split
  · next target link => exact absurd link (approach.node?_ne_link plain target)
  · rfl

theorem approach_of_walk_keep (arrives : files.walk .keep path = .ok (.entry parent name slash)) :
    slash = path.endsInSlash ∧ ∃ left, Approach files path parent name left := by
  have valid := pathFault?_of_walk arrives
  rcases List.eq_nil_or_concat path.steps with none | ⟨front, step, steps⟩
  · rw [walk_eq_walkFrom valid, none, walkFrom_nil] at arrives
    simp at arrives
  · rw [List.concat_eq_append] at steps
    obtain ⟨there, left, way, final⟩ := exists_way_of_walk arrives steps
    cases step with
    | here => simp at final
    | up => simp at final
    | down held =>
      have short := short_of_walkFrom_last _ _ _ _ _ (by simp) final
      have approach : Approach files path there held left := ⟨valid, short, front, steps, way⟩
      rw [approach.walk_keep] at arrives
      obtain ⟨rfl, rfl, rfl⟩ := Goal.entry.inj (Except.ok.inj arrives)
      exact ⟨rfl, left, approach⟩

theorem entryAt?_eq_some_iff {location : Location} :
    files.entryAt? path = some location ↔
      ∃ parent name left, Approach files path parent name left ∧ parent ++ [name] = location := by
  constructor
  · intro found
    unfold FileSystem.entryAt? at found
    split at found
    · next arrives =>
      obtain ⟨_, left, approach⟩ := approach_of_walk_keep arrives
      exact ⟨_, _, left, approach, Option.some.inj found⟩
    · simp at found
  · rintro ⟨parent, name, left, approach, rfl⟩
    exact approach.entryAt?

theorem Approach.read_file (approach : Approach files path parent name left)
    {content : Octets} (held : files.node? (parent ++ [name]) = some (.file content))
    (bare : path.endsInSlash = false) : files.read path = .ok content := by
  have plain : files.isLink path = false := by
    rw [Bool.eq_false_iff, Ne, approach.isLink, held]
    simp
  simp [read, bind, Except.bind, approach.walk_bare plain .follow bare, held]

theorem Approach.keep (approach : Approach files path parent name left)
    (keeps : Keeps files other) (sameBase : other.workingDirectory = files.workingDirectory) :
    Approach other path parent name left := by
  obtain ⟨front, steps, way⟩ := approach.exists_way
  exact ⟨approach.valid, approach.short, front, steps, sameBase ▸ way.keep keeps⟩

theorem fileAt?_eq_some_iff {content : Octets} :
    files.fileAt? path = some content ↔
      ∃ parent name, files.walk .follow path = .ok (.entry parent name false) ∧
        files.node? (parent ++ [name]) = some (.file content) := by
  constructor
  · intro found
    cases walked : files.walk .follow path with
    | error fault => simp [fileAt?, read, walked, bind, Except.bind, Except.toOption] at found
    | ok goal =>
      cases goal with
      | directory there => simp [fileAt?, read, walked, bind, Except.bind, Except.toOption] at found
      | entry parent name slash =>
        simp only [fileAt?, read, walked, bind, Except.bind] at found
        split at found
        · simp [Except.toOption] at found
        · next held node =>
          split at found
          · simp [Except.toOption] at found
          · next bare =>
            obtain rfl : held = content := Option.some.inj found
            exact ⟨parent, name, by simp [bare], node⟩
        · simp [Except.toOption] at found
  · rintro ⟨parent, name, walked, node⟩
    simp [fileAt?, read, walked, node, bind, Except.bind, Except.toOption]

/-- A path that denotes a file names an entry, also if that is a link. -/
theorem exists_approach_of_fileAt? {content : Octets} (found : files.fileAt? path = some content) :
    ∃ parent name left, Approach files path parent name left ∧ path.endsInSlash = false ∧
      files.node? (parent ++ [name]) ≠ some .directory := by
  obtain ⟨place, file, walked, node⟩ := fileAt?_eq_some_iff.mp found
  have valid := pathFault?_of_walk walked
  rcases List.eq_nil_or_concat path.steps with none | ⟨front, step, steps⟩
  · rw [walk_eq_walkFrom valid, none, walkFrom_nil] at walked
    simp at walked
  · rw [List.concat_eq_append] at steps
    obtain ⟨there, left, way, final⟩ := exists_way_of_walk walked steps
    cases step with
    | here => simp at final
    | up => simp at final
    | down held =>
      have short := short_of_walkFrom_last _ _ _ _ _ (by simp) final
      refine ⟨there, held, left, ⟨valid, short, front, steps, way⟩,
        (arrives_of_walkFrom final).bare, ?_⟩
      intro directory
      rw [walkFrom_last, if_neg (by simp), if_neg (Nat.not_lt.mpr short), directory] at final
      obtain ⟨rfl, rfl, _⟩ := Goal.entry.inj (Except.ok.inj final)
      rw [node] at directory
      simp at directory

theorem walk_of_keeps {goal : Goal} (keeps : Keeps files other) (kept : Keeps other files)
    (sameBase : other.workingDirectory = files.workingDirectory)
    (arrives : files.walk last path = .ok goal) : other.walk last path = .ok goal := by
  have valid := pathFault?_of_walk arrives
  rw [walk_eq_walkFrom valid] at arrives ⊢
  rw [sameBase]
  exact walkFrom_of_keeps keeps kept arrives

/-- Directories and links alone decide which entry a path names. -/
theorem entryAt?_congr (keeps : Keeps files other) (kept : Keeps other files)
    (sameBase : other.workingDirectory = files.workingDirectory) (path : Path) :
    other.entryAt? path = files.entryAt? path := by
  apply Option.ext
  intro location
  rw [entryAt?_eq_some_iff, entryAt?_eq_some_iff]
  constructor
  · rintro ⟨parent, name, left, approach, same⟩
    exact ⟨parent, name, left, approach.keep kept sameBase.symm, same⟩
  · rintro ⟨parent, name, left, approach, same⟩
    exact ⟨parent, name, left, approach.keep keeps sameBase, same⟩

end WorkflowLaunch.FileSystem
