import WorkflowLaunch.Proofs.FileSystem.Directories

set_option autoImplicit false

/-!
What making directories leaves alone: everything. A location either has what it had before, or it
was vacant and has a directory now, and one of the paths that were tried names it.
-/

namespace WorkflowLaunch.FileSystem

/-- A directory was made at a location that was vacant, and one of some paths names it. -/
structure Made (files after : FileSystem) (paths : List Path) (location : Location) : Prop where
  vacant : files.node? location = none
  directory : after.node? location = some .directory
  named : ∃ path ∈ paths, after.entryAt? path = some location

/-- Files that differ from earlier ones by directories at some paths alone. -/
structure Furnished (files after : FileSystem) (paths : List Path) : Prop where
  same_or_made : ∀ location,
    after.node? location = files.node? location ∨ Made files after paths location
  workingDirectory : after.workingDirectory = files.workingDirectory

variable {files middle after : FileSystem} {paths : List Path} {path : Path} {location : Location}

theorem Furnished.refl (files : FileSystem) (paths : List Path) : Furnished files files paths :=
  ⟨fun _ => .inl rfl, rfl⟩

theorem Furnished.grown (furnished : Furnished files after paths) : Grown files after := by
  refine ⟨?_, furnished.workingDirectory⟩
  intro location node held _
  rcases furnished.same_or_made location with same | made
  · rw [same, held]
  · simp [made.vacant] at held

/-- Making directories changes no file. -/
theorem Furnished.node?_eq_file_iff (furnished : Furnished files after paths)
    (location : Location) (content : Octets) :
    after.node? location = some (.file content) ↔
      files.node? location = some (.file content) := by
  rcases furnished.same_or_made location with same | made
  · rw [same]
  · simp [made.vacant, made.directory]

/-- A directory that was made stays where it is while others are made. -/
theorem Made.grow (made : Made files middle paths location) (grown : Grown middle after) :
    Made files after paths location := by
  obtain ⟨vacant, directory, path, member, named⟩ := made
  obtain ⟨parent, name, left, approach, same⟩ := entryAt?_eq_some_iff.mp named
  have approach := approach.keep grown.keeps grown.workingDirectory
  have named := entryAt?_eq_some_iff.mpr ⟨parent, name, left, approach, same⟩
  exact ⟨vacant, grown.keeps location .directory directory rfl, path, member, named⟩

theorem Furnished.trans (first : Furnished files middle paths)
    (second : Furnished middle after paths) : Furnished files after paths := by
  refine ⟨?_, second.workingDirectory.trans first.workingDirectory⟩
  intro location
  rcases first.same_or_made location with same | made
  · rcases second.same_or_made location with still | ⟨vacant, directory, named⟩
    · exact .inl (still.trans same)
    · exact .inr ⟨same ▸ vacant, directory, named⟩
  · exact .inr (made.grow second.grown)

theorem furnished_of_makeDirectory (made : files.makeDirectory path = (.ok (), after))
    (member : path ∈ paths) : Furnished files after paths := by
  have grown := grown_of_makeDirectory made
  obtain ⟨parent, name, left, approach, vacant, rfl⟩ := exists_approach_of_makeDirectory made
  refine ⟨?_, grown.workingDirectory⟩
  intro location
  rw [node?_put _ _ _ (by simp)]
  by_cases here : parent ++ [name] = location
  · subst here
    have approach := approach.keep grown.keeps grown.workingDirectory
    refine .inr ⟨vacant, ?_, path, member, approach.entryAt?⟩
    rw [node?_put _ _ _ (by simp), if_pos rfl]
  · exact .inl (if_neg here)

theorem Provides.furnished (provides : Provides files path after) (member : path ∈ paths) :
    Furnished files after paths := by
  rcases provides.made_or_present with made | rfl
  · exact furnished_of_makeDirectory made member
  · exact .refl _ paths

theorem furnished_makeAll {missing : List Path} (files : FileSystem)
    (members : ∀ path ∈ missing, path ∈ paths) :
    Furnished files (files.makeAll missing).2 paths := by
  induction missing generalizing files with
  | nil => exact .refl files paths
  | cons path rest ih =>
    obtain ⟨member, others⟩ := List.forall_mem_cons.mp members
    rcases provides_or_stuck files path with ⟨middle, provides⟩ | ⟨fault, stuck⟩
    · rw [provides.makeAll]
      exact (provides.furnished member).trans (ih middle others)
    · rw [stuck.makeAll]
      exact .refl files paths

theorem furnished_makeFrom {missing above : List Path} (files : FileSystem)
    (members : ∀ path ∈ missing, path ∈ paths) (others : ∀ path ∈ above, path ∈ paths) :
    Furnished files (files.makeFrom missing above).2 paths := by
  induction above generalizing missing with
  | nil => exact furnished_makeAll files members
  | cons path rest ih =>
    obtain ⟨member, others⟩ := List.forall_mem_cons.mp others
    by_cases empty : path.octets = []
    · rw [makeFrom, if_pos empty]
      exact furnished_makeAll files members
    · rcases provides_or_stuck files path with ⟨middle, provides⟩ | ⟨fault, stuck⟩
      · rw [provides.makeFrom empty]
        exact (provides.furnished member).trans (furnished_makeAll middle members)
      · rw [stuck.makeFrom empty]
        split
        · exact ih (List.forall_mem_cons.mpr ⟨member, members⟩) others
        · exact .refl files paths

/-- Making a directory with those above it makes nothing but directories at these paths, however it
ends. -/
theorem furnished_makeDirectories (files : FileSystem) (path : Path) :
    Furnished files (files.makeDirectories path).2 path.ancestors :=
  furnished_makeFrom files (by simp) fun _ => id

end WorkflowLaunch.FileSystem
