import WorkflowLaunch.Proofs.FileSystem.Furnishing
import WorkflowLaunch.Proofs.Store.Opening

set_option autoImplicit false

/-!
What opening a database and a save that fails behind it leave in the files: directories above the
path, and a temporary sibling.
-/

namespace WorkflowLaunch.Store

open FileSystem

/-- The directories that opening a path may make: its parent and everything above. -/
def directoriesAbove (path : Path) : List Path := (path.parent?.map Path.ancestors).getD []

/-- Nothing differs but directories above a path and its temporary sibling. -/
structure Unsaved (files after : FileSystem) (path : Path) : Prop where
  same_or_made : ∀ location, after.entryAt? (temporaryPath path) ≠ some location →
    after.node? location = files.node? location ∨
      Made files after (directoriesAbove path) location
  content : ∀ content, files.fileAt? path = some content → after.fileAt? path = some content
  workingDirectory : after.workingDirectory = files.workingDirectory

variable {files after : FileSystem} {path : Path} {catalog : Catalog} {content : Octets}

theorem furnished_settled (files : FileSystem) (path : Path) :
    Furnished files (settled files path) (directoriesAbove path) := by
  rw [settled, makeParents, directoriesAbove]
  cases path.parent? with
  | none => exact .refl files _
  | some parent =>
    by_cases empty : parent.octets = []
    · simp only [if_pos empty]
      exact .refl files _
    · simp only [if_neg empty]
      exact furnished_makeDirectories files parent

/-- Where a file can be read, the directories above it exist. -/
theorem settled_of_fileAt? (found : files.fileAt? path = some content) :
    settled files path = files := by
  obtain ⟨parent, name, left, approach, _⟩ := exists_approach_of_fileAt? found
  rw [settled, makeParents_of_approach approach]

theorem Unsaved.refl (files : FileSystem) (path : Path) : Unsaved files files path :=
  ⟨fun _ _ => .inl rfl, fun _ => id, rfl⟩

theorem unsaved_settled (files : FileSystem) (path : Path) :
    Unsaved files (settled files path) path := by
  have furnished := furnished_settled files path
  refine ⟨fun location _ => furnished.same_or_made location, ?_, furnished.workingDirectory⟩
  intro content found
  rwa [settled_of_fileAt? found]

/-- A save that fails once the path was opened. -/
theorem unsaved_save {fault : StoreFault}
    (plain : (settled files path).isLink (temporaryPath path) = false)
    (failed : save (settled files path) path catalog = (.error fault, after)) :
    Unsaved files after path := by
  have content : ∀ content, files.fileAt? path = some content →
      after.fileAt? path = some content := by
    intro content found
    have same := settled_of_fileAt? found
    rw [same] at plain failed
    rwa [save_of_fileAt? plain found failed]
  have saves := saves_save plain catalog
  rw [failed] at saves
  have furnished := furnished_settled files path
  cases saves with
  | refused => exact unsaved_settled files path
  | @stuck parent _ staged =>
    refine ⟨?_, content, furnished.workingDirectory⟩
    intro location other
    have elsewhere : parent ++ [temporaryName path] ≠ location := by
      rintro rfl
      obtain ⟨_, sibling⟩ := staged.exists_approach
      exact other ((sibling.keep (staged.keeps catalog) rfl).entryAt?)
    rw [node?_staging, if_neg elsewhere]
    apply (furnished.same_or_made location).imp_right
    intro made
    exact made.grow ⟨staged.keeps catalog, rfl⟩

end WorkflowLaunch.Store
