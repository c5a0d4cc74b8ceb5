import WorkflowLaunch.Proofs.Path.Components
import WorkflowLaunch.Proofs.Store.Saving

set_option autoImplicit false

/-!
The temporary file beside a database. Its path is the one of the database with a longer file name,
so the database's path can be read off it, and two databases never share one.
-/

namespace WorkflowLaunch.Store

open WorkflowLaunch.Path (Component Name)

variable {path : Path} {name : Name}

theorem fileName?_temporaryPath (path : Path) :
    (temporaryPath path).fileName? = some (temporaryName path) := by
  obtain ⟨front, steps⟩ := exists_temporary_steps path
  exact Path.fileName?_of_steps steps

/-- What stands in front of the file name stays, and the name becomes longer. -/
theorem exists_components_temporaryPath (named : path.fileName? = some name) :
    ∃ parent, path.parent? = some parent ∧
      path.components = parent.components ++ [.normal name] ∧
      (temporaryPath path).components =
        parent.components ++ [.normal (name ++ Octets.ofString ".tmp")] := by
  obtain ⟨parent, found, components⟩ := Path.components_of_fileName? named
  refine ⟨parent, found, components, ?_⟩
  have plain : Path.slash ∉ name ++ Octets.ofString ".tmp" := by
    simpa [ofString_tmp, Path.slash] using Path.slash_not_mem_fileName named
  have long : 2 < (name ++ Octets.ofString ".tmp").length := by simp [ofString_tmp]
  rw [temporaryPath, Path.withFileName, named, found]
  exact Path.components_join parent plain long

/-- The temporary file of a path with a file name stands in the same directory, has the whole name
with `.tmp` behind it, and is not the path itself. Two such paths have the same temporary file only
if they are the same path. Paths are compared by their components. -/
theorem temporaryPath_beside (named : path.fileName? = some name) :
    (temporaryPath path).fileName? = some (name ++ Octets.ofString ".tmp") ∧
      (∃ parent holder, path.parent? = some parent ∧ (temporaryPath path).parent? = some holder ∧
        holder.components = parent.components) ∧
      (temporaryPath path).components ≠ path.components ∧
      ∀ other otherName, other.fileName? = some otherName →
        ((temporaryPath path).components = (temporaryPath other).components ↔
          path.components = other.components) := by
  obtain ⟨parent, found, whole, beside⟩ := exists_components_temporaryPath named
  have longer : (temporaryPath path).fileName? = some (name ++ Octets.ofString ".tmp") := by
    rw [fileName?_temporaryPath, temporaryName, named, Option.getD_some]
  refine ⟨longer, ?_, ?_, ?_⟩
  · obtain ⟨holder, above, split⟩ := Path.components_of_fileName? longer
    rw [beside] at split
    exact ⟨parent, holder, found, above, (List.append_inj_left' split rfl).symm⟩
  · rw [beside, whole]
    intro same
    have names := List.append_inj_right' same rfl
    simp [ofString_tmp] at names
  · intro other otherName otherNamed
    obtain ⟨otherParent, _, otherWhole, otherBeside⟩ := exists_components_temporaryPath otherNamed
    rw [beside, otherBeside, whole, otherWhole]
    simp

/-- A name that is no text, ends in `.tmp` and has a slash behind it. -/
theorem temporaryPath_beside_temporary :
    let path : Path := ⟨[46, 47, 47, 255, 46, 116, 109, 112, 47]⟩
    let other : Path := ⟨[46, 47, 255]⟩
    path.fileName? = some [255, 46, 116, 109, 112] ∧ other.fileName? = some [255] ∧
      (temporaryPath path).fileName? =
        some ([255, 46, 116, 109, 112] ++ Octets.ofString ".tmp") ∧
      (temporaryPath other).components = path.components ∧
      (temporaryPath path).components ≠ path.components ∧
      (temporaryPath path).components ≠ (temporaryPath other).components := by
  intro path other
  have named : path.fileName? = some [255, 46, 116, 109, 112] := by decide
  have otherNamed : other.fileName? = some [255] := by decide
  obtain ⟨longer, _, different, shared⟩ := temporaryPath_beside named
  refine ⟨named, otherNamed, longer, by decide, different, ?_⟩
  intro same
  exact absurd ((shared other _ otherNamed).mp same) (by decide)

end WorkflowLaunch.Store
