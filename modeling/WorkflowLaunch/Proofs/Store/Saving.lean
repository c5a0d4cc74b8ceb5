import WorkflowLaunch.Proofs.FileSystem.Entries
import WorkflowLaunch.Proofs.Path.Steps
import WorkflowLaunch.Store

set_option autoImplicit false

/-!
What a save can do. Either the temporary sibling cannot be written and nothing changes, or it is
written and then stays where it is or takes the place of the entry that the path names. The sibling
never has the location of that entry, since its name is longer.
-/

namespace WorkflowLaunch.Store

open FileSystem
open WorkflowLaunch.Path (Name Step)

/-- The name of the temporary sibling of a path. -/
def temporaryName (path : Path) : Name := path.fileName?.getD [] ++ Octets.ofString ".tmp"

theorem ofString_tmp : Octets.ofString ".tmp" = [46, 116, 109, 112] := by decide

theorem exists_temporary_steps (path : Path) :
    ∃ front, (temporaryPath path).steps = front ++ [.down (temporaryName path)] := by
  apply Path.steps_withFileName path
  · cases name : path.fileName? with
    | none => simp [ofString_tmp, Path.slash]
    | some name => simpa [ofString_tmp, Path.slash] using Path.slash_not_mem_fileName name
  · simp [ofString_tmp]

variable {files : FileSystem} {path : Path} {catalog : Catalog}

/-- The sibling's location is not the one of the entry that the path names. -/
theorem ne_temporary (parent : Location) {holder : Location} {name : Name} {left : Nat}
    (approach : Approach files path holder name left) :
    holder ++ [name] ≠ parent ++ [temporaryName path] := by
  obtain ⟨front, steps, _⟩ := approach.exists_way
  intro same
  have names : name = temporaryName path := by simpa using (List.append_inj' same rfl).2
  rw [temporaryName, Path.fileName?_of_steps steps] at names
  have lengths := congrArg List.length names
  simp [ofString_tmp] at lengths

/-- A temporary sibling can be written in a directory: nothing but a file stands in its place. -/
structure Staged (files : FileSystem) (path : Path) (parent : Location) : Prop where
  exists_approach : ∃ left, Approach files (temporaryPath path) parent (temporaryName path) left
  vacant : ∀ node, files.node? (parent ++ [temporaryName path]) = some node → node.isFile = true

/-- The octets of a saved catalog. -/
def saved (catalog : Catalog) : Octets := Octets.ofString catalog.encodePretty

/-- The files while a catalog stands at its temporary sibling only. -/
def staging (files : FileSystem) (path : Path) (parent : Location) (catalog : Catalog) :
    FileSystem :=
  files.put (parent ++ [temporaryName path]) (.file (saved catalog))

/-- The files once the sibling was moved to its place. -/
def moved (files : FileSystem) (path : Path) (parent : Location) (catalog : Catalog)
    (target : Location) : FileSystem :=
  ((staging files path parent catalog).erase (parent ++ [temporaryName path])).put target
    (.file (saved catalog))

theorem node?_staging (files : FileSystem) (path : Path) (parent location : Location)
    (catalog : Catalog) :
    (staging files path parent catalog).node? location =
      if parent ++ [temporaryName path] = location then some (.file (saved catalog))
      else files.node? location :=
  node?_put _ _ _ (by simp)

theorem node?_moved (files : FileSystem) (path : Path) (parent holder location : Location)
    (name : Name) (catalog : Catalog) :
    (moved files path parent catalog (holder ++ [name])).node? location =
      if holder ++ [name] = location then some (.file (saved catalog))
      else if parent ++ [temporaryName path] = location then none
      else files.node? location := by
  rw [moved, node?_put _ _ _ (by simp), node?_erase _ _ (by simp), node?_staging]
  split
  · rfl
  · split <;> rfl

@[simp] theorem node?_moved_self (files : FileSystem) (path : Path) (parent holder : Location)
    (name : Name) (catalog : Catalog) :
    (moved files path parent catalog (holder ++ [name])).node? (holder ++ [name]) =
      some (.file (saved catalog)) := by
  rw [node?_moved, if_pos rfl]

theorem Staged.keeps {parent : Location} (staged : Staged files path parent) (catalog : Catalog) :
    Keeps files (staging files path parent catalog) := by
  intro location node held leads
  rw [node?_staging, if_neg, held]
  rintro rfl
  rw [staged.vacant node held] at leads
  simp at leads

theorem Staged.kept (parent : Location) :
    Keeps (staging files path parent catalog) files := by
  intro location node held leads
  rw [node?_staging] at held
  split at held
  · obtain rfl := Option.some.inj held
    simp [Node.isFile] at leads
  · exact held

theorem Staged.entryAt? {parent : Location} (staged : Staged files path parent) (other : Path) :
    (staging files path parent catalog).entryAt? other = files.entryAt? other :=
  entryAt?_congr (staged.keeps catalog) (Staged.kept parent) rfl other

/-- Everything that a save can end with. -/
inductive Saves (files : FileSystem) (path : Path) (catalog : Catalog) :
    Except StoreFault Unit × FileSystem → Prop where
  | refused (fault : FileFault) : Saves files path catalog (.error (.access path fault), files)
  | stuck {parent : Location} (fault : FileFault) (staged : Staged files path parent) :
      Saves files path catalog (.error (.access path fault), staging files path parent catalog)
  | done {parent holder : Location} {name : Name} {left : Nat}
      (staged : Staged files path parent) (approach : Approach files path holder name left)
      (bare : path.endsInSlash = false)
      (noDirectory : files.node? (holder ++ [name]) ≠ some .directory) :
      Saves files path catalog (.ok (), moved files path parent catalog (holder ++ [name]))

theorem endsInSlash_temporaryPath (path : Path) : (temporaryPath path).endsInSlash = false := by
  obtain ⟨front, octets⟩ := Path.exists_octets_withFileName path (temporaryName path)
  have named : (temporaryPath path).octets = front ++ temporaryName path := octets
  rw [Path.endsInSlash, named, temporaryName, ofString_tmp]
  simp [Path.slash]

/-- Writing the sibling of a path, at which no link stands. -/
theorem write_temporary (plain : files.isLink (temporaryPath path) = false) (catalog : Catalog) :
    (∃ fault, files.write (temporaryPath path) (saved catalog) = (.error fault, files)) ∨
      ∃ parent, Staged files path parent ∧
        files.write (temporaryPath path) (saved catalog) =
          (.ok (), staging files path parent catalog) := by
  obtain ⟨front, steps⟩ := exists_temporary_steps path
  have bare := endsInSlash_temporaryPath path
  cases walked : files.walk .followBare (temporaryPath path) with
  | error fault => exact .inl ⟨fault, by simp [write, writeLocation, walked, bind, Except.bind]⟩
  | ok goal =>
    obtain ⟨parent, left, way, final⟩ := exists_way_of_walk walked steps
    have short := short_of_walkFrom_last _ _ _ _ _ (by simp [bare]) final
    have approach : Approach files (temporaryPath path) parent (temporaryName path) left :=
      ⟨pathFault?_of_walk walked, short, front, steps, way⟩
    have goal := approach.walk_bare plain .followBare bare
    by_cases directory : files.node? (parent ++ [temporaryName path]) = some .directory
    · refine .inl ⟨.isDirectory, ?_⟩
      simp [write, writeLocation, goal, bind, Except.bind, directory]
    · refine .inr ⟨parent, ⟨⟨left, approach⟩, ?_⟩, ?_⟩
      · intro node held
        cases node with
        | directory => exact absurd held directory
        | file content => rfl
        | link target => exact absurd held (approach.node?_ne_link plain target)
      · simp [write, writeLocation, goal, bind, Except.bind, directory, staging]

/-- A written sibling can be moved to a path that names an entry other than a directory. -/
theorem rename_of_approach {parent holder : Location} {name : Name} {left : Nat}
    (staged : Staged files path parent) (catalog : Catalog)
    (approach : Approach files path holder name left) (bare : path.endsInSlash = false)
    (noDirectory : files.node? (holder ++ [name]) ≠ some .directory) :
    (staging files path parent catalog).rename (temporaryPath path) path =
      (.ok (), moved files path parent catalog (holder ++ [name])) := by
  obtain ⟨_, sibling⟩ := staged.exists_approach
  have source := (sibling.keep (staged.keeps catalog) rfl).walk_keep
  have target := (approach.keep (staged.keeps catalog) rfl).walk_keep
  have written : (staging files path parent catalog).node? (parent ++ [temporaryName path]) =
      some (.file (saved catalog)) := by
    rw [node?_staging, if_pos rfl]
  simp only [rename, renameEnds, source, target, bind, Except.bind, written,
    endsInSlash_temporaryPath, bare]
  rw [node?_staging, if_neg (ne_temporary parent approach).symm, if_neg (by simp),
    if_neg noDirectory]
  rfl

/-- Moving the written sibling to its path. -/
theorem rename_temporary {parent : Location} (staged : Staged files path parent)
    (catalog : Catalog) :
    (∃ fault, (staging files path parent catalog).rename (temporaryPath path) path =
        (.error fault, staging files path parent catalog)) ∨
      ∃ holder name left, Approach files path holder name left ∧ path.endsInSlash = false ∧
        files.node? (holder ++ [name]) ≠ some .directory ∧
        (staging files path parent catalog).rename (temporaryPath path) path =
          (.ok (), moved files path parent catalog (holder ++ [name])) := by
  obtain ⟨left, source⟩ := staged.exists_approach
  have source := (source.keep (staged.keeps catalog) rfl).walk_keep
  have written : (staging files path parent catalog).node? (parent ++ [temporaryName path]) =
      some (.file (saved catalog)) := by
    rw [node?_staging, if_pos rfl]
  cases ends : (staging files path parent catalog).renameEnds (temporaryPath path) path with
  | error fault => exact .inl ⟨fault, by rw [rename, ends]⟩
  | ok result =>
    apply Or.inr
    cases walked : (staging files path parent catalog).walk .keep path with
    | error fault => simp [renameEnds, source, walked, bind, Except.bind] at ends
    | ok goal =>
      cases goal with
      | directory there => simp [renameEnds, source, walked, bind, Except.bind] at ends
      | entry holder name slash =>
        obtain ⟨rfl, left, approach⟩ := approach_of_walk_keep walked
        have approach := approach.keep (Staged.kept parent) rfl
        have apart := ne_temporary parent approach
        simp only [renameEnds, source, walked, bind, Except.bind, written] at ends
        rw [node?_staging, if_neg (Ne.symm apart)] at ends
        split at ends
        · simp at ends
        · next bare =>
          split at ends
          · simp at ends
          · next noDirectory =>
            have bare : path.endsInSlash = false := by
              rw [Bool.not_eq_true, Bool.or_eq_false_iff] at bare
              exact bare.2
            exact ⟨holder, name, left, approach, bare, noDirectory,
              rename_of_approach staged catalog approach bare noDirectory⟩

/-- Where a file can be read, a save that fails has not changed anything. -/
theorem save_of_fileAt? (plain : files.isLink (temporaryPath path) = false) {content : Octets}
    (found : files.fileAt? path = some content) {fault : StoreFault} {after : FileSystem}
    (failed : save files path catalog = (.error fault, after)) : after = files := by
  obtain ⟨holder, name, left, approach, bare, noDirectory⟩ := exists_approach_of_fileAt? found
  have octets : Octets.ofString catalog.encodePretty = saved catalog := rfl
  rw [save, octets] at failed
  rcases write_temporary plain catalog with ⟨refusal, written⟩ | ⟨parent, staged, written⟩
  · rw [written] at failed
    exact (Prod.mk.inj failed).2.symm
  · simp only [written, rename_of_approach staged catalog approach bare noDirectory] at failed
    simp at failed

theorem saves_save (plain : files.isLink (temporaryPath path) = false) (catalog : Catalog) :
    Saves files path catalog (save files path catalog) := by
  rw [save]
  rcases write_temporary plain catalog with ⟨fault, written⟩ | ⟨parent, staged, written⟩
  · rw [saved] at written
    rw [written]
    exact .refused fault
  · rw [saved] at written
    rw [written]
    rcases rename_temporary staged catalog with
      ⟨fault, renamed⟩ | ⟨holder, name, left, approach, bare, noDirectory, renamed⟩
    · simp only [renamed]
      exact .stuck fault staged
    · simp only [renamed]
      exact .done staged approach bare noDirectory

end WorkflowLaunch.Store
