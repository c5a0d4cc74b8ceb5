import WorkflowLaunch.Proofs.Catalog.Codec
import WorkflowLaunch.Proofs.FileSystem.Directories
import WorkflowLaunch.Proofs.Store.Saving

set_option autoImplicit false

/-!
A flush replaces the whole entry that a path names, or leaves it as it was. What was flushed is read
back through the same path, unless the path led through the very link that the flush replaced.
-/

namespace WorkflowLaunch.Store

open FileSystem
open WorkflowLaunch.Path (Name Step)

variable {files after : FileSystem} {path : Path} {catalog : Catalog} {holder : Location}
  {name : Name} {left : Nat}

/-- Where the entry of a path can be reached, no directory above it is missing. -/
theorem makeParents_of_approach (approach : Approach files path holder name left) :
    makeParents files path = (.ok (), files) := by
  rw [makeParents]
  cases found : path.parent? with
  | none => rfl
  | some parent =>
    simp only
    split
    · rfl
    · next nonempty =>
      have above := Path.above_of_parent? found
      exact makeDirectories_of_hasWay (approach.hasWay_above above nonempty)

/-- A saved catalog is loaded from where it can be reached. -/
theorem openFile_of_approach (approach : Approach files path holder name left)
    (held : files.node? (holder ++ [name]) = some (.file (saved catalog)))
    (bare : path.endsInSlash = false) :
    openFile files path = (.ok ⟨some path, catalog⟩, files) := by
  have text : files.readText path = .ok catalog.encodePretty := by
    rw [readText, approach.read_file held bare]
    simp [bind, Except.bind, saved]
  have loaded : load files path = .ok catalog := by
    rw [load, text]
    simp [catalogOf, Catalog.blank_encodePretty, Catalog.decode_encodePretty, Except.mapError]
  rw [openFile, makeParents_of_approach approach]
  simp [loaded]

/-- The way to the entry of a path leads through that entry, which is a link then: without it the
path names nothing there. -/
def LeadsThroughItself (files : FileSystem) (path : Path) : Prop :=
  ∃ entry, files.entryAt? path = some entry ∧ (files.erase entry).entryAt? path ≠ some entry

/-- The directories and links after a save are those that are left without the replaced entry. -/
theorem erase_keeps_moved (catalog : Catalog) {parent : Location} :
    Keeps (moved files path parent catalog (holder ++ [name]))
      (files.erase (holder ++ [name])) := by
  intro location node held leads
  rw [node?_moved] at held
  split at held
  · obtain rfl := Option.some.inj held
    simp [Node.isFile] at leads
  · next elsewhere =>
    split at held
    · simp at held
    · rw [node?_erase _ _ (by simp), if_neg elsewhere, held]

section Moved

variable (catalog) {parent : Location} (staged : Staged files path parent)

include staged

/-- What a save changes is no part of a way, apart from a link at the entry that it replaces. -/
theorem keeps_moved (location : Location) (node : Node) (elsewhere : location ≠ holder ++ [name])
    (held : files.node? location = some node) (leads : node.isFile = false) :
    (moved files path parent catalog (holder ++ [name])).node? location = some node := by
  rw [node?_moved, if_neg (Ne.symm elsewhere), if_neg, held]
  rintro rfl
  rw [staged.vacant node held] at leads
  simp at leads

theorem moved_keeps_erase :
    Keeps (files.erase (holder ++ [name]))
      (moved files path parent catalog (holder ++ [name])) := by
  intro location node held leads
  rw [node?_erase _ _ (by simp)] at held
  split at held
  · simp at held
  · next apart => exact keeps_moved catalog staged location node (Ne.symm apart) held leads

variable (noDirectory : files.node? (holder ++ [name]) ≠ some .directory)

include noDirectory

theorem approach_moved_iff (approach : Approach files path holder name left) :
    Approach (moved files path parent catalog (holder ++ [name])) path holder name left ↔
      ¬LeadsThroughItself files path := by
  constructor
  · rintro stays ⟨entry, named, different⟩
    rw [approach.entryAt?] at named
    obtain rfl := Option.some.inj named
    exact different (stays.keep (erase_keeps_moved catalog) rfl).entryAt?
  · intro direct
    obtain ⟨front, steps, way⟩ := approach.exists_way
    rcases way.keep_or_erase (by simp) noDirectory with stays | ⟨_, stuck⟩
    · have reached := stays.keep (moved_keeps_erase catalog staged)
      exact ⟨approach.valid, approach.short, front, steps, reached⟩
    · refine absurd ⟨holder ++ [name], approach.entryAt?, ?_⟩ direct
      have fails : (files.erase (holder ++ [name])).walk .keep path = .error .notFound := by
        rw [walk_eq_walkFrom approach.valid, steps]
        exact stuck _ _ _ (by simp)
      simp [FileSystem.entryAt?, fails]

/-- The entry that a path named can still be reached after a save, or its link was on the way. -/
theorem stays_or_blocked (approach : Approach files path holder name left) :
    Approach (moved files path parent catalog (holder ++ [name])) path holder name left ∨
      (∃ target behind remaining, files.node? (holder ++ [name]) = some (.link target) ∧
        Way files remaining (base holder target) (target.steps ++ behind) holder left) ∧
      ∀ last, (moved files path parent catalog (holder ++ [name])).walk last path =
        .error .notDirectory := by
  obtain ⟨front, steps, way⟩ := approach.exists_way
  have blocked : blockage
      ((moved files path parent catalog (holder ++ [name])).node? (holder ++ [name])) =
      some .notDirectory := by
    rw [node?_moved_self]
    rfl
  rcases way.keep_or_block (keeps_moved catalog staged) noDirectory blocked with
    stays | ⟨⟨parent, held, target, behind, remaining, same, link, behindWay⟩, stuck⟩
  · exact .inl ⟨approach.valid, approach.short, front, steps, stays⟩
  · obtain ⟨rfl, _⟩ := List.append_inj' same rfl
    refine .inr ⟨⟨target, behind, remaining, link, behindWay⟩, ?_⟩
    intro last
    rw [walk_eq_walkFrom approach.valid, steps]
    exact stuck _ _ _ (by simp)

/-- What was saved is found again, or its path leads nowhere any more. -/
theorem openFile_moved (approach : Approach files path holder name left)
    (bare : path.endsInSlash = false) :
    openFile (moved files path parent catalog (holder ++ [name])) path =
        (.ok ⟨some path, catalog⟩, moved files path parent catalog (holder ++ [name])) ↔
      ¬LeadsThroughItself files path := by
  rw [← approach_moved_iff catalog staged noDirectory approach]
  constructor
  · intro reopened
    rcases stays_or_blocked catalog staged noDirectory approach with
      stays | ⟨_, stuck⟩
    · exact stays
    · have unread : load (moved files path parent catalog (holder ++ [name])) path =
          .error (.access path .notDirectory) := by
        simp [load, readText, FileSystem.read, stuck, bind, Except.bind]
      rw [openFile] at reopened
      split at reopened
      · simp at reopened
      · next parents made =>
        split at reopened
        · next loaded found =>
          obtain rfl := (Prod.mk.inj reopened).2
          rw [found] at unread
          simp at unread
        · simp at reopened
  · intro stays
    exact openFile_of_approach stays (node?_moved_self ..) bare

end Moved

/-- A flush that succeeded: the entry of the path holds the catalog and the temporary sibling is
gone. -/
structure Replaced (files after : FileSystem) (path : Path) (catalog : Catalog)
    (entry sibling : Location) : Prop where
  named : files.entryAt? path = some entry
  namedSibling : files.entryAt? (temporaryPath path) = some sibling
  content : after.node? entry = some (.file (saved catalog))
  gone : after.node? sibling = none
  elsewhere : ∀ location, location ≠ entry → location ≠ sibling →
    after.node? location = files.node? location
  workingDirectory : after.workingDirectory = files.workingDirectory

/-- A flush that failed: nothing differs but the temporary sibling. -/
structure Spared (files after : FileSystem) (path : Path) : Prop where
  named : after.entryAt? path = files.entryAt? path
  entry : ∀ location, files.entryAt? path = some location →
    after.node? location = files.node? location
  elsewhere : ∀ location, files.entryAt? (temporaryPath path) ≠ some location →
    after.node? location = files.node? location
  workingDirectory : after.workingDirectory = files.workingDirectory

theorem Spared.refl (files : FileSystem) (path : Path) : Spared files files path :=
  ⟨rfl, fun _ _ => rfl, fun _ _ => rfl, rfl⟩

theorem spared_staging {parent : Location} (staged : Staged files path parent)
    (catalog : Catalog) : Spared files (staging files path parent catalog) path := by
  obtain ⟨left, sibling⟩ := staged.exists_approach
  refine ⟨staged.entryAt? path, ?_, ?_, rfl⟩
  · intro location named
    obtain ⟨holder, name, _, approach, rfl⟩ := entryAt?_eq_some_iff.mp named
    rw [node?_staging, if_neg (ne_temporary _ approach).symm]
  · intro location other
    rw [node?_staging, if_neg]
    rintro rfl
    exact other sibling.entryAt?

theorem replaced_moved {parent : Location} (staged : Staged files path parent)
    (approach : Approach files path holder name left) (catalog : Catalog) :
    Replaced files (moved files path parent catalog (holder ++ [name])) path catalog
      (holder ++ [name]) (parent ++ [temporaryName path]) := by
  obtain ⟨_, sibling⟩ := staged.exists_approach
  refine ⟨approach.entryAt?, sibling.entryAt?, node?_moved_self .., ?_, ?_, rfl⟩
  · rw [node?_moved, if_neg (ne_temporary _ approach), if_pos rfl]
  · intro location notEntry notSibling
    rw [node?_moved, if_neg (Ne.symm notEntry), if_neg (Ne.symm notSibling)]

/-- With no link at the temporary sibling, a flush is all or nothing. What it wrote is opened again
with the same catalog and without a change to the files, exactly if the path does not lead through
the entry that was replaced. A store in memory is flushed without any effect. -/
theorem flush_all_or_nothing (files : FileSystem) (path : Path) (catalog : Catalog)
    (plain : files.isLink (temporaryPath path) = false) :
    flush files ⟨none, catalog⟩ = (.ok (), files) ∧
      (∀ after, flush files ⟨some path, catalog⟩ = (.ok (), after) →
        (∃ entry sibling, Replaced files after path catalog entry sibling) ∧
          (¬LeadsThroughItself files path → after.entryAt? path = files.entryAt? path) ∧
          (openAt after (.file path) = (.ok ⟨some path, catalog⟩, after) ↔
            ¬LeadsThroughItself files path)) ∧
      ∀ fault after, flush files ⟨some path, catalog⟩ = (.error fault, after) →
        Spared files after path := by
  have saves : Saves files path catalog (flush files ⟨some path, catalog⟩) :=
    saves_save plain catalog
  refine ⟨rfl, ?_, ?_⟩
  · intro after flushed
    rw [flushed] at saves
    cases saves with
    | done staged approach bare noDirectory =>
      refine ⟨⟨_, _, replaced_moved staged approach catalog⟩, ?_,
        openFile_moved catalog staged noDirectory approach bare⟩
      intro direct
      have stays := (approach_moved_iff catalog staged noDirectory approach).mpr direct
      rw [stays.entryAt?, approach.entryAt?]
  · intro fault after flushed
    rw [flushed] at saves
    cases saves with
    | refused => exact .refl files path
    | stuck _ staged => exact spared_staging staged catalog

/-- A database in the working directory. -/
theorem flush_in_working_directory :
    FileSystem.start.isLink (temporaryPath (.ofString "db")) = false ∧
      (flush FileSystem.start ⟨some (.ofString "db"), ⟨["default"], ∅⟩⟩).1 = .ok () ∧
      ∀ after, flush FileSystem.start ⟨some (.ofString "db"), ⟨["default"], ∅⟩⟩ = (.ok (), after) →
        ∃ entry sibling,
          Replaced FileSystem.start after (.ofString "db") ⟨["default"], ∅⟩ entry sibling := by
  have plain : FileSystem.start.isLink (temporaryPath (.ofString "db")) = false := by decide
  obtain ⟨_, flushed, _⟩ := flush_all_or_nothing _ _ ⟨["default"], ∅⟩ plain
  exact ⟨plain, by decide, fun after done => (flushed after done).1⟩

/-- A link to its own directory, named through itself, is replaced by the file. The path then leads
through that file, and opening it fails. -/
theorem flush_through_link_to_itself :
    let files := FileSystem.start.put [Octets.ofString "work", Octets.ofString "x"]
      (.link (.ofString "."))
    let path : Path := .ofString "x/x"
    let outcome := flush files ⟨some path, ⟨["n"], ∅⟩⟩
    files.isLink (temporaryPath path) = false ∧ outcome.1 = .ok () ∧
      (openAt outcome.2 (.file path)).1 = .error (.access path .alreadyExists) := by
  decide

end WorkflowLaunch.Store
