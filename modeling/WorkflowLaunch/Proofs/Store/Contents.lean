import WorkflowLaunch.Proofs.Store.Durability

set_option autoImplicit false

/-!
The content of the file at a path while a catalog is saved to that path. At every moment it is what
it was before or the whole catalog.
-/

namespace WorkflowLaunch.Store

open FileSystem
open WorkflowLaunch.Path (Name Step)

variable {files after : FileSystem} {path : Path} {catalog : Catalog} {holder parent : Location}
  {name : Name} {left : Nat}

theorem fileAt?_staging (staged : Staged files path parent) (catalog : Catalog) (other : Path) :
    (staging files path parent catalog).fileAt? other = files.fileAt? other ∨
      (staging files path parent catalog).fileAt? other = some (saved catalog) := by
  have keeps := staged.keeps catalog
  have kept : Keeps (staging files path parent catalog) files := Staged.kept parent
  cases found : (staging files path parent catalog).fileAt? other with
  | none =>
    apply Or.inl
    apply Eq.symm
    apply Option.eq_none_iff_forall_ne_some.mpr
    intro content held
    obtain ⟨place, file, walked, node⟩ := fileAt?_eq_some_iff.mp held
    have present : ∃ content, (staging files path parent catalog).node? (place ++ [file]) =
        some (.file content) := by
      rw [node?_staging]
      split
      · exact ⟨_, rfl⟩
      · exact ⟨content, node⟩
    obtain ⟨content, node⟩ := present
    have some := fileAt?_eq_some_iff.mpr ⟨place, file, walk_of_keeps keeps kept rfl walked, node⟩
    simp [found] at some
  | some content =>
    obtain ⟨place, file, walked, node⟩ := fileAt?_eq_some_iff.mp found
    rw [node?_staging] at node
    split at node
    · apply Or.inr
      simpa using node.symm
    · apply Or.inl
      have walkedBefore := walk_of_keeps kept keeps rfl walked
      exact (fileAt?_eq_some_iff.mpr ⟨place, file, walkedBefore, node⟩).symm

/-- Following a link on the way to which it was followed already leads to a directory again, or
takes too many links. -/
theorem read_of_passed (approach : Approach files path holder name left) {target : Path}
    {behind : List Step} {remaining : Nat}
    (link : files.node? (holder ++ [name]) = some (.link target))
    (way : Way files remaining (base holder target) (target.steps ++ behind) holder left) :
    files.read path = .error .isDirectory ∨ files.read path = .error .tooManyLinks := by
  have walked := approach.walk .follow
  rw [walkFrom_last, if_neg (by simp), if_neg (Nat.not_lt.mpr approach.short), link] at walked
  simp only [LastLink.follows, if_true] at walked
  cases left with
  | zero =>
    apply Or.inr
    simp [FileSystem.read, walked, onward, bind, Except.bind]
  | succ left =>
    rw [onward, List.append_nil] at walked
    obtain ⟨middle, between, first, _⟩ := way.split
    rcases first.arrives .follow left
      (path.endsInSlash || ([] : List Step).isEmpty && target.endsInSlash) with
      ⟨goal, arrives, stands⟩ | ⟨_, fails⟩
    · apply Or.inl
      rw [arrives] at walked
      cases goal with
      | directory => simp [FileSystem.read, walked, bind, Except.bind]
      | entry place last slash =>
        obtain ⟨node, held, directory⟩ := stands
        simp [FileSystem.read, walked, held, directory rfl, bind, Except.bind]
    · apply Or.inr
      rw [fails] at walked
      simp [FileSystem.read, walked, bind, Except.bind]

theorem fileAt?_of_passed (approach : Approach files path holder name left) {target : Path}
    {behind : List Step} {remaining : Nat}
    (link : files.node? (holder ++ [name]) = some (.link target))
    (way : Way files remaining (base holder target) (target.steps ++ behind) holder left) :
    files.fileAt? path = none := by
  rcases read_of_passed approach link way with directory | links
  · simp [fileAt?, directory, Except.toOption]
  · simp [fileAt?, links, Except.toOption]

theorem fileAt?_moved (catalog : Catalog) (staged : Staged files path parent)
    (noDirectory : files.node? (holder ++ [name]) ≠ some .directory)
    (approach : Approach files path holder name left) (bare : path.endsInSlash = false) :
    (moved files path parent catalog (holder ++ [name])).fileAt? path = some (saved catalog) ∨
      files.isLink path = true ∧ files.fileAt? path = none ∧
        (moved files path parent catalog (holder ++ [name])).fileAt? path = none := by
  rcases stays_or_blocked catalog staged noDirectory approach with
    stays | ⟨⟨target, behind, remaining, link, way⟩, stuck⟩
  · apply Or.inl
    rw [fileAt?, stays.read_file (node?_moved_self ..) bare]
    rfl
  · refine .inr ⟨approach.isLink.mpr ⟨target, link⟩, fileAt?_of_passed approach link way, ?_⟩
    simp [fileAt?, FileSystem.read, stuck, bind, Except.bind, Except.toOption]

/-- Whatever becomes of a save, the file at its path is the one from before or the whole catalog. -/
theorem Saves.fileAt? {result : Except StoreFault Unit}
    (saves : Saves files path catalog (result, after)) :
    after.fileAt? path = files.fileAt? path ∨ after.fileAt? path = some (saved catalog) := by
  cases saves with
  | refused => exact .inl rfl
  | stuck _ staged => exact fileAt?_staging staged catalog path
  | done staged approach bare noDirectory =>
    rcases fileAt?_moved catalog staged noDirectory approach bare with
      whole | ⟨_, before, none⟩
    · exact .inr whole
    · exact .inl (none.trans before.symm)

theorem Saves.fileAt?_of_ok (saves : Saves files path catalog (.ok (), after))
    (direct : files.isLink path = false) : after.fileAt? path = some (saved catalog) := by
  cases saves with
  | done staged approach bare noDirectory =>
    rcases fileAt?_moved catalog staged noDirectory approach bare with
      whole | ⟨link, _⟩
    · exact whole
    · simp [direct] at link

/-- A save makes no directory and no link. -/
theorem Saves.kept {result : Except StoreFault Unit}
    (saves : Saves files path catalog (result, after)) :
    Keeps after files ∧ after.workingDirectory = files.workingDirectory := by
  cases saves with
  | refused => exact ⟨fun _ _ held _ => held, rfl⟩
  | stuck _ staged => exact ⟨Staged.kept _, rfl⟩
  | done staged approach _ _ =>
    refine ⟨?_, rfl⟩
    intro location node held leads
    rw [node?_moved] at held
    split at held
    · obtain rfl := Option.some.inj held
      simp [Node.isFile] at leads
    · split at held
      · simp at held
      · exact held

theorem Saves.isLink {result : Except StoreFault Unit}
    (saves : Saves files path catalog (result, after)) {other : Path}
    (plain : files.isLink other = false) : after.isLink other = false := by
  obtain ⟨kept, sameBase⟩ := saves.kept
  rw [Bool.eq_false_iff]
  intro linked
  cases named : after.entryAt? other with
  | none => simp [FileSystem.isLink, named] at linked
  | some location =>
    obtain ⟨_, _, _, approach, rfl⟩ := entryAt?_eq_some_iff.mp named
    obtain ⟨target, link⟩ := approach.isLink.mp linked
    have earlier := approach.keep kept sameBase.symm
    exact earlier.node?_ne_link plain target (kept _ _ link rfl)

/-- The files between the two calls of a flush. -/
def midway (files : FileSystem) (store : Store) : FileSystem :=
  match store.path with
  | none => files
  | some path => (files.write (temporaryPath path) (saved store.catalog)).2

theorem fileAt?_midway (plain : files.isLink (temporaryPath path) = false) (catalog : Catalog) :
    (midway files ⟨some path, catalog⟩).fileAt? path = files.fileAt? path ∨
      (midway files ⟨some path, catalog⟩).fileAt? path = some (saved catalog) := by
  simp only [midway]
  rcases write_temporary plain catalog with ⟨fault, written⟩ | ⟨parent, staged, written⟩
  · exact .inl (by rw [written])
  · rw [written]
    exact fileAt?_staging staged catalog path

end WorkflowLaunch.Store
