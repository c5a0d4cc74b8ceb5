import WorkflowLaunch.Proofs.FileSystem.Places
import WorkflowLaunch.Proofs.Store.Answers

set_option autoImplicit false

/-!
Two databases in files without links. A flush touches the place of its own database and the one of
the temporary sibling, so that a database at any other place is opened again as before. Nothing
keeps a database from standing at the place of another one's sibling.
-/

namespace WorkflowLaunch.Store

open FileSystem
open WorkflowLaunch.Path (Name Step)

variable {files after : FileSystem} {path other : Path} {catalog : Catalog}
  {result : Except StoreFault Unit} {store neighbour : Store}

/-- A store was opened on a path, and since then nothing that leads anywhere was taken away. -/
structure Opened (files : FileSystem) (path : Path) (store : Store) : Prop where
  backed : store.path = some path
  earlier : ∃ before opened catalog,
    openAt before (.file path) = (.ok ⟨some path, catalog⟩, opened) ∧ Grown opened files

theorem Opened.ready (opened : Opened files path store) : Ready files path := by
  obtain ⟨_, _, _, opening, grown⟩ := opened.earlier
  exact (openFile_ok opening).1.keep grown.keeps grown.workingDirectory

theorem opened_of_ready (ready : Ready files path)
    (answer : (openAt files (.file path)).1 = .ok ⟨some path, catalog⟩) (later : Catalog) :
    Opened files path ⟨some path, later⟩ := by
  refine ⟨rfl, files, files, catalog, ?_, .refl files⟩
  rw [openAt, openFile_of_ready ready] at answer ⊢
  exact congrArg (·, files) answer

/-- Where the directories above a path exist, it leads to a directory or ends at a name in one. -/
theorem hasWay_or_ends (ready : Ready files path) (valid : pathFault? path = none) :
    HasWay files path ∨ ∃ parent name behind, Ends files path parent name behind := by
  by_cases empty : path.body = []
  · exact .inl ⟨valid, _, _, .idle fun step => Path.eq_here_of_body_eq_nil empty⟩
  · obtain ⟨upper, idle, step, behind, found, above, before, leads, still, steps⟩ :=
      Path.exists_last_step empty
    have exists_way : ∃ there left,
        Way files 40 (base files.workingDirectory path) upper.steps there left := by
      rcases ready upper found with none | ⟨_, there, left, way⟩
      · obtain ⟨octets⟩ := upper
        obtain rfl : octets = [] := none
        exact ⟨_, _, .done⟩
      · rw [base_of_above above] at way
        exact ⟨there, left, way⟩
    obtain ⟨there, left, way⟩ := exists_way
    have way := way.append (Way.idle before)
    rw [← List.append_assoc] at steps
    cases step with
    | here => exact absurd rfl leads
    | up => exact .inl ⟨valid, _, _, steps ▸ way.append (.up (.idle still))⟩
    | down name => exact .inr ⟨there, name, behind, valid, still, _, left, steps, way⟩

/-- Where the directories above a path exist, what is read there is decided at its place. -/
theorem read_of_ready (ready : Ready files path) (linkless : Linkless files)
    (linklessAfter : Linkless after) (grown : Grown files after)
    (same : ∀ location, files.place? path = some location →
      after.node? location = files.node? location) :
    after.read path = files.read path := by
  cases fault : pathFault? path with
  | some fault => simp [FileSystem.read, walk, fault, bind, Except.bind]
  | none =>
    rcases hasWay_or_ends ready fault with hasWay | ⟨parent, name, behind, ends⟩
    · have later := hasWay.keep grown.keeps grown.workingDirectory
      rw [read_of_hasWay hasWay, read_of_hasWay later]
    · have later := ends.keep grown.keeps grown.workingDirectory
      rw [ends.read (linkless _), later.read (linklessAfter _)]
      split
      · rfl
      · next short => rw [same _ (by rw [ends.place?, if_neg short])]

theorem Saves.linkless (saves : Saves files path catalog (result, after))
    (linkless : Linkless files) : Linkless after := by
  intro location target link
  exact linkless location target (saves.kept.1 location _ link rfl)

/-- A save touches two places. -/
theorem Saves.elsewhere (saves : Saves files path catalog (result, after)) {location : Location}
    (notEntry : files.place? path ≠ some location)
    (notSibling : files.place? (temporaryPath path) ≠ some location) :
    after.node? location = files.node? location := by
  cases saves with
  | refused => rfl
  | stuck _ staged =>
    obtain ⟨_, sibling⟩ := staged.exists_approach
    rw [node?_staging, if_neg]
    rintro rfl
    exact notSibling sibling.place?
  | done staged approach _ _ =>
    obtain ⟨_, sibling⟩ := staged.exists_approach
    rw [node?_moved, if_neg, if_neg]
    · rintro rfl
      exact notSibling sibling.place?
    · rintro rfl
      exact notEntry approach.place?

/-- Of two databases at different places, the flush of one, whatever becomes of it, leaves the file
of the other as it was, and the other is opened again as before, unless it stands at the place of
the temporary sibling. -/
theorem flush_spares_neighbour (linkless : Linkless files) (opened : Opened files path store)
    (openedToo : Opened files other neighbour)
    (apart : files.place? path ≠ files.place? other)
    (clear : files.place? (temporaryPath path) ≠ files.place? other)
    (flushed : store.flush files = (result, after)) :
    (∀ location, files.place? other = some location →
      after.node? location = files.node? location) ∧
    after.fileAt? other = files.fileAt? other ∧
    openAt after (.file other) = ((openAt files (.file other)).1, after) := by
  have saves := saves_flush opened.backed (linkless.isLink _)
  rw [flushed] at saves
  obtain ⟨keeps, sameBase⟩ := saves.keeps (linkless.isLink path)
  have same : ∀ location, files.place? other = some location →
      after.node? location = files.node? location := by
    intro location place
    rw [place] at apart clear
    exact saves.elsewhere apart clear
  have ready := openedToo.ready
  have read : after.read other = files.read other :=
    read_of_ready ready linkless (saves.linkless linkless) ⟨keeps, sameBase⟩ same
  refine ⟨same, by rw [fileAt?, read, fileAt?], ?_⟩
  have loaded : load after other = load files other := by simp only [load, readText, read]
  rw [openAt, openAt, openFile_of_ready (ready.keep keeps sameBase), openFile_of_ready ready,
    loaded]

/-- A database with the name of another one's sibling is flushed beside that one. -/
theorem flush_spares_neighbour_of_sibling :
    let path : Path := .ofString "db.tmp"
    let other : Path := .ofString "db"
    let files := FileSystem.start.put [Octets.ofString "work", Octets.ofString "db"]
      (.file (saved ⟨["kept"], ∅⟩))
    let store : Store := ⟨some path, ⟨["new"], ∅⟩⟩
    let outcome := store.flush files
    outcome.1 = .ok () ∧ outcome.2.fileAt? other = files.fileAt? other ∧
      (openAt outcome.2 (.file other)).1 = .ok ⟨some other, ⟨["kept"], ∅⟩⟩ := by
  intro path other files store outcome
  have linkless : Linkless files := linkless_start.put _ (by simp)
  have vacant : (openAt files (.file path)).1 = .ok ⟨some path, ∅⟩ := by decide
  have kept : (openAt files (.file other)).1 = .ok ⟨some other, ⟨["kept"], ∅⟩⟩ := by decide
  have opened : Opened files path store := opened_of_ready (ready_of_makeParents rfl) vacant _
  have openedToo : Opened files other ⟨some other, ⟨["kept"], ∅⟩⟩ :=
    opened_of_ready (ready_of_makeParents rfl) kept _
  have flushed : store.flush files = (outcome.1, outcome.2) := (Prod.eta _).symm
  obtain ⟨_, content, reopened⟩ :=
    flush_spares_neighbour linkless opened openedToo (by decide) (by decide) flushed
  exact ⟨by decide, content, by rw [reopened, kept]⟩

/-- A database at the place of another one's temporary sibling is gone once that one was flushed. -/
theorem flush_takes_sibling :
    let path : Path := .ofString "db"
    let other : Path := .ofString "db.tmp"
    let files := FileSystem.start.put [Octets.ofString "work", Octets.ofString "db.tmp"]
      (.file (saved ⟨["kept"], ∅⟩))
    let store : Store := ⟨some path, ∅⟩
    let neighbour : Store := ⟨some other, ⟨["kept"], ∅⟩⟩
    let outcome := store.flush files
    Linkless files ∧ Opened files path store ∧ Opened files other neighbour ∧
      files.place? path ≠ files.place? other ∧ outcome.1 = .ok () ∧
      files.fileAt? other = some (saved ⟨["kept"], ∅⟩) ∧ outcome.2.fileAt? other = none ∧
      (openAt files (.file other)).1 = .ok neighbour ∧
      (openAt outcome.2 (.file other)).1 = .ok ⟨some other, ∅⟩ := by
  intro path other files store neighbour outcome
  have vacant : (openAt files (.file path)).1 = .ok store := by decide
  have kept : (openAt files (.file other)).1 = .ok neighbour := by decide
  exact ⟨linkless_start.put _ (by simp), opened_of_ready (ready_of_makeParents rfl) vacant _,
    opened_of_ready (ready_of_makeParents rfl) kept _, by decide, by decide, by decide, by decide,
    kept, by decide⟩

end WorkflowLaunch.Store
