import WorkflowLaunch.Proofs.Store.Opening

set_option autoImplicit false

/-!
A database that is saved again and again. Where it was opened once, and no link stands at its
temporary sibling, the path leads to the catalog that was saved last.
-/

namespace WorkflowLaunch.Store

open FileSystem
open WorkflowLaunch.Path (Name Step)

variable {files after : FileSystem} {path : Path} {catalog : Catalog} {holder parent : Location}
  {name : Name} {left : Nat}

theorem read_of_directory (approach : Approach files path holder name left)
    (directory : files.node? (holder ++ [name]) = some .directory) :
    files.read path = .error .isDirectory := by
  have walked := approach.walk .follow
  rw [walkFrom_last, if_neg (by simp), if_neg (Nat.not_lt.mpr approach.short), directory] at walked
  simp [FileSystem.read, walked, directory, bind, Except.bind]

/-- A path that leads through the entry that it names denotes no database. -/
theorem read_of_leadsThroughItself (leads : LeadsThroughItself files path) :
    files.read path = .error .isDirectory ∨ files.read path = .error .tooManyLinks := by
  obtain ⟨entry, named, different⟩ := leads
  obtain ⟨holder, name, left, approach, rfl⟩ := entryAt?_eq_some_iff.mp named
  by_cases directory : files.node? (holder ++ [name]) = some .directory
  · exact .inl (read_of_directory approach directory)
  · obtain ⟨front, steps, way⟩ := approach.exists_way
    rcases way.keep_or_erase (by simp) directory with
      stays | ⟨⟨_, _, target, behind, remaining, same, link, passed⟩, _⟩
    · have reached : Approach (files.erase (holder ++ [name])) path holder name left :=
        ⟨approach.valid, approach.short, front, steps, stays⟩
      exact absurd reached.entryAt? different
    · obtain ⟨rfl, _⟩ := List.append_inj' same rfl
      exact read_of_passed approach link passed

theorem not_leadsThroughItself_of_load (loaded : load files path = .ok catalog) :
    ¬LeadsThroughItself files path := by
  intro leads
  rcases read_of_leadsThroughItself leads with directory | links
  · simp [load, readText, directory, bind, Except.bind] at loaded
  · simp [load, readText, links, bind, Except.bind] at loaded

/-- A saved catalog is loaded from the path that denotes it. -/
theorem load_of_fileAt? (found : files.fileAt? path = some (saved catalog)) :
    load files path = .ok catalog := by
  have content : files.read path = .ok (saved catalog) := by
    cases outcome : files.read path with
    | error fault => simp [fileAt?, outcome, Except.toOption] at found
    | ok octets =>
      obtain rfl : octets = saved catalog := by
        simpa [fileAt?, outcome, Except.toOption] using found
      rfl
  simp [load, readText, content, saved, catalogOf, bind, Except.bind, Catalog.blank_encodePretty,
    Catalog.decode_encodePretty, Except.mapError]

theorem ready_of_approach (approach : Approach files path holder name left) :
    Ready files path := by
  intro parent found
  by_cases empty : parent.octets = []
  · exact .inl empty
  · exact .inr (approach.hasWay_above (Path.above_of_parent? found) empty)

/-- A database can be saved here. -/
structure Steady (files : FileSystem) (path : Path) : Prop where
  ready : Ready files path
  plain : files.isLink (temporaryPath path) = false
  straight : ¬LeadsThroughItself files path

theorem steady_of_openFile {store : Store} (opened : openFile files path = (.ok store, after))
    (plain : after.isLink (temporaryPath path) = false) : Steady after path := by
  obtain ⟨ready, _⟩ := openFile_ok opened
  refine ⟨ready, plain, ?_⟩
  rw [openFile] at opened
  split at opened
  · simp at opened
  · split at opened
    · next loaded =>
      obtain ⟨_, rfl⟩ := Prod.mk.inj opened
      exact not_leadsThroughItself_of_load loaded
    · simp at opened

theorem straight_staging (staged : Staged files path parent)
    (straight : ¬LeadsThroughItself files path) :
    ¬LeadsThroughItself (staging files path parent catalog) path := by
  rintro ⟨entry, named, different⟩
  rw [staged.entryAt?] at named
  refine straight ⟨entry, named, ?_⟩
  obtain ⟨holder, name, left, approach, rfl⟩ := entryAt?_eq_some_iff.mp named
  have erased (location : Location) (node : Node) (leads : node.isFile = false) :
      ((staging files path parent catalog).erase (holder ++ [name])).node? location = some node ↔
        (files.erase (holder ++ [name])).node? location = some node := by
    rw [node?_erase _ _ (by simp), node?_erase _ _ (by simp)]
    split
    · rfl
    · exact ⟨fun held => Staged.kept parent _ _ held leads,
        fun held => staged.keeps catalog _ _ held leads⟩
  rwa [← entryAt?_congr (fun location node held leads => (erased location node leads).mpr held)
    (fun location node held leads => (erased location node leads).mp held) rfl path]

theorem saves_flush {store : Store} (backed : store.path = some path)
    (plain : files.isLink (temporaryPath path) = false) :
    Saves files path store.catalog (store.flush files) := by
  rw [flush, backed]
  exact saves_save plain store.catalog

theorem ready_of_fileAt? {content : Octets} (found : files.fileAt? path = some content) :
    Ready files path := by
  obtain ⟨_, _, _, approach, _⟩ := exists_approach_of_fileAt? found
  exact ready_of_approach approach

theorem Saves.fileAt?_of_straight (saves : Saves files path catalog (.ok (), after))
    (straight : ¬LeadsThroughItself files path) : after.fileAt? path = some (saved catalog) := by
  cases saves with
  | done staged approach bare noDirectory =>
    have stays := (approach_moved_iff catalog staged noDirectory approach).mpr straight
    rw [FileSystem.fileAt?, stays.read_file (node?_moved_self ..) bare]
    rfl

section Saves

variable (steady : Steady files path)

include steady

theorem Steady.fileAt?_of_ok (saves : Saves files path catalog (.ok (), after)) :
    after.fileAt? path = some (saved catalog) :=
  saves.fileAt?_of_straight steady.straight

/-- A save leaves everything ready for the next one. -/
theorem Steady.save {result : Except StoreFault Unit}
    (saves : Saves files path catalog (result, after)) : Steady after path := by
  have plain := saves.isLink steady.plain
  cases result with
  | ok =>
    have found := steady.fileAt?_of_ok saves
    exact ⟨ready_of_fileAt? found, plain,
      not_leadsThroughItself_of_load (load_of_fileAt? found)⟩
  | error fault =>
    cases saves with
    | refused => exact steady
    | stuck _ staged =>
      exact ⟨steady.ready.keep (staged.keeps catalog) rfl, plain,
        straight_staging staged steady.straight⟩

end Saves

end WorkflowLaunch.Store
