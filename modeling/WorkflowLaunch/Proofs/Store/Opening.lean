import WorkflowLaunch.Proofs.Store.Contents

set_option autoImplicit false

/-!
What opening finds at a path. The directories above the path are made first, which can change where
the path leads; the database is what is found after that.
-/

namespace WorkflowLaunch.Store

open FileSystem
open WorkflowLaunch.Path (Name Step)

variable {files after : FileSystem} {path : Path} {catalog : Catalog} {holder parent : Location}
  {name : Name} {left : Nat}

/-- The files once the directories above a path were made, as far as that goes. -/
def settled (files : FileSystem) (path : Path) : FileSystem := (makeParents files path).2

/-- The content of the database at a path. -/
def found? (files : FileSystem) (path : Path) : Option Octets := (settled files path).fileAt? path

/-- The catalog that the content of a database stands for; without a database it is empty. -/
def catalogIn? (path : Path) : Option Octets → Option Catalog
  | none => some ∅
  | some content => (Octets.text? content).bind fun text => (catalogOf path text).toOption

theorem catalogIn?_saved (path : Path) (catalog : Catalog) :
    catalogIn? path (some (saved catalog)) = some catalog := by
  simp [catalogIn?, saved, catalogOf, Catalog.blank_encodePretty, Catalog.decode_encodePretty,
    Except.mapError, Except.toOption]

/-- The directories above a path exist. -/
def Ready (files : FileSystem) (path : Path) : Prop :=
  ∀ parent ∈ path.parent?, parent.octets = [] ∨ HasWay files parent

theorem makeParents_of_ready (ready : Ready files path) :
    makeParents files path = (.ok (), files) := by
  rw [makeParents]
  cases found : path.parent? with
  | none => rfl
  | some parent =>
    rcases ready parent found with empty | hasWay
    · simp [empty]
    · simp [octets_ne_nil_of_valid hasWay.1, makeDirectories_of_hasWay hasWay]

theorem ready_of_makeParents (made : makeParents files path = (.ok (), after)) :
    Ready after path := by
  intro parent found
  rw [makeParents, Option.mem_def.mp found] at made
  by_cases empty : parent.octets = []
  · exact .inl empty
  · simp only [if_neg empty] at made
    exact .inr (hasWay_of_makeDirectories empty made)

theorem Ready.keep (ready : Ready files path) (keeps : Keeps files after)
    (sameBase : after.workingDirectory = files.workingDirectory) : Ready after path := by
  intro parent found
  exact (ready parent found).imp_right fun hasWay => hasWay.keep keeps sameBase

theorem settled_of_ready (ready : Ready files path) : settled files path = files := by
  rw [settled, makeParents_of_ready ready]

/-- Where the directories above a path exist, the database is the file that the path denotes. -/
theorem found?_of_ready (ready : Ready files path) : found? files path = files.fileAt? path := by
  rw [found?, settled_of_ready ready]

theorem settled_settled (files : FileSystem) (path : Path) :
    settled (settled files path) path = settled files path := by
  simp only [settled, makeParents]
  cases path.parent? with
  | none => rfl
  | some parent =>
    by_cases empty : parent.octets = []
    · simp [empty]
    · simp only [if_neg empty]
      exact makeDirectories_again files empty

theorem found?_settled (files : FileSystem) (path : Path) :
    found? (settled files path) path = found? files path := by
  rw [found?, settled_settled, found?]

theorem catalogIn?_of_load (loaded : load files path = .ok catalog) :
    catalogIn? path (files.fileAt? path) = some catalog := by
  rw [load, readText] at loaded
  cases content : files.read path with
  | error fault =>
    simp only [content, bind, Except.bind] at loaded
    split at loaded
    · next same => simp at same
    · obtain rfl := Except.ok.inj loaded
      simp [fileAt?, content, Except.toOption, catalogIn?]
    · simp at loaded
  | ok octets =>
    cases text : Octets.text? octets with
    | none => simp [content, text, bind, Except.bind] at loaded
    | some text' =>
      simp only [content, text, bind, Except.bind] at loaded
      simp [fileAt?, content, Except.toOption, catalogIn?, text, loaded]

/-- Opening a database changes nothing but the directories above it. -/
theorem openFile_files (files : FileSystem) (path : Path) :
    (openFile files path).2 = settled files path := by
  rw [openFile, settled]
  split
  · next made => rw [made]
  · next made =>
    rw [made]
    split <;> rfl

theorem openFile_ok {store : Store} (opened : openFile files path = (.ok store, after)) :
    Ready after path ∧ store.path = some path ∧
      catalogIn? path (found? files path) = some store.catalog := by
  have same : settled files path = after := by rw [← openFile_files, opened]
  rw [openFile] at opened
  split at opened
  · simp at opened
  · next made =>
    split at opened
    · next loaded =>
      obtain ⟨rfl, rfl⟩ : _ ∧ _ := by simpa using opened
      refine ⟨ready_of_makeParents made, rfl, ?_⟩
      rw [found?, same]
      exact catalogIn?_of_load loaded
    · simp at opened

section Direct

variable (direct : files.isLink path = false)

include direct

/-- Where no link stands at a path, its file is the one at the entry that it names. -/
theorem fileAt?_eq_some_iff_approach {content : Octets} :
    files.fileAt? path = some content ↔
      ∃ parent name left, Approach files path parent name left ∧ path.endsInSlash = false ∧
        files.node? (parent ++ [name]) = some (.file content) := by
  constructor
  · intro found
    obtain ⟨parent, name, left, approach, bare, _⟩ := exists_approach_of_fileAt? found
    obtain ⟨place, file, walked, node⟩ := fileAt?_eq_some_iff.mp found
    rw [approach.walk_bare direct .follow bare] at walked
    obtain ⟨rfl, rfl, _⟩ := Goal.entry.inj (Except.ok.inj walked)
    exact ⟨parent, name, left, approach, bare, node⟩
  · rintro ⟨parent, name, left, approach, bare, node⟩
    rw [fileAt?, approach.read_file node bare]
    rfl

theorem Saves.keeps {result : Except StoreFault Unit}
    (saves : Saves files path catalog (result, after)) :
    Keeps files after ∧ after.workingDirectory = files.workingDirectory := by
  cases saves with
  | refused => exact ⟨fun _ _ held _ => held, rfl⟩
  | stuck _ staged => exact ⟨staged.keeps catalog, rfl⟩
  | @done _ holder name _ staged approach bare noDirectory =>
    refine ⟨?_, rfl⟩
    intro location node held leads
    apply keeps_moved catalog staged location node ?_ held leads
    rintro rfl
    cases node with
    | directory => exact noDirectory held
    | file content => simp [Node.isFile] at leads
    | link target => exact approach.node?_ne_link direct target held

theorem Saves.fileAt?_of_error {fault : StoreFault}
    (saves : Saves files path catalog (.error fault, after)) :
    after.fileAt? path = files.fileAt? path := by
  have directAfter := saves.isLink direct
  cases saves with
  | refused => rfl
  | stuck _ staged =>
    apply Option.ext
    intro content
    rw [fileAt?_eq_some_iff_approach directAfter, fileAt?_eq_some_iff_approach direct]
    constructor
    · rintro ⟨parent, name, left, approach, bare, node⟩
      rw [node?_staging, if_neg (ne_temporary _ approach).symm] at node
      exact ⟨parent, name, left, approach.keep (Staged.kept _) rfl, bare, node⟩
    · rintro ⟨parent, name, left, approach, bare, node⟩
      refine ⟨parent, name, left, approach.keep (staged.keeps catalog) rfl, bare, ?_⟩
      rw [node?_staging, if_neg (ne_temporary _ approach).symm, node]

end Direct

end WorkflowLaunch.Store
