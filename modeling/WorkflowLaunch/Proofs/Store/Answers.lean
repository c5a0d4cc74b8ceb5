import WorkflowLaunch.Proofs.Store.Effects
import WorkflowLaunch.Proofs.Store.Steadiness

set_option autoImplicit false

/-!
What opening a database answers. The answer is read off the file that the path denotes once the
directories above it exist. Nothing but a path at which nothing is found stands for an empty
catalog without being read, so that no file is taken for a missing one and overwritten later.
-/

namespace WorkflowLaunch.Store

open FileSystem

variable {files after : FileSystem} {path : Path} {result answer : Except StoreFault Store}

/-- The answer to what is read at a path. -/
inductive Answers (path : Path) :
    Except FileFault Octets → Except StoreFault Store → Prop where
  | missing : Answers path (.error .notFound) (.ok ⟨some path, ∅⟩)
  | blank {content : Octets} {text : String} :
      content = Octets.ofString text → Text.blank text = true →
      Answers path (.ok content) (.ok ⟨some path, ∅⟩)
  | decoded {content : Octets} {text : String} {catalog : Catalog} :
      content = Octets.ofString text → Text.blank text = false →
      Catalog.decode text = .ok catalog →
      Answers path (.ok content) (.ok ⟨some path, catalog⟩)
  | corrupt {content : Octets} {text : String} {rejection : Json.Rejection} :
      content = Octets.ofString text → Text.blank text = false →
      Catalog.decode text = .error rejection →
      Answers path (.ok content) (.error (.corrupt path rejection))
  | notText {content : Octets} :
      (∀ text, content ≠ Octets.ofString text) →
      Answers path (.ok content) (.error (.access path .notText))
  | unreadable {fault : FileFault} :
      fault ≠ .notFound → Answers path (.error fault) (.error (.access path fault))

theorem Answers.eq (answers : Answers path (files.read path) answer) :
    (load files path).map (Store.mk (some path)) = answer := by
  generalize content : files.read path = found at answers
  cases answers with
  | missing => simp [load, readText, content, bind, Except.bind, Except.map]
  | blank text isBlank =>
    simp [load, readText, content, text, catalogOf, isBlank, bind, Except.bind, Except.map]
  | decoded text written decodes =>
    simp [load, readText, content, text, catalogOf, written, decodes, bind, Except.bind,
      Except.map, Except.mapError]
  | corrupt text written fails =>
    simp [load, readText, content, text, catalogOf, written, fails, bind, Except.bind,
      Except.map, Except.mapError]
  | @notText octets noText =>
    have unread : Octets.text? octets = none := by
      apply Option.eq_none_iff_forall_ne_some.mpr
      intro text read
      exact noText text (Octets.text?_eq_some_iff.mp read)
    simp [load, readText, content, unread, bind, Except.bind, Except.map]
  | unreadable =>
    simp [load, readText, content, bind, Except.bind, Except.map]

theorem exists_answers (files : FileSystem) (path : Path) :
    ∃ answer, Answers path (files.read path) answer := by
  cases files.read path with
  | error fault =>
    by_cases missing : fault = .notFound
    · subst missing
      exact ⟨_, .missing⟩
    · exact ⟨_, .unreadable missing⟩
  | ok content =>
    cases read : Octets.text? content with
    | none =>
      refine ⟨_, .notText ?_⟩
      rintro text rfl
      simp at read
    | some text =>
      have same := Octets.text?_eq_some_iff.mp read
      cases isBlank : Text.blank text with
      | true => exact ⟨_, .blank same isBlank⟩
      | false =>
        cases decodes : Catalog.decode text with
        | ok catalog => exact ⟨_, .decoded same isBlank decodes⟩
        | error rejection => exact ⟨_, .corrupt same isBlank decodes⟩

theorem answers_iff :
    Answers path (files.read path) answer ↔
      (load files path).map (Store.mk (some path)) = answer := by
  constructor
  · exact Answers.eq
  · rintro rfl
    obtain ⟨answer, answers⟩ := exists_answers files path
    rwa [answers.eq]

/-- Opening where the directories above the path exist. -/
theorem openFile_of_ready (ready : Ready files path) :
    openFile files path = ((load files path).map (Store.mk (some path)), files) := by
  simp only [openFile, makeParents_of_ready ready]
  cases load files path <;> rfl

/-- Opening a file whose text is not decoded. -/
theorem openFile_of_corrupt {text : String} {rejection : Json.Rejection}
    (found : files.fileAt? path = some (Octets.ofString text))
    (written : Text.blank text = false) (fails : Catalog.decode text = .error rejection) :
    openFile files path = (.error (.corrupt path rejection), files) := by
  have content : files.read path = .ok (Octets.ofString text) := by
    rw [fileAt?] at found
    cases read : files.read path with
    | error fault => simp [read, Except.toOption] at found
    | ok octets => simpa [read, Except.toOption] using found
  have answers : Answers path (files.read path) (.error (.corrupt path rejection)) := by
    rw [content]
    exact .corrupt rfl written fails
  rw [openFile_of_ready (ready_of_fileAt? found), answers.eq]

theorem not_ready_of_makeParents {fault : FileFault}
    (failed : makeParents files path = (.error fault, after)) : ¬Ready after path := by
  intro ready
  rw [makeParents] at failed
  split at failed
  · next parent found =>
    split at failed
    · simp at failed
    · next nonempty =>
      exact not_hasWay_of_makeDirectories failed ((ready parent found).resolve_left nonempty)
  · simp at failed

/-- Opening fails with the directories above the path, or goes on where they exist. -/
theorem openFile_cases (opened : openFile files path = (result, after)) :
    (¬Ready after path ∧ ∃ fault, result = .error (.access path fault)) ∨
      Ready after path ∧ openFile after path = (result, after) := by
  have same : settled files path = after := by rw [← openFile_files, opened]
  cases made : makeParents files path with
  | mk outcome middle =>
    obtain rfl : middle = after := by rw [← same, settled, made]
    cases outcome with
    | error fault =>
      rw [openFile, made] at opened
      exact .inl ⟨not_ready_of_makeParents made, fault, (Prod.mk.inj opened).1.symm⟩
    | ok =>
      have ready := ready_of_makeParents made
      refine .inr ⟨ready, ?_⟩
      rw [openFile, made] at opened
      rw [openFile, makeParents_of_ready ready]
      exact opened

theorem prefix_of_mem_directoriesAbove {upper : Path} (member : upper ∈ directoriesAbove path) :
    ∃ parent ∈ path.parent?, upper.octets <+: parent.octets := by
  rw [directoriesAbove] at member
  cases found : path.parent? with
  | none => simp [found] at member
  | some parent =>
    rw [found, Option.map_some, Option.getD_some] at member
    refine ⟨parent, rfl, ?_⟩
    rcases eq_or_above_of_mem_ancestors member with rfl | above
    · exact List.prefix_refl _
    · exact above.octets

/-- Opening a database changes no file and adds nothing but directories at prefixes of the path's
parent, however it ends. Where these exist in the end, the answer is the one to what is read at the
path, and a second attempt gives it again; where they do not, it is an access fault. -/
theorem opening_only_reads (opened : openAt files (.file path) = (result, after)) :
    (∀ location content, after.node? location = some (.file content) ↔
      files.node? location = some (.file content)) ∧
    Furnished files after (directoriesAbove path) ∧
    (∀ upper ∈ directoriesAbove path, ∃ parent ∈ path.parent?, upper.octets <+: parent.octets) ∧
    (∀ content, files.fileAt? path = some content → after = files) ∧
    (Ready after path → ∀ answer, Answers path (after.read path) answer ↔ result = answer) ∧
    (¬Ready after path → ∃ fault, result = .error (.access path fault)) ∧
    ∀ store, result = .ok store → openAt after (.file path) = (.ok store, after) := by
  have opened : openFile files path = (result, after) := opened
  have same : settled files path = after := by rw [← openFile_files, opened]
  have furnished : Furnished files after (directoriesAbove path) :=
    same ▸ furnished_settled files path
  refine ⟨furnished.node?_eq_file_iff, furnished,
    fun upper => prefix_of_mem_directoriesAbove, ?_, ?_, ?_, ?_⟩
  · intro content found
    rw [← same, settled_of_fileAt? found]
  · intro ready answer
    have again := ((openFile_cases opened).resolve_left fun failed => failed.1 ready).2
    rw [openFile_of_ready ready] at again
    rw [answers_iff, (Prod.mk.inj again).1]
  · intro missing
    exact ((openFile_cases opened).resolve_right fun went => missing went.1).2
  · rintro store rfl
    rcases openFile_cases opened with ⟨_, fault, failed⟩ | ⟨_, again⟩
    · simp at failed
    · exact again

/-- A truncated file, behind a directory that is made on the way to it. -/
theorem opening_only_reads_truncated :
    let database : Location := [Octets.ofString "work", Octets.ofString "db"]
    let files := FileSystem.start.put database (.file (Octets.ofString "\x7b"))
    let path : Path := .ofString "new/../db"
    let outcome := openAt files (.file path)
    outcome.1 = .error (.corrupt path ⟨.endInObject, 1, 1⟩) ∧
      outcome.2.node? database = some (.file (Octets.ofString "\x7b")) ∧
      outcome.2.node? [Octets.ofString "work", Octets.ofString "new"] = some .directory := by
  intro database files path outcome
  have opened : openAt files (.file path) = (outcome.1, outcome.2) := (Prod.eta _).symm
  obtain ⟨sameFiles, _⟩ := opening_only_reads opened
  exact ⟨by decide, (sameFiles database _).mpr (by decide), by decide⟩

end WorkflowLaunch.Store
