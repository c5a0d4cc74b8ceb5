import WorkflowLaunch.Proofs.CommandLine.Naming
import WorkflowLaunch.Proofs.Launch.Configuration
import WorkflowLaunch.Proofs.Request.Rules

set_option autoImplicit false

/-!
Where a server keeps its state that is launched with a database file on the command line. Such a
line gives no choice between memory and a file, so the standard values make it, and where these ask
for memory the given file is passed over.
-/

namespace WorkflowLaunch

open CommandLine (NamesFile)
open Octets (ofString)

variable {standard : Standard} {request : Request} {checked : Checked} {words : List Octets}
  {path : Path}

theorem Request.not_both_of_check (passed : request.check = .ok checked)
    (given : request.filename.explicit = true) : request.ephemeral.explicit = false := by
  have apart : ¬(request.ephemeral.explicit = true ∧ request.filename.explicit = true) :=
    obeys_of_check passed .oneStorage
  simpa [given] using apart

theorem Request.persistence_of_check (passed : request.check = .ok checked) :
    checked.plan.persistence = request.persistence :=
  congrArg Plan.persistence (accepted_of_check passed).plan

/-- The persistence of a server whose command line names a file. -/
def Standard.persistence (standard : Standard) (path : Path) : Persistence :=
  if standard.ephemeral then .ephemeral path else .file path

theorem persistence_of_named (accepted : CommandLine.read words standard = .ok request)
    (passed : request.check = .ok checked) (names : NamesFile path (words.drop 2)) :
    checked.plan.persistence = standard.persistence path := by
  have file := (CommandLine.filename_eq_given_iff accepted path).mpr names
  have ungiven := request.not_both_of_check passed (by rw [file]; rfl)
  have ephemeral := (CommandLine.resolved_of_read accepted).ephemeral ungiven
  rw [Request.persistence_of_check passed, Request.persistence, ephemeral, file]
  rfl

/-- A database file on the command line is used, by the plan and by every server composed from it,
unless the standard values ask for memory. The path that an ephemeral plan carries is the standard
one, or it was given and passed over. -/
theorem named_file_decided_by_standard
    (accepted : CommandLine.read words standard = .ok request)
    (passed : request.check = .ok checked) :
    (∀ path, NamesFile path (words.drop 2) →
      (checked.plan.persistence = .file path ↔ standard.ephemeral = false) ∧
      (checked.plan.persistence = .ephemeral path ↔ standard.ephemeral = true) ∧
      ∀ attributes hook directives set,
        { checked.plan with attributes := attributes }.compose hook directives = .ok set →
        ∀ other : Standard, (set.settings (.standard other)).storage =
          if standard.ephemeral then .memory else .file path) ∧
    ∀ path, checked.plan.persistence = .ephemeral path →
      path = standard.databaseFile ∨
        standard.ephemeral = true ∧ NamesFile path (words.drop 2) := by
  constructor
  · intro path names
    have persistence := persistence_of_named accepted passed names
    refine ⟨?_, ?_, ?_⟩
    · rw [persistence, Standard.persistence]
      cases standard.ephemeral <;> simp
    · rw [persistence, Standard.persistence]
      cases standard.ephemeral <;> simp
    · intro attributes hook directives set composed other
      obtain ⟨logger, _, settings⟩ := Plan.settings_compose composed
      rw [settings other, persistence, Standard.persistence]
      cases standard.ephemeral <;> rfl
  · intro path ephemeral
    have carried : path = request.filename.value := by
      rw [Request.persistence_of_check passed, Request.persistence] at ephemeral
      split at ephemeral
      · exact (Persistence.ephemeral.inj ephemeral).symm
      · simp at ephemeral
    subst carried
    rcases (CommandLine.resolved_of_read accepted).filename with given | absent
    · have names := (CommandLine.filename_eq_given_iff accepted _).mp given
      have persistence := persistence_of_named accepted passed names
      refine .inr ⟨?_, names⟩
      rw [persistence, Standard.persistence] at ephemeral
      split at ephemeral
      · assumption
      · simp at ephemeral
    · exact .inl (by rw [absent]; rfl)

/-- A file in the place of the standard one. -/
theorem named_file_decided_by_standard_file :
    let standard : Standard := ⟨false, .ofString "home.db", 7233, "127.0.0.1", "json"⟩
    let words := ["workflow-lite", "start", "-n", "a", "-f", "foo.db"].map ofString
    ∃ request checked, CommandLine.read words standard = .ok request ∧
      request.check = .ok checked ∧
      NamesFile (.ofString "foo.db") (words.drop 2) ∧
      checked.plan.persistence = .file (.ofString "foo.db") := by
  intro standard words
  let request : Request := ⟨[], .absent false, .given (.ofString "foo.db"), .absent 7233,
    .absent "127.0.0.1", .absent "json", .given ["a"], .absent [], .absent []⟩
  let plan : Plan := ⟨.file (.ofString "foo.db"), 7233, "127.0.0.1", .json, ["a"], none⟩
  have accepted : CommandLine.read words standard = .ok request := by decide
  have passed : request.check = .ok ⟨plan, none⟩ := by decide
  have names : NamesFile (.ofString "foo.db") (words.drop 2) :=
    .later (by decide) (.later (by decide) (.behind (.inr rfl) (by decide)))
  obtain ⟨decided, _⟩ := named_file_decided_by_standard accepted passed
  exact ⟨request, _, accepted, passed, names, (decided _ names).1.mpr rfl⟩

/-- Where the standard values ask for memory, a given file is passed over: the plan carries its path
as if it were the standard one, and a server composed from it keeps its state in memory. -/
theorem named_file_passed_over :
    let standard : Standard := ⟨true, .ofString "home.db", 7233, "127.0.0.1", "json"⟩
    let words := ["workflow-lite", "start", "-f", "foo.db"].map ofString
    ∃ request checked set, CommandLine.read words standard = .ok request ∧
      NamesFile (.ofString "foo.db") (words.drop 2) ∧
      request.check = .ok checked ∧ checked.plan.compose ⟨0⟩ none = .ok set ∧
      checked.plan.persistence = .ephemeral (.ofString "foo.db") ∧
      Path.ofString "foo.db" ≠ standard.databaseFile ∧
      (set.settings (.standard standard)).storage = .memory := by
  intro standard words
  let request : Request := ⟨[], .absent true, .given (.ofString "foo.db"), .absent 7233,
    .absent "127.0.0.1", .absent "json", .absent [], .absent [], .absent []⟩
  let plan : Plan := ⟨.ephemeral (.ofString "foo.db"), 7233, "127.0.0.1", .json, [], none⟩
  let set : DirectiveSet := .ofList [.port 7233, .ip "127.0.0.1",
    .databaseFile (.ofString "foo.db"), .namespaces [], .interrupt ⟨0⟩, .persistenceDisabled]
  have names : NamesFile (.ofString "foo.db") (words.drop 2) := .behind (.inr rfl) (by decide)
  exact ⟨request, ⟨plan, none⟩, set, by decide, names, by decide, rfl, rfl, by decide, rfl⟩

end WorkflowLaunch
