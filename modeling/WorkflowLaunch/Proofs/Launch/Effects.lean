import WorkflowLaunch.Proofs.Launch.History
import WorkflowLaunch.Proofs.Server.Tenancy
import WorkflowLaunch.Proofs.Store.Effects

set_option autoImplicit false

/-!
What a failed launch leaves behind, by the stage in which it failed. Up to composing it has touched
nothing; building may have made directories; a start that failed may also have left the temporary
sibling. No address is held after any failure.
-/

namespace WorkflowLaunch

open FileSystem
open Store (Unsaved directoriesAbove settled temporaryPath)

namespace Server

variable {directives : Option String} {settings : Settings} {server : Server}
  {world opened : World} {path : Path}

theorem flush_of_memory {store : Store} (memory : store.path = none) (files : FileSystem) :
    store.flush files = (.ok (), files) := by
  rw [Store.flush, memory]

/-- A server that keeps its state in memory leaves the files alone from the beginning. -/
theorem build_of_memory {result : Except ServerFault Server} (memory : settings.storage = .memory)
    (built : build directives settings world = (result, opened)) :
    opened.files = world.files ∧ ∀ server, result = .ok server → server.store.path = none := by
  cases builds_of_eq built with
  | unaddressed => exact ⟨rfl, by simp⟩
  | unlogged => exact ⟨rfl, by simp⟩
  | unopened _ _ stored => simp [memory, Store.openAt] at stored
  | built _ _ stored =>
    rw [memory, Store.openAt] at stored
    obtain ⟨same, rfl⟩ := Prod.mk.inj stored
    obtain rfl := Except.ok.inj same
    refine ⟨rfl, ?_⟩
    rintro server ⟨⟩
    rfl

theorem start_of_memory (memory : server.store.path = none) (world : World) :
    (server.start world).world.files = world.files ∧
      (server.start world).server.store.path = none := by
  have kept : server.entered.store.path = none := memory
  have unwritten := flush_of_memory kept world.files
  have starts := starts_start server world
  generalize server.start world = effect at starts ⊢
  cases starts with
  | bound => exact ⟨rfl, memory⟩
  | conflict => exact ⟨rfl, memory⟩
  | unwritten _ _ flushed => simp [unwritten] at flushed
  | @started files _ _ _ flushed =>
    obtain rfl : world.files = files := by simpa [unwritten] using flushed
    exact ⟨rfl, memory⟩

theorem start_run_of_memory (memory : server.store.path = none) (world : World) :
    ((server.start world).server.runUntilTriggered (server.start world).world).2.world.files =
      world.files := by
  obtain ⟨files, kept⟩ := start_of_memory memory world
  generalize (server.start world).server = started at kept ⊢
  generalize (server.start world).world = begun at files ⊢
  cases listening : started.listening with
  | false =>
    rw [runUntilTriggered_of_idle listening]
    exact files
  | true =>
    obtain ⟨now, _, same, stops⟩ := runUntilTriggered_of_listening begun listening
    rw [stops, stop_world, flush_of_memory kept]
    exact same.trans files

/-- A start that failed holds no address, and one that succeeded gives it back in the next run. -/
theorem held_start {fault : ServerFault} (failed : (server.start world).result = .error fault) :
    (server.start world).world.held = world.held := by
  have starts := starts_start server world
  generalize server.start world = effect at starts failed ⊢
  cases starts with
  | bound => rfl
  | conflict => rfl
  | unwritten => rfl
  | started => simp at failed

theorem held_start_run (succeeded : (server.start world).result = .ok ()) :
    ((server.start world).server.runUntilTriggered (server.start world).world).2.world.held =
      world.held := by
  have starts := starts_start server world
  generalize server.start world = effect at starts succeeded ⊢
  rw [runUntilTriggered_held]
  cases starts with
  | bound => simp at succeeded
  | conflict => simp at succeeded
  | unwritten => simp at succeeded
  | started => simp [entered]

/-- A start that failed, after the server was built for a path. -/
theorem unsaved_start {fault : ServerFault} (kept : server.store.path = some path)
    (files : opened.files = settled world.files path)
    (plain : (settled world.files path).isLink (temporaryPath path) = false)
    (failed : (server.start opened).result = .error fault) :
    Unsaved world.files (server.start opened).world.files path := by
  have unsaved := Store.unsaved_settled world.files path
  have starts := starts_start server opened
  generalize server.start opened = effect at starts failed ⊢
  cases starts with
  | bound => rwa [files]
  | conflict => rwa [files]
  | unwritten _ _ flushed =>
    rw [files, Store.flush] at flushed
    simp only [entered, kept] at flushed
    exact Store.unsaved_save plain flushed
  | started => simp at failed

end Server

namespace Attempt

/-- Why the server of a launch could not be built. -/
def Refused (attempt : Attempt) (site : Site) (fault : ServerFault) : Prop :=
  ∃ settings after, attempt.Asks site settings ∧
    Server.build attempt.directives settings (attempt.interrupt site).2.world =
      (.error fault, after)

/-- What a failure has left in the files, by its stage. -/
def Leaves (attempt : Attempt) (site : Site) (failure : Failure) (after : FileSystem) : Prop :=
  let path := attempt.request.filename.value
  match failure.stage with
  | .constructing => Furnished site.world.files after (directoriesAbove path) ∧
    ∃ fault, attempt.Refused site fault ∧ failure.message = fault.message ∧
      ((∀ cause, fault ≠ .store cause) → after = site.world.files)
  | .starting => (settled site.world.files path).isLink (temporaryPath path) = false →
    Unsaved site.world.files after path
  | .running => True
  | _ => after = site.world.files

variable {attempt : Attempt} {site : Site} {settings : Settings} {started : Bool} {after : World}
  {result : Except Failure Completed}

theorem Asks.storage (asks : attempt.Asks site settings) :
    settings.storage = if attempt.request.ephemeral.value then .memory
      else .file attempt.request.filename.value :=
  asks.means.storage

theorem Outcome.held (outcome : attempt.Outcome site result started after) :
    after.held = site.world.held := by
  have hooked : (attempt.interrupt site).2.world.held = site.world.held := rfl
  rw [← hooked]
  cases outcome with
  | early _ _ held => exact held
  | unbuilt _ failed => exact Server.held_build failed
  | unstarted _ built failed => exact (Server.held_start failed).trans (Server.held_build built)
  | ran _ built succeeded =>
    exact (Server.held_start_run succeeded).trans (Server.held_build built)

theorem Outcome.files_of_ephemeral (outcome : attempt.Outcome site result started after)
    (ephemeral : attempt.request.ephemeral.value = true) : after.files = site.world.files := by
  have memory : ∀ settings, attempt.Asks site settings → settings.storage = .memory := by
    intro settings asks
    rw [asks.storage, if_pos ephemeral]
  cases outcome with
  | early _ files _ => exact files
  | unbuilt asks failed => exact (Server.build_of_memory (memory _ asks) failed).1
  | @unstarted _ server _ opened asks built _ =>
    obtain ⟨same, kept⟩ := Server.build_of_memory (memory _ asks) built
    exact (Server.start_of_memory (kept server rfl) opened).1.trans same
  | @ran _ server opened _ asks built _ _ =>
    obtain ⟨same, kept⟩ := Server.build_of_memory (memory _ asks) built
    exact (Server.start_run_of_memory (kept server rfl) opened).trans same

/-- A start that failed, whatever the server keeps its state in. -/
theorem Asks.unsaved_start {server : Server} {opened : World} {fault : ServerFault}
    (asks : attempt.Asks site settings)
    (plain : (settled site.world.files attempt.request.filename.value).isLink
      (temporaryPath attempt.request.filename.value) = false)
    (built : Server.build attempt.directives settings (attempt.interrupt site).2.world =
      (.ok server, opened))
    (failed : (server.start opened).result = .error fault) :
    Unsaved site.world.files (server.start opened).world.files
      attempt.request.filename.value := by
  have storage := asks.storage
  cases ephemeral : attempt.request.ephemeral.value with
  | true =>
    rw [if_pos ephemeral] at storage
    obtain ⟨same, kept⟩ := Server.build_of_memory storage built
    rw [(Server.start_of_memory (kept server rfl) opened).1, same]
    exact .refl _ _
  | false =>
    rw [if_neg (by simp [ephemeral])] at storage
    obtain ⟨files, _⟩ := built_for storage built
    have kept := Server.settled_build built storage
    exact Server.unsaved_start kept.atPath files plain failed

theorem Outcome.leaves {failure : Failure}
    (outcome : attempt.Outcome site (.error failure) started after) :
    attempt.Leaves site failure after.files := by
  cases outcome with
  | early stage files _ =>
    unfold Leaves
    rcases stage with same | same | same <;> rw [same] <;> exact files
  | unbuilt asks failed =>
    rcases Server.build_failed failed with same | ⟨path, cause, storage, rfl, files⟩
    · refine ⟨?_, _, ⟨_, _, asks, failed⟩, rfl, fun _ => same⟩
      rw [same]
      exact .refl _ _
    · refine ⟨?_, _, ⟨_, _, asks, failed⟩, rfl, fun other => absurd rfl (other cause)⟩
      have kept := asks.storage.symm.trans storage
      split at kept
      · simp at kept
      · obtain rfl := Storage.file.inj kept
        rw [files]
        exact Store.furnished_settled _ _
  | unstarted asks built failed =>
    intro plain
    exact asks.unsaved_start plain built failed
  | ran _ _ _ stage =>
    unfold Leaves
    rw [stage failure rfl]
    trivial

/-- A failed launch has no effects beyond its stage. Up to composing the files are as they were.
Building makes directories above the database at most, and that only if it fails on the store. A
start that fails may also leave the temporary sibling, if no link stands there once the directories
are made; the database keeps its content. The server holds no address after any failure, and an
ephemeral one never changes the files. -/
theorem failed_launch_effects (attempt : Attempt) (site : Site) :
    (∀ failure, (attempt.launch site).result = .error failure →
      attempt.Leaves site failure (attempt.launch site).world.world.files ∧
        (attempt.launch site).world.world.held = site.world.held) ∧
      ∀ checked, attempt.request.check = .ok checked →
        checked.plan.persistence.isEphemeral = true →
        (attempt.launch site).world.world.files = site.world.files := by
  have outcome := Launch.outcome_launch attempt site
  constructor
  · intro failure failed
    rw [failed] at outcome
    exact ⟨outcome.leaves, outcome.held⟩
  · intro checked passed ephemeral
    rw [congrArg Plan.persistence (Request.accepted_of_check passed).plan] at ephemeral
    exact outcome.files_of_ephemeral (attempt.request.isEphemeral_persistence ▸ ephemeral)

/-- A launch on an address that someone else listens on. -/
theorem failed_launch_on_held_address :
    let path : Path := .ofString "data/db"
    let attempt := plain path ["new"]
    let site : Site := ⟨⟨.start, [⟨.four [127, 0, 0, 1], 7233⟩], .none⟩, []⟩
    (settled site.world.files path).isLink (temporaryPath path) = false ∧
      (∃ failure, (attempt.launch site).result = .error failure ∧ failure.stage = .starting) ∧
      Unsaved site.world.files (attempt.launch site).world.world.files path ∧
      (attempt.launch site).world.world.held = site.world.held := by
  intro path attempt site
  let settings : Settings := ⟨7233, "127.0.0.1", .file path, ["new"], ∅, none, some ⟨0⟩⟩
  let server : Server := ⟨settings, ⟨.four [127, 0, 0, 1], 7233⟩, ⟨some path, ∅⟩,
    ⟨.json, .standard⟩, ⟨0⟩, false⟩
  let world : World := { site.world with interrupts := ⟨1, []⟩ }
  have ready : (Server.build none settings world).1 = .ok server := by decide
  have accepted : attempt.request.check =
      .ok ⟨⟨.file path, 7233, "127.0.0.1", .json, ["new"], none⟩, none⟩ := rfl
  let fault : ServerFault := .bind server.address
  let opened := (Server.build none settings world).2
  have refused : (server.start opened).result = .error fault := by decide
  have unstarted : (attempt.launch site).result =
        .error ⟨s!"Unable to start server. Error: {fault.message}", 1, .starting⟩ ∧
      (attempt.launch site).world.world = (server.start opened).world :=
    Launch.unstarted_launch accepted rfl (Prod.ext ready rfl) refused
  obtain ⟨failed, _⟩ := unstarted
  have unlinked : (settled site.world.files path).isLink (temporaryPath path) = false := by decide
  obtain ⟨left, held⟩ := (failed_launch_effects attempt site).1 _ failed
  exact ⟨unlinked, ⟨_, failed, rfl⟩, left unlinked, held⟩

/-- The temporary sibling is a link, but the path leads to it only once the directory above is made.
The start writes through the link and fails afterwards. -/
theorem failed_start_writes_through_link :
    let path : Path := .ofString "a/../b.db/"
    let attempt := plain path ["new"]
    let victim : Location := [Octets.ofString "work", Octets.ofString "victim"]
    let precious : Node := .file (Octets.ofString "precious")
    let files := (FileSystem.start.put victim precious).put
      [Octets.ofString "work", Octets.ofString "b.db.tmp"] (.link (.ofString "victim"))
    files.isLink (temporaryPath path) = false ∧
      (∃ failure, (attempt.launch (.ofFiles files)).result = .error failure ∧
        failure.stage = .starting) ∧
      files.node? victim = some precious ∧
      (attempt.launch (.ofFiles files)).world.world.files.node? victim ≠ some precious ∧
      (attempt.launch (.ofFiles files)).world.world.files.entryAt? (temporaryPath path) ≠
        some victim := by
  intro path attempt victim precious files
  let settings : Settings := ⟨7233, "127.0.0.1", .file path, ["new"], ∅, none, some ⟨0⟩⟩
  let server : Server := ⟨settings, ⟨.four [127, 0, 0, 1], 7233⟩, ⟨some path, ∅⟩,
    ⟨.json, .standard⟩, ⟨0⟩, false⟩
  let opened := (Server.build none settings ⟨files, [], ⟨1, []⟩⟩).2
  have ready : (Server.build none settings ⟨files, [], ⟨1, []⟩⟩).1 = .ok server := by decide
  have accepted : attempt.request.check =
      .ok ⟨⟨.file path, 7233, "127.0.0.1", .json, ["new"], none⟩, none⟩ := rfl
  let fault : ServerFault := .store (.access path .notDirectory)
  have refused : (server.start opened).result = .error fault := by decide
  have unstarted : (attempt.launch (.ofFiles files)).result =
        .error ⟨s!"Unable to start server. Error: {fault.message}", 1, .starting⟩ ∧
      (attempt.launch (.ofFiles files)).world.world = (server.start opened).world :=
    Launch.unstarted_launch accepted rfl (Prod.ext ready rfl) refused
  obtain ⟨failed, after⟩ := unstarted
  refine ⟨by decide, ⟨_, failed, rfl⟩, by decide, ?_, ?_⟩
  · rw [after]
    decide
  · rw [after]
    decide

end Attempt

end WorkflowLaunch
