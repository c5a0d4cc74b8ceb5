import Mathlib.Data.List.TakeWhile
import WorkflowLaunch.Proofs.Checks
import WorkflowLaunch.Proofs.Server.Building
import WorkflowLaunch.Proofs.Store.Answers

set_option autoImplicit false

/-!
What building a server asks for. A server is built if every requirement is met, and the build fails
for the first one that is not. The store is opened last, so that a build that fails for anything
else has not looked at a file. The server that is built has read its catalog and has added nothing
to it: that is left to the start.
-/

namespace WorkflowLaunch

open Checks (Decides First)
open Network (Ip)

/-- A text without anything but blanks is one of which trimming leaves nothing. -/
theorem Text.blank_iff_trim (text : String) :
    Text.blank text = true ↔ Text.trim text.toList = [] := by
  have parts : text.toList.takeWhile Text.isBlank ++ Text.trimStart text.toList = text.toList :=
    List.takeWhile_append_dropWhile
  rw [Text.blank, ← parts, List.all_append, List.all_takeWhile, Bool.true_and, List.all_eq_true,
    parts, Text.trim, Text.trimEnd, List.reverse_eq_nil_iff, List.dropWhile_eq_nil_iff]
  simp only [List.mem_reverse]

namespace Server

/-- What a server needs, in the order in which it is looked at. -/
inductive Requirement where
  | port
  | address
  | namespaces
  | filter
  | store
  deriving DecidableEq

namespace Requirement

def all : List Requirement := [.port, .address, .namespaces, .filter, .store]

theorem mem_all (requirement : Requirement) : requirement ∈ all := by
  cases requirement <;> decide

end Requirement

/-- The filter of the environment matters only to settings without a logger. -/
def Meets (directives : Option String) (settings : Settings) (files : FileSystem) :
    Requirement → Prop
  | .port => settings.port ≠ 0
  | .address => ∃ ip, Ip.ofText? settings.ip = some ip
  | .namespaces => ∀ name ∈ settings.namespaces, Text.trim name.toList ≠ []
  | .filter => settings.logger = none →
      ∃ filter, Log.Filter.ofEnvironment directives = .ok filter
  | .store => ∃ store, (Store.openAt files settings.storage).1 = .ok store

/-- The fault of settings that do not meet a requirement. -/
def Reports (directives : Option String) (settings : Settings) (files : FileSystem) :
    Requirement → ServerFault → Prop
  | .port, fault => fault = .invalidPort 0
  | .address, fault => fault = .invalidAddress settings.ip
  | .namespaces, fault => fault = .blankNamespace
  | .filter, fault =>
    ∃ reason, Log.Filter.ofEnvironment directives = .error reason ∧ fault = .filter reason
  | .store, fault =>
    ∃ reason, (Store.openAt files settings.storage).1 = .error reason ∧ fault = .store reason

variable {directives : Option String} {settings : Settings} {files : FileSystem}
  {requirement : Requirement} {one two fault : ServerFault} {server : Server} {world after : World}

theorem Reports.unique (first : Reports directives settings files requirement one)
    (second : Reports directives settings files requirement two) : one = two := by
  cases requirement with
  | port | address | namespaces => exact first.trans second.symm
  | filter | store =>
    obtain ⟨reason, refused, rfl⟩ := first
    obtain ⟨again, refused', rfl⟩ := second
    rw [refused] at refused'
    rw [Except.error.inj refused']

theorem decides_addressOf (directives : Option String) (settings : Settings)
    (files : FileSystem) :
    Decides (Meets directives settings files) (Reports directives settings files)
      [.port, .address, .namespaces] (addressOf settings) := by
  cases located : addressOf settings with
  | error fault =>
    cases addressOf_eq_error_iff.mp located with
    | port zero =>
      refine .failed (not_not_intro zero) ?_
      rw [zero]
      rfl
    | address port unread =>
      refine .next port (.failed ?_ rfl)
      simp [Meets, unread]
    | @blank name port read member blank =>
      refine .next port (.next (Option.ne_none_iff_exists'.mp read) (.failed ?_ rfl))
      exact fun named => named name member ((Text.blank_iff_trim name).mp blank)
  | ok address =>
    -- No flaw applies, so each of the three requirements is met.
    have unflawed := not_flawed_of_addressOf located
    have port : settings.port ≠ 0 := fun zero => unflawed _ (.port zero)
    have read : Ip.ofText? settings.ip ≠ none := fun unread => unflawed _ (.address port unread)
    refine .next port (.next (Option.ne_none_iff_exists'.mp read) (.next ?_ (.passed address)))
    intro name member trimmed
    exact unflawed _ (.blank port read member ((Text.blank_iff_trim name).mpr trimmed))

theorem decides_loggerOf (directives : Option String) (settings : Settings)
    (files : FileSystem) :
    Decides (Meets directives settings files) (Reports directives settings files) [.filter]
      (loggerOf settings directives) := by
  rw [loggerOf]
  cases given : settings.logger with
  | some logger =>
    refine .next ?_ (.passed logger)
    simp [Meets, given]
  | none =>
    simp only [Log.Logger.ofEnvironment]
    cases read : Log.Filter.ofEnvironment directives with
    | error reason =>
      refine .failed ?_ ⟨reason, read, rfl⟩
      simp [Meets, given, read]
    | ok filter => exact .next (fun _ => ⟨filter, read⟩) (.passed _)

theorem decides_build (directives : Option String) (settings : Settings) (world : World) :
    Decides (Meets directives settings world.files) (Reports directives settings world.files)
      Requirement.all (build directives settings world).1 := by
  have addressed := decides_addressOf directives settings world.files
  have logged := decides_loggerOf directives settings world.files
  rcases built : build directives settings world with ⟨result, after⟩
  cases builds_of_eq built with
  | unaddressed located => exact addressed.stop located [.filter, .store]
  | unlogged located logs => exact addressed.append located (logged.stop logs [.store])
  | @unopened _ _ reason _ located logs opened =>
    refine addressed.append located (logged.append logs (.failed ?_ ⟨reason, ?_, rfl⟩))
    · simp [Meets, opened]
    · rw [opened]
  | @built _ _ store _ located logs opened =>
    refine addressed.append located (logged.append logs (.next ⟨store, ?_⟩ (.passed _)))
    rw [opened]

/-- Only a build that came as far as the store can have changed anything. -/
theorem build_of_fault (failed : build directives settings world = (.error fault, after)) :
    after = world ∨ ∃ reason, fault = .store reason ∧
      Store.openAt world.files settings.storage = (.error reason, after.files) ∧
      after = { world with files := after.files } := by
  cases builds_of_eq failed with
  | unaddressed => exact .inl rfl
  | unlogged => exact .inl rfl
  | unopened _ _ opened => exact .inr ⟨_, rfl, opened, rfl⟩

/-- A server that was built and on which nothing was done yet. It has the catalog that the store was
opened with: an empty one in memory, or the one to be read at the path. -/
structure Fresh (settings : Settings) (world : World) (server : Server) (after : World) :
    Prop where
  configured : server.settings = settings
  opened : Store.openAt world.files settings.storage = (.ok server.store, after.files)
  memory : settings.storage = .memory → server.store = ⟨none, ∅⟩
  file : ∀ path, settings.storage = .file path →
    Store.Answers path (after.files.read path) (.ok server.store)
  held : after.held = world.held
  idle : server.listening = false
  unstarted : ∀ later, server.run later = .ended ⟨.error .notStarted, server, later, []⟩

theorem answers_of_openFile {path : Path} {store : Store} {files after : FileSystem}
    (opened : Store.openFile files path = (.ok store, after)) :
    Store.Answers path (after.read path) (.ok store) := by
  rcases Store.openFile_cases opened with ⟨_, fault, failed⟩ | ⟨ready, again⟩
  · simp at failed
  · rw [Store.openFile_of_ready ready] at again
    exact Store.answers_iff.mpr (Prod.mk.inj again).1

theorem fresh_of_build (built : build directives settings world = (.ok server, after)) :
    Fresh settings world server after := by
  cases builds_of_eq built with
  | built located logs opened =>
    refine ⟨rfl, opened, ?_, ?_, rfl, rfl, fun _ => rfl⟩
    · intro stored
      rw [stored] at opened
      exact (Except.ok.inj (Prod.mk.inj opened).1).symm
    · intro path stored
      rw [stored] at opened
      exact answers_of_openFile opened

/-- A server is built if the settings, the environment and the files meet every requirement, and
otherwise the build fails for the first one that they do not meet, whatever else is wrong. Unless it
is the store that could not be opened, a build that fails has left the world as it was. A server
that is built has what was found in the store, which nothing in the settings but the storage
decides, and was not started. -/
theorem built_by_requirements (directives : Option String) (settings : Settings) (world : World) :
    let meets := Meets directives settings world.files
    (∀ fault, (build directives settings world).1 = .error fault ↔
      ∃ requirement, First meets Requirement.all requirement ∧
        Reports directives settings world.files requirement fault) ∧
    ((∃ server, (build directives settings world).1 = .ok server) ↔
      ∀ requirement, meets requirement) ∧
    (∀ fault after, build directives settings world = (.error fault, after) →
      after = world ∨ ∃ reason, fault = .store reason ∧
        Store.openAt world.files settings.storage = (.error reason, after.files) ∧
        after = { world with files := after.files }) ∧
    (∀ server after, build directives settings world = (.ok server, after) →
      Fresh settings world server after) ∧
    ∀ other server next, other.storage = settings.storage →
      (build directives settings world).1 = .ok server →
      (build directives other world).1 = .ok next → next.store = server.store := by
  intro meets
  have decides := decides_build directives settings world
  refine ⟨?_, ?_, ?_, ?_, ?_⟩
  · intro fault
    exact decides.eq_error_iff fun _ _ _ => Reports.unique
  · rw [decides.exists_ok_iff]
    exact ⟨fun meets requirement => meets requirement requirement.mem_all,
      fun meets requirement _ => meets requirement⟩
  · intro fault after
    exact build_of_fault
  · intro server after
    exact fresh_of_build
  · intro other server next stored built again
    have first := (fresh_of_build (Prod.ext built rfl)).opened
    have second := (fresh_of_build (Prod.ext again rfl)).opened
    rw [stored, first] at second
    exact (Except.ok.inj (Prod.mk.inj second).1).symm

/-- Settings with a bad address and a namespace of nothing but an em space, and settings with a
logger of their own, where the filter of the environment cannot be read. -/
theorem built_by_requirements_of_flawed :
    let directives := some "workflow_lite=loud"
    let world : World := ⟨.start, [], .none⟩
    let flawed : Settings := ⟨7233, "localhost", .memory, ["default", "\u2003"], ∅, none, none⟩
    let sound : Settings := ⟨7233, "::1", .memory, ["default"], ∅, some ⟨.json, .standard⟩, none⟩
    (∀ filter, Log.Filter.ofEnvironment directives ≠ .ok filter) ∧
      build directives flawed world = (.error (.invalidAddress "localhost"), world) ∧
      ∃ server after, build directives sound world = (.ok server, after) ∧
        server.store = ⟨none, ∅⟩ ∧ after.files = world.files ∧
        server.run after = .ended ⟨.error .notStarted, server, after, []⟩ := by
  intro directives world flawed sound
  obtain ⟨refused, _, unchanged, _⟩ := built_by_requirements directives flawed world
  obtain ⟨_, accepted, _, built, _⟩ := built_by_requirements directives sound world
  have unread : Ip.ofText? "localhost" = none := by decide
  have first : First (Meets directives flawed world.files) Requirement.all .address := by
    have port : flawed.port ≠ 0 := by decide
    refine .later port (.here ?_)
    simp [Meets, flawed, unread]
  have failed := (refused _).mpr ⟨_, first, rfl⟩
  have same : (build directives flawed world).2 = world := by
    rcases unchanged _ _ (Prod.ext failed rfl) with same | ⟨_, store, _⟩
    · exact same
    · simp [flawed] at store
  have meets : ∀ requirement, Meets directives sound world.files requirement := by
    intro requirement
    cases requirement with
    | port => exact (by decide : sound.port ≠ 0)
    | address => exact ⟨.six [0, 0, 0, 0, 0, 0, 0, 1], by decide⟩
    | namespaces => exact (by decide : ∀ name ∈ sound.namespaces, Text.trim name.toList ≠ [])
    | filter => exact fun none => nomatch none
    | store => exact ⟨_, rfl⟩
  obtain ⟨server, succeeded⟩ := accepted.mpr meets
  have fresh := built server _ (Prod.ext succeeded rfl)
  refine ⟨?_, Prod.ext failed same, server, _, Prod.ext succeeded rfl, fresh.memory rfl, ?_,
    fresh.unstarted _⟩
  · intro filter read
    have refusal : Log.Filter.ofEnvironment directives =
        .error ⟨"workflow_lite=loud", .badLevel⟩ := by decide +kernel
    rw [refusal] at read
    simp at read
  · exact (Prod.mk.inj fresh.opened).2.symm

end Server

end WorkflowLaunch
