import WorkflowLaunch.Proofs.Server.Building
import WorkflowLaunch.Proofs.Server.Entering
import WorkflowLaunch.Proofs.Store.Opening

set_option autoImplicit false

/-!
The life of a server: its calls in any order, while others change the world in between. Only a
catalog that has everything in the settings is ever flushed, whatever failed before.
-/

namespace WorkflowLaunch.Server

open FileSystem
open Store (midway saved saves_save temporaryPath)

inductive Call where
  | start
  | run
  | trigger

/-- The server and the world after a call. A run that has to wait has changed nothing yet. -/
def call (server : Server) (world : World) : Call → Server × World
  | .start => ((server.start world).server, (server.start world).world)
  | .run => match server.run world with
    | .waiting => (server, world)
    | .ended effect => (effect.server, effect.world)
  | .trigger => (server, world.trigger server.interrupt)

/-- The server after its settings were entered, however far that came. -/
def entered (server : Server) : Server :=
  { server with
    store := { server.store with catalog := (enter server.settings server.store.catalog).2 } }

theorem extends_entered (server : Server) :
    server.store.catalog.Extends server.entered.store.catalog := by
  obtain ⟨_, gains⟩ := (enters_enter server.settings server.store.catalog).gains
  exact gains.extends

/-- The store that a call flushes, if it comes to that. -/
def flushed? (server : Server) (world : World) : Call → Option Store
  | .start =>
    if server.address ∈ world.held then none
    else match (enter server.settings server.store.catalog).1 with
      | .ok () => some server.entered.store
      | .error _ => none
  | .run =>
    if server.listening && world.interrupts.isTriggered server.interrupt then some server.store
    else none
  | .trigger => none

theorem start_of_held {server : Server} {world : World} (held : server.address ∈ world.held) :
    server.start world = ⟨.error (.bind server.address), server, world, []⟩ := by
  rw [start, if_pos held]

/-- Everything that a start can end with. -/
inductive Starts (server : Server) (world : World) : Effect → Prop where
  | bound {logged : List Log.Event} : server.address ∈ world.held →
      Starts server world ⟨.error (.bind server.address), server, world, logged⟩
  | conflict {details : AttributeConflict} {logged : List Log.Event} :
      server.address ∉ world.held →
      (enter server.settings server.store.catalog).1 = .error details →
      Starts server world ⟨.error (.store (.conflict details)), server.entered, world, logged⟩
  | unwritten {fault : StoreFault} {files : FileSystem} {logged : List Log.Event} :
      server.address ∉ world.held →
      (enter server.settings server.store.catalog).1 = .ok () →
      server.entered.store.flush world.files = (.error fault, files) →
      Starts server world
        ⟨.error (.store fault), server.entered, { world with files := files }, logged⟩
  | started {files : FileSystem} {logged : List Log.Event} : server.address ∉ world.held →
      (enter server.settings server.store.catalog).1 = .ok () →
      server.entered.store.flush world.files = (.ok (), files) →
      Starts server world ⟨.ok (), { server.entered with listening := true },
        { world with files := files, held := server.address :: world.held }, logged⟩

theorem starts_start (server : Server) (world : World) :
    Starts server world (server.start world) := by
  by_cases held : server.address ∈ world.held
  · simp only [start, if_pos held]
    exact .bound held
  · simp only [start, if_neg held]
    have result : (enterAttributes
        (enterNamespaces server.store.catalog server.settings.namespaces).1
        server.settings.attributes.entries).1 =
        (enter server.settings server.store.catalog).1 := rfl
    rw [result]
    cases done : (enter server.settings server.store.catalog).1 with
    | error details => exact .conflict held done
    | ok =>
      have store : server.entered.store.flush world.files = _ := rfl
      simp only
      split
      · next flushed => exact .unwritten held done flushed
      · next flushed => exact .started held done flushed

/-- Only entering attributes can end in a conflict. -/
theorem flush_ne_conflict (store : Store) (files : FileSystem) (details : AttributeConflict) :
    (store.flush files).1 ≠ .error (.conflict details) := by
  rw [Store.flush]
  cases store.path with
  | none => simp
  | some path =>
    simp only [Store.save]
    split
    · simp
    · split <;> simp

theorem start_of_conflict {server : Server} {world : World} {details : AttributeConflict}
    (failed : (server.start world).result = .error (.store (.conflict details))) :
    (server.start world).server = server.entered ∧ (server.start world).world = world ∧
      (enter server.settings server.store.catalog).1 = .error details := by
  have starts := starts_start server world
  generalize server.start world = effect at starts failed ⊢
  cases starts with
  | bound => simp at failed
  | conflict free refused =>
    obtain rfl : _ = details := by simpa using failed
    exact ⟨rfl, rfl, refused⟩
  | unwritten free done flushed =>
    obtain rfl : _ = StoreFault.conflict details := by simpa using failed
    exact absurd (congrArg Prod.fst flushed) (flush_ne_conflict _ _ details)
  | started => simp at failed

theorem stop_server (server : Server) (world : World) :
    (server.stop world).server = { server with listening := false } := by
  rw [stop]
  split <;> rfl

theorem stop_result (server : Server) (world : World) :
    (server.stop world).result = (server.store.flush world.files).1.mapError .store := by
  have files : (world.release server.address).files = world.files := rfl
  simp only [stop, files]
  split <;> rename_i flushed <;> rw [flushed] <;> rfl

theorem stop_world (server : Server) (world : World) :
    (server.stop world).world =
      { world.release server.address with files := (server.store.flush world.files).2 } := by
  have files : (world.release server.address).files = world.files := rfl
  simp only [stop, files]
  split <;> rename_i flushed <;> rw [flushed]

/-- Everything that a run can end with. -/
inductive Runs (server : Server) (world : World) : Server × World → Prop where
  | notStarted : server.listening = false → Runs server world (server, world)
  | waiting : server.listening = true → world.interrupts.isTriggered server.interrupt = false →
      Runs server world (server, world)
  | stopped : server.listening = true → world.interrupts.isTriggered server.interrupt = true →
      Runs server world ({ server with listening := false },
        { world.release server.address with files := (server.store.flush world.files).2 })

theorem runs_call (server : Server) (world : World) :
    Runs server world (server.call world .run) := by
  by_cases listening : server.listening = true
  · by_cases triggered : world.interrupts.isTriggered server.interrupt = true
    · simp only [call, run, if_pos listening, if_pos triggered, stop_server, stop_world]
      exact .stopped listening triggered
    · simp only [call, run, if_pos listening, if_neg triggered]
      exact .waiting listening (by simpa using triggered)
  · simp only [call, run, if_neg listening]
    exact .notStarted (by simpa using listening)

/-- A call changes the files by one flush, or not at all. -/
theorem files_call (server : Server) (world : World) (call : Call) :
    (server.call world call).2.files = match server.flushed? world call with
      | some store => (store.flush world.files).2
      | none => world.files := by
  cases call with
  | start =>
    have starts := starts_start server world
    simp only [Server.call, flushed?]
    generalize server.start world = effect at starts ⊢
    cases starts with
    | bound held => rw [if_pos held]
    | conflict free failed => rw [if_neg free, failed]
    | unwritten free done flushed => simp only [if_neg free, done, flushed]
    | started free done flushed => simp only [if_neg free, done, flushed]
  | run =>
    have runs := runs_call server world
    simp only [flushed?]
    generalize server.call world .run = after at runs ⊢
    cases runs with
    | notStarted idle => simp [idle]
    | waiting listening untriggered => simp [untriggered]
    | stopped listening triggered => simp [listening, triggered]
  | trigger => rfl

/-- What holds of a server in every state of its life. `goal` is the catalog that the settings lead
to. -/
structure Settled (settings : Settings) (path : Path) (goal : Catalog) (server : Server) :
    Prop where
  ofSettings : server.settings = settings
  atPath : server.store.path = some path
  merges : merged settings server.store.catalog = goal
  listening : server.listening = true → server.store.catalog = goal ∧ Grants settings goal

variable {settings : Settings} {path : Path} {goal : Catalog} {server : Server} {world : World}

theorem Settled.enter_eq_ok_iff (settled : Settled settings path goal server) :
    (enter server.settings server.store.catalog).1 = .ok () ↔ Grants settings goal := by
  rw [settled.ofSettings, Server.enter_eq_ok_iff, settled.merges]

theorem Settled.catalog_entered (settled : Settled settings path goal server)
    (grants : Grants settings goal) : server.entered.store.catalog = goal := by
  have done := settled.enter_eq_ok_iff.mpr grants
  simp only [entered]
  rw [settled.ofSettings] at done ⊢
  rw [enter_of_ok settings server.store.catalog done, settled.merges]

theorem Settled.entered (settled : Settled settings path goal server) :
    Settled settings path goal server.entered where
  ofSettings := settled.ofSettings
  atPath := settled.atPath
  merges := by
    simp only [Server.entered]
    rw [settled.ofSettings, merged_enter, settled.merges]
  listening := by
    intro listening
    obtain ⟨_, grants⟩ := settled.listening listening
    exact ⟨settled.catalog_entered grants, grants⟩

/-- Whatever a call flushes is the whole catalog, and the settings agree with it. -/
theorem Settled.flushed? (settled : Settled settings path goal server) {call : Call} {store : Store}
    (flushes : server.flushed? world call = some store) :
    store = ⟨some path, goal⟩ ∧ Grants settings goal := by
  cases call with
  | start =>
    simp only [Server.flushed?] at flushes
    split at flushes
    · simp at flushes
    · split at flushes
      · next done =>
        have grants := settled.enter_eq_ok_iff.mp done
        obtain rfl := Option.some.inj flushes
        refine ⟨?_, grants⟩
        rw [← settled.atPath, ← settled.catalog_entered grants]
        rfl
      · simp at flushes
  | run =>
    simp only [Server.flushed?] at flushes
    split at flushes
    · next serving =>
      obtain ⟨listening, _⟩ := Bool.and_eq_true_iff.mp serving
      obtain ⟨whole, grants⟩ := settled.listening listening
      obtain rfl := Option.some.inj flushes
      refine ⟨?_, grants⟩
      rw [← settled.atPath, ← whole]
    · simp at flushes
  | trigger => simp [Server.flushed?] at flushes

theorem Settled.call (settled : Settled settings path goal server) (world : World) (call : Call) :
    Settled settings path goal (server.call world call).1 := by
  cases call with
  | start =>
    have starts := starts_start server world
    simp only [Server.call]
    generalize server.start world = effect at starts ⊢
    cases starts with
    | bound => exact settled
    | conflict => exact settled.entered
    | unwritten => exact settled.entered
    | started free done _ =>
      have grants := settled.enter_eq_ok_iff.mp done
      exact ⟨settled.ofSettings, settled.atPath, settled.entered.merges,
        fun _ => ⟨settled.catalog_entered grants, grants⟩⟩
  | run =>
    have runs := runs_call server world
    generalize server.call world .run = after at runs ⊢
    cases runs with
    | notStarted => exact settled
    | waiting => exact settled
    | stopped =>
      refine ⟨settled.ofSettings, settled.atPath, settled.merges, ?_⟩
      intro listening
      simp at listening
  | trigger => exact settled

/-- Calls on one server in any order, with the world being changed in between. -/
inductive Course (between : World → World → Prop) (server : Server) (world : World) :
    Server → World → Prop where
  | begun : Course between server world server world
  | call {later : Server} {now : World} (course : Course between server world later now)
      (call : Call) : Course between server world (later.call now call).1 (later.call now call).2
  | meanwhile {later : Server} {now next : World} (course : Course between server world later now)
      (change : between now next) : Course between server world later next

/-- A change that leaves the file at a path alone and puts no link at its temporary sibling. -/
def Spares (path : Path) (before after : World) : Prop :=
  after.files.fileAt? path = before.files.fileAt? path ∧
    after.files.isLink (temporaryPath path) = false

variable {between : World → World → Prop} {later : Server} {now : World}

theorem Course.settled (course : Course between server world later now)
    (settled : Settled settings path goal server) : Settled settings path goal later := by
  induction course with
  | begun => exact settled
  | call _ call ih => exact ih.call _ call
  | meanwhile _ _ ih => exact ih

/-- What one call does to the file at the path. -/
theorem Settled.fileAt?_call (settled : Settled settings path goal server)
    (plain : world.files.isLink (temporaryPath path) = false) (call : Call) :
    (server.call world call).2.files.isLink (temporaryPath path) = false ∧
      ((server.call world call).2.files.fileAt? path = world.files.fileAt? path ∨
        (server.call world call).2.files.fileAt? path = some (saved goal)) := by
  rw [files_call]
  cases flushes : server.flushed? world call with
  | none => exact ⟨plain, .inl rfl⟩
  | some store =>
    obtain ⟨rfl, _⟩ := settled.flushed? flushes
    have saves := saves_save plain goal
    exact ⟨saves.isLink plain, saves.fileAt?⟩

theorem Course.fileAt? (course : Course (Spares path) server world later now)
    (settled : Settled settings path goal server)
    (plain : world.files.isLink (temporaryPath path) = false) :
    now.files.isLink (temporaryPath path) = false ∧
      (now.files.fileAt? path = world.files.fileAt? path ∨
        now.files.fileAt? path = some (saved goal)) := by
  induction course with
  | begun => exact ⟨plain, .inl rfl⟩
  | call course call ih =>
    obtain ⟨stillPlain, before⟩ := ih
    obtain ⟨plainAfter, after⟩ := (course.settled settled).fileAt?_call stillPlain call
    refine ⟨plainAfter, ?_⟩
    rcases after with same | whole
    · rwa [same]
    · exact .inr whole
  | meanwhile _ change ih =>
    obtain ⟨same, plainAfter⟩ := change
    refine ⟨plainAfter, ?_⟩
    rw [same]
    exact ih.2

theorem settled_build {directives : Option String} {opened : World}
    (built : build directives settings world = (.ok server, opened))
    (backed : settings.storage = .file path) :
    Settled settings path (merged settings server.store.catalog) server := by
  cases builds_of_eq built with
  | built _ _ stored =>
    rw [backed, Store.openAt] at stored
    exact ⟨rfl, (Store.openFile_ok stored).2.1, rfl, by simp⟩

/-- Once the settings conflict with the catalog, no call flushes anything. -/
theorem Settled.flushed?_of_conflict (settled : Settled settings path goal server)
    (conflict : ¬Grants settings goal) (world : World) (call : Call) :
    server.flushed? world call = none := by
  cases flushes : server.flushed? world call with
  | none => rfl
  | some store => exact absurd (settled.flushed? flushes).2 conflict

/-- At every moment in the life of a server the file at its path is as it was when the server was
built, or it is the whole catalog that the settings lead to. After a start that failed on a conflict
no call flushes anything, although the namespaces are in the catalog by then. -/
theorem partial_catalog_never_saved {directives : Option String} {opened : World}
    (built : build directives settings world = (.ok server, opened))
    (backed : settings.storage = .file path)
    (plain : opened.files.isLink (temporaryPath path) = false) :
    (∀ later now, Course (Spares path) server opened later now →
      (now.files.fileAt? path = opened.files.fileAt? path ∨
        now.files.fileAt? path = some (saved (merged settings server.store.catalog))) ∧
      ∀ call store, later.flushed? now call = some store →
        (midway now.files store).fileAt? path = opened.files.fileAt? path ∨
          (midway now.files store).fileAt? path =
            some (saved (merged settings server.store.catalog))) ∧
    ∀ between later now details, Course between server opened later now →
      (later.start now).result = .error (.store (.conflict details)) →
      (later.start now).server.store.catalog.namespaces =
          (merged settings server.store.catalog).namespaces ∧
        (later.start now).world.files = now.files ∧
        ∀ last final, Course between (later.start now).server (later.start now).world last final →
          ∀ call, last.flushed? final call = none ∧
            (last.call final call).2.files = final.files := by
  have settled := settled_build built backed
  constructor
  · intro later now course
    obtain ⟨plainNow, file⟩ := course.fileAt? settled plain
    refine ⟨file, ?_⟩
    intro call store flushes
    obtain ⟨rfl, _⟩ := (course.settled settled).flushed? flushes
    rcases Store.fileAt?_midway plainNow (merged settings server.store.catalog) with same | whole
    · rwa [same]
    · exact .inr whole
  · intro between later now details course failed
    have settledNow := course.settled settled
    obtain ⟨serverAfter, worldAfter, refused⟩ := start_of_conflict failed
    have conflict : ¬Grants settings (merged settings server.store.catalog) := by
      rw [← settledNow.enter_eq_ok_iff, refused]
      simp
    refine ⟨?_, congrArg World.files worldAfter, ?_⟩
    · rw [serverAfter, entered, namespaces_enter, settledNow.ofSettings, settledNow.merges]
    · intro last final rest call
      have settledLast := rest.settled (settledNow.call now .start)
      have idle := settledLast.flushed?_of_conflict conflict final call
      refine ⟨idle, ?_⟩
      rw [files_call, idle]

/-- A server on a database that holds an attribute with another type than the settings. -/
theorem conflicting_start_never_saved :
    let held : Catalog := ⟨["old"], (∅ : Attribute.Table).insert "Code" .int⟩
    let files := FileSystem.start.put [Octets.ofString "work", Octets.ofString "db"]
      (.file (saved held))
    let logger : Log.Logger := ⟨.json, .standard⟩
    let settings : Settings := ⟨7233, "127.0.0.1", .file (.ofString "db"), ["new"],
      (∅ : Attribute.Table).insert "Code" .keyword, some logger, none⟩
    let server : Server := ⟨settings, ⟨.four [127, 0, 0, 1], 7233⟩, ⟨some (.ofString "db"), held⟩,
      logger, ⟨0⟩, false⟩
    let opened := (build none settings ⟨files, [], .none⟩).2
    (build none settings ⟨files, [], .none⟩).1 = .ok server ∧
      (server.start opened).result = .error (.store (.conflict ⟨"Code", .int, .keyword⟩)) ∧
      (server.start opened).server.store.catalog.namespaces = ["old", "new"] ∧
      ∀ call, ((server.start opened).server.call (server.start opened).world call).2.files =
        (server.start opened).world.files := by
  intro held files logger settings server opened
  have ready : (build none settings ⟨files, [], .none⟩).1 = .ok server := by decide
  have built : build none settings ⟨files, [], .none⟩ = (.ok server, opened) := Prod.ext ready rfl
  have plain : opened.files.isLink (temporaryPath (.ofString "db")) = false := by decide
  have failed : (server.start opened).result =
      .error (.store (.conflict ⟨"Code", .int, .keyword⟩)) := by decide
  obtain ⟨_, never⟩ := partial_catalog_never_saved built rfl plain
  obtain ⟨_, _, later⟩ := never (fun _ _ => True) server opened _ .begun failed
  exact ⟨ready, failed, by decide, fun call => (later _ _ .begun call).2⟩

end WorkflowLaunch.Server
