import WorkflowLaunch.Proofs.Http.Bodies
import WorkflowLaunch.Proofs.Server.Tenancy
import WorkflowLaunch.Proofs.Store.Steadiness

set_option autoImplicit false

/-!
A server from a start that succeeded to the end of the next run. The catalog in memory, the database
and what the front end answers stand for the same all the time.
-/

namespace WorkflowLaunch.Server

open Store (LeadsThroughItself saved temporaryPath)

/-- How far a server has come since it was started. The front end of a run answers from the catalog
that it was given when the run began. -/
inductive Phase where
  | started
  | serving (snapshot : Catalog)
  | ended

/-- What others may do meanwhile: anything but to free the address of a server or to write its
database. -/
structure Aside (server : Server) (before after : World) : Prop where
  held : server.address ∈ before.held → server.address ∈ after.held
  spares : ∀ path, server.store.path = some path → Spares path before after

/-- The time of a server from a start on, with the requests that were answered, the last one in
front. Another start may be tried before the run. -/
inductive Service (server : Server) (world : World) :
    Phase → List (Http.Request × Http.Response) → Server → World → Prop where
  | begun : Service server world .started [] server world
  | start {answered : List (Http.Request × Http.Response)} {later : Server} {now : World}
      (service : Service server world .started answered later now) :
      Service server world .started answered (later.start now).server (later.start now).world
  | run {answered : List (Http.Request × Http.Response)} {later : Server} {now : World}
      (service : Service server world .started answered later now)
      (listening : later.listening = true) :
      Service server world (.serving later.store.catalog) answered later now
  | answer {snapshot : Catalog} {answered : List (Http.Request × Http.Response)} {later : Server}
      {now : World} (service : Service server world (.serving snapshot) answered later now)
      (request : Http.Request) :
      Service server world (.serving snapshot)
        ((request, Http.respond snapshot request) :: answered) later now
  | stop {snapshot : Catalog} {answered : List (Http.Request × Http.Response)} {later : Server}
      {now : World} {effect : Effect}
      (service : Service server world (.serving snapshot) answered later now)
      (ends : later.run now = .ended effect) :
      Service server world .ended answered effect.server effect.world
  | meanwhile {phase : Phase} {answered : List (Http.Request × Http.Response)} {later : Server}
      {now next : World} (service : Service server world phase answered later now)
      (aside : Aside server now next) : Service server world phase answered later next

variable {server later : Server} {world now : World} {phase : Phase} {path : Path}
  {answered : List (Http.Request × Http.Response)} {effect : Effect}

/-- A server that listens and holds its address. -/
structure Listens (server : Server) (world : World) : Prop where
  listening : server.listening = true
  held : server.address ∈ world.held

theorem ended_of_listening (listening : server.listening = true)
    (ends : server.run world = .ended effect) : effect = server.stop world := by
  rw [run, if_pos listening] at ends
  split at ends
  · exact (Run.ended.inj ends).symm
  · simp at ends

/-- Until the run ends the server is the one that was started, with the catalog in its front end. -/
structure Abides (server : Server) (phase : Phase) (later : Server) (now : World) : Prop where
  store : later.store = server.store
  same : phase ≠ .ended → later = server ∧ Listens server now
  snapshot : ∀ snapshot, phase = .serving snapshot → snapshot = server.store.catalog

theorem Service.abides (service : Service server world phase answered later now)
    (listens : Listens server world) : Abides server phase later now := by
  induction service with
  | begun => exact ⟨rfl, fun _ => ⟨rfl, listens⟩, by simp⟩
  | start _ ih =>
    obtain ⟨rfl, listensNow⟩ := ih.same (by simp)
    rw [start_of_held listensNow.held]
    exact ih
  | run _ _ ih =>
    obtain ⟨rfl, listensNow⟩ := ih.same (by simp)
    exact ⟨rfl, fun _ => ⟨rfl, listensNow⟩, fun _ same => (Phase.serving.inj same).symm⟩
  | answer _ _ ih => exact ih
  | stop _ ends ih =>
    obtain ⟨rfl, listensNow⟩ := ih.same (by simp)
    obtain rfl := ended_of_listening listensNow.listening ends
    exact ⟨by rw [stop_server], by simp, by simp⟩
  | meanwhile _ aside ih =>
    refine ⟨ih.store, fun unended => ?_, ih.snapshot⟩
    obtain ⟨rfl, listensNow⟩ := ih.same unended
    exact ⟨rfl, listensNow.listening, aside.held listensNow.held⟩

/-- Every answer was given from the catalog of the server. -/
theorem Service.answers (service : Service server world phase answered later now)
    (listens : Listens server world) {request : Http.Request} {response : Http.Response}
    (member : (request, response) ∈ answered) :
    response = Http.respond server.store.catalog request := by
  induction service with
  | begun => simp at member
  | start _ ih => exact ih member
  | run _ _ ih => exact ih member
  | answer service request ih =>
    rcases List.mem_cons.mp member with here | before
    · obtain ⟨rfl, rfl⟩ := Prod.mk.inj here
      rw [(service.abides listens).snapshot _ rfl]
    · exact ih before
  | stop _ _ ih => exact ih member
  | meanwhile _ _ ih => exact ih member

/-- The database holds the catalog of the server, and can be written again. -/
structure Backed (server : Server) (path : Path) (world : World) : Prop where
  file : world.files.fileAt? path = some (saved server.store.catalog)
  plain : world.files.isLink (temporaryPath path) = false

theorem Service.backed (service : Service server world phase answered later now)
    (listens : Listens server world) (atPath : server.store.path = some path)
    (backed : Backed server path world) : Backed server path now := by
  induction service with
  | begun => exact backed
  | start service ih =>
    obtain ⟨rfl, listensNow⟩ := (service.abides listens).same (by simp)
    rw [start_of_held listensNow.held]
    exact ih
  | run _ _ ih => exact ih
  | answer _ _ ih => exact ih
  | stop service ends ih =>
    obtain ⟨rfl, listensNow⟩ := (service.abides listens).same (by simp)
    obtain rfl := ended_of_listening listensNow.listening ends
    have saves := Store.saves_flush atPath ih.plain
    rw [stop_world]
    exact ⟨saves.fileAt?.elim (fun same => same.trans ih.file) id, saves.isLink ih.plain⟩
  | meanwhile _ aside ih =>
    obtain ⟨same, plain⟩ := aside.spares path atPath
    exact ⟨same.trans ih.file, plain⟩

theorem listens_of_start (started : (server.start world).result = .ok ()) :
    Listens (server.start world).server (server.start world).world := by
  have starts := starts_start server world
  generalize server.start world = effect at starts started ⊢
  cases starts with
  | started => exact ⟨rfl, List.mem_cons_self⟩
  | _ => simp at started

theorem backed_of_start (started : (server.start world).result = .ok ())
    (atPath : server.store.path = some path)
    (plain : world.files.isLink (temporaryPath path) = false)
    (straight : ¬LeadsThroughItself world.files path) :
    Backed (server.start world).server path (server.start world).world ∧
      (server.start world).server.store.path = some path := by
  have starts := starts_start server world
  generalize server.start world = effect at starts started ⊢
  cases starts with
  | started _ _ flushed =>
    have own : server.entered.store.path = some path := atPath
    have saves := Store.saves_flush own plain
    rw [flushed] at saves
    exact ⟨⟨saves.fileAt?_of_straight straight, saves.isLink plain⟩, own⟩
  | _ => simp at started

/-- From a start that succeeded to the end of the next run, whatever requests are answered in
between, the catalog in memory stays as it is, and clients who ask for the namespaces or the
attributes read what is in it. If the server has a database, with no link at its temporary sibling
and a path that does not lead through the entry that it names, then the database holds the same, in
the same octets all the time. -/
theorem memory_disk_and_front_end_agree (started : (server.start world).result = .ok ())
    (service : Service (server.start world).server (server.start world).world phase answered later
      now) :
    later.store = (server.start world).server.store ∧
      (∀ request response, (request, response) ∈ answered → request.method = "GET" →
        Http.Shows later.store.catalog request response) ∧
      ∀ path, server.store.path = some path →
        world.files.isLink (temporaryPath path) = false → ¬LeadsThroughItself world.files path →
          Store.load now.files path = .ok later.store.catalog ∧
            now.files.fileAt? path = some (saved later.store.catalog) ∧
            (server.start world).world.files.fileAt? path = some (saved later.store.catalog) := by
  have listens := listens_of_start started
  have same := (service.abides listens).store
  refine ⟨same, ?_, ?_⟩
  · intro request response member get
    rw [service.answers listens member, same]
    exact Http.shows_respond _ get
  · intro path atPath plain straight
    obtain ⟨backed, own⟩ := backed_of_start started atPath plain straight
    have file := (service.backed listens own backed).file
    rw [same]
    exact ⟨Store.load_of_fileAt? file, file, backed.file⟩

theorem run_of_triggered (listening : server.listening = true) :
    server.run (world.trigger server.interrupt) =
      .ended (server.stop (world.trigger server.interrupt)) := by
  have triggered : (world.trigger server.interrupt).interrupts.isTriggered server.interrupt =
      true := by
    simp [World.trigger]
  rw [run, if_pos listening, if_pos triggered]

/-- A server answers one request and is told to stop. -/
theorem Listens.serves_once (listens : Listens server world)
    (plain : ∀ path, server.store.path = some path →
      world.files.isLink (temporaryPath path) = false) (request : Http.Request) :
    Service server world .ended [(request, Http.respond server.store.catalog request)]
      (server.stop (world.trigger server.interrupt)).server
      (server.stop (world.trigger server.interrupt)).world := by
  have aside : Aside server world (world.trigger server.interrupt) :=
    ⟨id, fun path atPath => ⟨rfl, plain path atPath⟩⟩
  have unserved : Service server world .started [] server world := .begun
  have serving := (unserved.run listens.listening).answer request
  exact (serving.meanwhile aside).stop (run_of_triggered listens.listening)

/-- A server with one namespace to enter, on a database that was empty. -/
def onDatabase (path : Path) : Server :=
  ⟨⟨7233, "127.0.0.1", .file path, ["a"], ∅, some ⟨.json, .standard⟩, none⟩,
    ⟨.four [127, 0, 0, 1], 7233⟩, ⟨some path, ∅⟩, ⟨.json, .standard⟩, ⟨0⟩, false⟩

/-- A start of that server where nobody holds an address. -/
def startOn (path : Path) (files : FileSystem) : Effect :=
  (onDatabase path).start ⟨files, [], .none⟩

/-- A server with a database answers a request for its namespaces and is told to stop. -/
theorem served_until_stopped :
    let started := startOn (.ofString "db") .start
    let response :=
      Http.respond started.server.store.catalog ⟨"GET", "/api/v1/namespaces?limit=1"⟩
    let stopped := started.server.stop (started.world.trigger started.server.interrupt)
    started.result = .ok () ∧ response.status = 200 ∧
      Catalog.readNamespaces response.body.toList =
        .ok (stopped.server.store.catalog.namespaces, []) ∧
      Store.load stopped.world.files (.ofString "db") = .ok stopped.server.store.catalog := by
  intro started response stopped
  have ok : started.result = .ok () := by decide +kernel
  have plain : FileSystem.start.isLink (temporaryPath (.ofString "db")) = false := by decide
  have loaded : Store.load FileSystem.start (.ofString "db") = .ok ∅ := by decide
  have straight := Store.not_leadsThroughItself_of_load loaded
  obtain ⟨backed, own⟩ := backed_of_start ok rfl plain straight
  have stillPlain : ∀ path, started.server.store.path = some path →
      started.world.files.isLink (temporaryPath path) = false := by
    intro path same
    obtain rfl := Option.some.inj (own.symm.trans same)
    exact backed.plain
  have service := (listens_of_start ok).serves_once stillPlain
    ⟨"GET", "/api/v1/namespaces?limit=1"⟩
  obtain ⟨_, answers, database⟩ := memory_disk_and_front_end_agree ok service
  obtain ⟨whole, _⟩ := database _ rfl plain straight
  obtain ⟨status, names⟩ :=
    (answers _ _ List.mem_cons_self rfl).namespaces (by decide)
  exact ⟨ok, status, names, whole⟩

/-- A start that succeeds leaves no database behind where a link stands at its temporary sibling, or
where the path leads through its own entry. If such a link is made later, the end of the run
replaces the database by a link to itself. -/
theorem database_lost_behind_link :
    let linked (files : FileSystem) (name target : String) : FileSystem :=
      files.put [Octets.ofString "work", Octets.ofString name] (.link (.ofString target))
    let behind := startOn (.ofString "db") (linked .start "db.tmp" "db")
    let through := startOn (.ofString "x/x") (linked .start "x" ".")
    let plain := startOn (.ofString "db") .start
    let stopped := plain.server.stop { plain.world with
      files := linked plain.world.files "db.tmp" "db" }
    (behind.result = .ok () ∧ behind.server.store.catalog.namespaces = ["a"] ∧
        Store.load behind.world.files (.ofString "db") =
          .error (.access (.ofString "db") .tooManyLinks)) ∧
      (through.result = .ok () ∧
        Store.load through.world.files (.ofString "x/x") =
          .error (.access (.ofString "x/x") .notDirectory)) ∧
      plain.result = .ok () ∧ stopped.result = .ok () ∧
        Store.load stopped.world.files (.ofString "db") =
          .error (.access (.ofString "db") .tooManyLinks) := by
  decide +kernel

end WorkflowLaunch.Server
