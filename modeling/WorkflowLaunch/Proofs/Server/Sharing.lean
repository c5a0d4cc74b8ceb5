import WorkflowLaunch.Proofs.Server.Deeds
import WorkflowLaunch.Proofs.Store.Steadiness

set_option autoImplicit false

/-!
Servers that share a database. Each reads it when it is built and writes its own catalog when it is
started and when its run ends, so the database is always the catalog that was written last. Of what
a start has written, nothing is lost until a server that was built before that start writes again.
-/

namespace WorkflowLaunch

open FileSystem
open Store (Steady openFile saved settled temporaryPath)

namespace Server

variable {directives : Option String} {settings : Settings} {server : Server} {world after : World}
  {path : Path}

/-- A build opens the database in the settings, or it fails before. -/
theorem build_of_file {result : Except ServerFault Server} (backed : settings.storage = .file path)
    (built : build directives settings world = (result, after)) :
    (after.files = world.files ∨ after.files = settled world.files path) ∧
      ∀ server, result = .ok server →
        openFile world.files path = (.ok server.store, after.files) := by
  rw [← Store.openFile_files]
  cases builds_of_eq built with
  | unaddressed => exact ⟨.inl rfl, by simp⟩
  | unlogged => exact ⟨.inl rfl, by simp⟩
  | unopened _ _ stored =>
    rw [backed, Store.openAt] at stored
    exact ⟨.inr (by rw [stored]), by simp⟩
  | built _ _ stored =>
    rw [backed, Store.openAt] at stored
    refine ⟨.inr (by rw [stored]), ?_⟩
    rintro server ⟨⟩
    exact stored

end Server

namespace Fleet

/-- The server that a step makes write, with what it writes. -/
def flush? (fleet : Fleet) : Step → Option (Nat × Store)
  | .start number => (fleet.server? number).bind fun server =>
    (server.flushed? fleet.world .start).map (number, ·)
  | .run number => (fleet.server? number).bind fun server =>
    if server.listening then some (number, server.store) else none
  | _ => none

/-- The server that a step makes write, with the catalog, if writing it succeeds. -/
def written? (fleet : Fleet) (step : Step) : Option (Nat × Catalog) :=
  (fleet.flush? step).bind fun (number, store) => match store.flush fleet.world.files with
    | (.ok (), _) => some (number, store.catalog)
    | (.error _, _) => none

/-- Steps on servers that share a database, and what was written meanwhile by which server, the last
catalog in front. Nobody else changes any file. -/
inductive Sharing (directives : Option String) (path : Path) (first : Fleet) :
    List (Nat × Catalog) → Fleet → Prop where
  | begun : Sharing directives path first [] first
  | step {writes : List (Nat × Catalog)} {fleet : Fleet}
      (sharing : Sharing directives path first writes fleet) (step : Step)
      (shares : ∀ settings, step = .build settings → settings.storage = .file path) :
      Sharing directives path first ((fleet.written? step).toList ++ writes)
        (fleet.step directives step).2

/-- No server has come, and those that are still there have lost nothing. -/
structure Ahead (fleet after : Fleet) : Prop where
  length : after.servers.length = fleet.servers.length
  servers : ∀ number next, after.server? number = some next →
    ∃ before, fleet.server? number = some before ∧ next.store.path = before.store.path ∧
      before.store.catalog.Extends next.store.catalog

/-- What a step does to the database and to the catalogs of the servers. -/
inductive Touches (path : Path) (fleet : Fleet) (step : Step) (after : Fleet) : Prop where
  | built {given : Option Server} (idle : fleet.flush? step = none)
      (servers : after.servers = fleet.servers ++ [given])
      (files : after.world.files = fleet.world.files ∨
        after.world.files = settled fleet.world.files path)
      (opened : ∀ server, given = some server →
        openFile fleet.world.files path = (.ok server.store, after.world.files))
  | kept (idle : fleet.flush? step = none) (ahead : Ahead fleet after)
      (files : after.world.files = fleet.world.files)
  | flushed {number : Nat} {server : Server}
      (flushes : fleet.flush? step = some (number, server.store)) (ahead : Ahead fleet after)
      (found : after.server? number = some server)
      (files : after.world.files = (server.store.flush fleet.world.files).2)

variable {directives : Option String} {path : Path} {first fleet after later : Fleet}
  {writes since : List (Nat × Catalog)} {number : Nat} {server : Server} {step : Step}

theorem Ahead.of_servers (same : after.servers = fleet.servers) : Ahead fleet after := by
  refine ⟨by rw [same], ?_⟩
  intro number next found
  rw [server?, same] at found
  exact ⟨next, found, rfl, .refl _⟩

theorem ahead_set {given : Option Server} (found : fleet.server? number = some server)
    (grows : ∀ next, given = some next → next.store.path = server.store.path ∧
      server.store.catalog.Extends next.store.catalog) (world : World) :
    Ahead fleet { fleet with servers := fleet.servers.set number given, world := world } := by
  refine ⟨by simp, ?_⟩
  intro other next held
  rw [server?_set found rfl] at held
  split at held
  · next here => exact ⟨server, here ▸ found, grows next held⟩
  · exact ⟨next, held, rfl, .refl _⟩

theorem touches_build {settings : Settings} (backed : settings.storage = .file path) :
    Touches path fleet (.build settings) (fleet.step directives (.build settings)).2 := by
  simp only [Fleet.step]
  rcases built : Server.build directives settings fleet.world with ⟨_ | server, world⟩
  · obtain ⟨files, _⟩ := Server.build_of_file backed built
    exact .built rfl rfl files (by simp)
  · obtain ⟨files, opened⟩ := Server.build_of_file backed built
    refine .built rfl rfl files ?_
    rintro next ⟨rfl⟩
    exact opened server rfl

theorem touches_start (found : fleet.server? number = some server) :
    Touches path fleet (.start number) (fleet.step directives (.start number)).2 := by
  have flushes : fleet.flush? (.start number) =
      (server.flushed? fleet.world .start).map (number, ·) := by
    simp [flush?, found]
  have entered (next : Server) (same : next.store = server.entered.store) :
      next.store.path = server.store.path ∧
        server.store.catalog.Extends next.store.catalog := by
    rw [same]
    exact ⟨rfl, server.extends_entered⟩
  simp only [Fleet.step, found, settle]
  have starts := Server.starts_start server fleet.world
  generalize server.start fleet.world = effect at starts ⊢
  cases starts with
  | bound held =>
    refine .kept ?_ (ahead_set found ?_ _) rfl
    · rw [flushes, Server.flushed?, if_pos held]
      rfl
    · rintro next ⟨rfl⟩
      exact ⟨rfl, .refl _⟩
  | conflict free failed =>
    refine .kept ?_ (ahead_set found ?_ _) rfl
    · rw [flushes, Server.flushed?, if_neg free, failed]
      rfl
    · rintro next ⟨rfl⟩
      exact entered _ rfl
  | unwritten free done flushed =>
    refine .flushed ?_ (ahead_set found ?_ _) ((server?_set found rfl number).trans (if_pos rfl)) ?_
    · rw [flushes, Server.flushed?, if_neg free, done]
      rfl
    · rintro next ⟨rfl⟩
      exact entered _ rfl
    · rw [flushed]
  | started free done flushed =>
    refine .flushed ?_ (ahead_set found ?_ _) ((server?_set found rfl number).trans (if_pos rfl)) ?_
    · rw [flushes, Server.flushed?, if_neg free, done]
      rfl
    · rintro next ⟨rfl⟩
      exact entered _ rfl
    · simp only [flushed]

theorem touches_run (found : fleet.server? number = some server) :
    Touches path fleet (.run number) (fleet.step directives (.run number)).2 := by
  rw [step_run found, settle]
  have same : (server.runUntilTriggered fleet.world).2.server.store = server.store := by
    rw [Server.runUntilTriggered_server]
  have grows (next : Server)
      (given : some (server.runUntilTriggered fleet.world).2.server = some next) :
      next.store.path = server.store.path ∧
        server.store.catalog.Extends next.store.catalog := by
    rw [← Option.some.inj given, same]
    exact ⟨rfl, .refl _⟩
  have ahead := ahead_set found grows (server.runUntilTriggered fleet.world).2.world
  cases listening : server.listening with
  | false =>
    refine .kept (by simp [flush?, found, listening]) ahead ?_
    rw [Server.runUntilTriggered_of_idle listening]
  | true =>
    refine .flushed ?_ ahead ((server?_set found rfl number).trans (if_pos rfl)) ?_
    · rw [same]
      simp [flush?, found, listening]
    · obtain ⟨now, _, files, stops⟩ := Server.runUntilTriggered_of_listening fleet.world listening
      rw [same, stops, Server.stop_world, files]

theorem touches_step (fleet : Fleet) (step : Step)
    (shares : ∀ settings, step = .build settings → settings.storage = .file path) :
    Touches path fleet step (fleet.step directives step).2 := by
  have absent {number : Nat} (found : fleet.server? number = none) :
      fleet.flush? (.start number) = none ∧ fleet.flush? (.run number) = none := by
    simp [flush?, found]
  cases step with
  | build settings => exact touches_build (shares settings rfl)
  | start number =>
    cases found : fleet.server? number with
    | none =>
      simp only [Fleet.step, found]
      exact .kept (absent found).1 (.of_servers rfl) rfl
    | some server => exact touches_start found
  | run number =>
    cases found : fleet.server? number with
    | none =>
      simp only [Fleet.step, found]
      exact .kept (absent found).2 (.of_servers rfl) rfl
    | some server => exact touches_run found
  | trigger number =>
    simp only [Fleet.step]
    cases fleet.server? number <;> exact .kept rfl (.of_servers rfl) rfl
  | drop number =>
    simp only [Fleet.step]
    cases found : fleet.server? number with
    | none => exact .kept rfl (.of_servers rfl) rfl
    | some server =>
      refine .kept rfl (ahead_set found (by simp) _) ?_
      simp only [Server.drop]
      split <;> rfl
  | interrupt hook => exact .kept rfl (.of_servers rfl) rfl

/-- Every server there is has the database at a path, and can write it. -/
structure Tended (path : Path) (fleet : Fleet) : Prop where
  plain : (settled fleet.world.files path).isLink (temporaryPath path) = false
  steady : ∀ number server, fleet.server? number = some server →
    server.store.path = some path ∧ Steady fleet.world.files path

theorem Tended.touches (tended : Tended path fleet) (touches : Touches path fleet step after) :
    Tended path after := by
  obtain ⟨plain, steady⟩ := tended
  cases touches with
  | @built given _ servers files opened =>
    have same : settled after.world.files path = settled fleet.world.files path := by
      rcases files with files | files
      · rw [files]
      · rw [files, Store.settled_settled]
    refine ⟨by rw [same, plain], ?_⟩
    intro number server found
    rw [server?_append servers] at found
    split at found
    · have opens := opened server found
      obtain ⟨ready, backed, _⟩ := Store.openFile_ok opens
      rw [← same, Store.settled_of_ready ready] at plain
      exact ⟨backed, Store.steady_of_openFile opens plain⟩
    · obtain ⟨backed, ready⟩ := steady number server found
      rw [Store.settled_of_ready ready.ready, or_self] at files
      rw [files]
      exact ⟨backed, ready⟩
  | kept _ ahead files =>
    refine ⟨by rw [files, plain], ?_⟩
    intro number next found
    obtain ⟨before, held, backed, _⟩ := ahead.servers number next found
    rw [files, backed]
    exact steady number before held
  | @flushed writer server _ ahead found files =>
    have backed (number : Nat) (next : Server) (found : after.server? number = some next) :
        next.store.path = some path ∧ Steady fleet.world.files path := by
      obtain ⟨before, held, same, _⟩ := ahead.servers number next found
      rw [same]
      exact steady number before held
    obtain ⟨own, ready⟩ := backed writer server found
    have stays : Steady after.world.files path := by
      rw [files]
      exact ready.save (Store.saves_flush own ready.plain)
    refine ⟨by rw [Store.settled_of_ready stays.ready, stays.plain], ?_⟩
    intro number next found
    exact ⟨(backed number next found).1, stays⟩

theorem Sharing.tended (sharing : Sharing directives path first writes fleet)
    (tended : Tended path first) : Tended path fleet := by
  induction sharing with
  | begun => exact tended
  | step _ step shares ih => exact ih.touches (touches_step _ step shares)

/-- The catalog that was written last. -/
def latest (catalog : Catalog) : List (Nat × Catalog) → Catalog
  | [] => catalog
  | (_, written) :: _ => written

variable {catalog : Catalog}

/-- A step leaves in the file what it has written, or what was there. -/
theorem Touches.fileAt? (touches : Touches path fleet step after) (tended : Tended path fleet)
    (held : fleet.world.files.fileAt? path = some (saved catalog)) :
    after.world.files.fileAt? path =
      some (saved (latest catalog (fleet.written? step).toList)) := by
  cases touches with
  | built idle _ files =>
    rw [Store.settled_of_ready (Store.ready_of_fileAt? held), or_self] at files
    rw [files, written?, idle]
    exact held
  | kept idle _ files =>
    rw [files, written?, idle]
    exact held
  | @flushed writer server flushes ahead found files =>
    obtain ⟨before, there, same, _⟩ := ahead.servers writer server found
    obtain ⟨backed, ready⟩ := tended.steady writer before there
    rw [← same] at backed
    have saves := Store.saves_flush backed ready.plain
    rw [files, written?, flushes, Option.bind_some]
    simp only
    split
    · next flushed =>
      rw [flushed] at saves
      rw [flushed]
      exact ready.fileAt?_of_ok saves
    · next flushed =>
      rw [Store.flush, backed] at flushed
      rw [Store.flush, backed, flushed]
      simp only [Store.save_of_fileAt? ready.plain held flushed]
      exact held

theorem latest_append (catalog : Catalog) (written : Option (Nat × Catalog))
    (writes : List (Nat × Catalog)) :
    latest catalog (written.toList ++ writes) =
      latest (latest catalog writes) written.toList := by
  cases written <;> rfl

theorem Sharing.fileAt? (sharing : Sharing directives path first writes fleet)
    (tended : Tended path first)
    (held : first.world.files.fileAt? path = some (saved catalog)) :
    fleet.world.files.fileAt? path = some (saved (latest catalog writes)) := by
  induction sharing with
  | begun => exact held
  | step before step shares ih =>
    rw [latest_append]
    exact (touches_step _ step shares).fileAt? (before.tended tended) ih

/-- A server that was built before a certain one, and is not the starter, has written a catalog
without an item. -/
def Lost (number bound : Nat) (item : Catalog.Item) (writes : List (Nat × Catalog)) : Prop :=
  ∃ older catalog, (older, catalog) ∈ writes ∧ older ≠ number ∧ older < bound ∧ ¬catalog.Has item

/-- The servers that know of an item: the one that was started with it, and those built since. -/
def Known (number bound : Nat) (item : Catalog.Item) (fleet : Fleet) : Prop :=
  ∀ other server, fleet.server? other = some server → other = number ∨ bound ≤ other →
    server.store.catalog.Has item

section Items

variable {bound : Nat} {item : Catalog.Item}

theorem Known.ahead (known : Known number bound item fleet) (ahead : Ahead fleet after) :
    Known number bound item after := by
  intro other next found inside
  obtain ⟨before, held, _, longer⟩ := ahead.servers other next found
  exact longer.has (known other before held inside)

/-- A step loses an item only if an older server writes without it. -/
theorem Touches.keeps (touches : Touches path fleet step after)
    (held : fleet.world.files.fileAt? path = some (saved catalog))
    (known : Known number bound item fleet) (has : catalog.Has item) :
    Lost number bound item (fleet.written? step).toList ∨
      (latest catalog (fleet.written? step).toList).Has item ∧ Known number bound item after := by
  cases touches with
  | built idle servers _ opened =>
    rw [written?, idle]
    refine .inr ⟨has, ?_⟩
    intro other server found inside
    rw [server?_append servers] at found
    split at found
    · obtain ⟨_, _, read⟩ := Store.openFile_ok (opened server found)
      rw [Store.found?_of_ready (Store.ready_of_fileAt? held), held, Store.catalogIn?_saved] at read
      rwa [← Option.some.inj read]
    · exact known other server found inside
  | kept idle ahead =>
    rw [written?, idle]
    exact .inr ⟨has, known.ahead ahead⟩
  | @flushed writer server flushes ahead found =>
    have knownAfter := known.ahead ahead
    rw [written?, flushes, Option.bind_some]
    simp only
    split
    · by_cases holds : server.store.catalog.Has item
      · exact .inr ⟨holds, knownAfter⟩
      · apply Or.inl
        have other := mt (knownAfter writer server found) holds
        exact ⟨writer, _, List.mem_singleton_self _, by omega, by omega, holds⟩
    · exact .inr ⟨has, knownAfter⟩

theorem Sharing.keeps (sharing : Sharing directives path first writes fleet)
    (tended : Tended path first) (held : first.world.files.fileAt? path = some (saved catalog))
    (known : Known number bound item first) (has : catalog.Has item) :
    Lost number bound item writes ∨
      (latest catalog writes).Has item ∧ Known number bound item fleet := by
  induction sharing with
  | begun => exact .inr ⟨has, known⟩
  | @step _ now before step shares ih =>
    rcases ih with ⟨older, lost, member, rest⟩ | ⟨has, known⟩
    · exact .inl ⟨older, lost, List.mem_append_right _ member, rest⟩
    · rw [latest_append]
      have file := before.fileAt? tended held
      have touches : Touches path now step (now.step directives step).2 :=
        touches_step now step shares
      refine (touches.keeps file known has).imp_left ?_
      rintro ⟨older, lost, member, rest⟩
      exact ⟨older, lost, List.mem_append_left _ member, rest⟩

end Items

/-- A start that succeeds has written the catalog of its server. -/
theorem started_ready {started : Server}
    (ready : (fleet.step directives (.start number)).1.answer = .ready started) :
    ∃ before, fleet.server? number = some before ∧ started.store = before.entered.store ∧
      (fleet.step directives (.start number)).2.server? number = some started ∧
      started.store.flush fleet.world.files =
        (.ok (), (fleet.step directives (.start number)).2.world.files) := by
  cases found : fleet.server? number with
  | none => simp [Fleet.step, found] at ready
  | some server =>
    have starts := Server.starts_start server fleet.world
    simp only [Fleet.step, found] at ready ⊢
    generalize server.start fleet.world = effect at starts ready ⊢
    cases starts with
    | bound => simp at ready
    | conflict => simp at ready
    | unwritten => simp at ready
    | started _ _ flushed =>
      obtain rfl := Answer.ready.inj ready
      exact ⟨server, rfl, rfl, (server?_set found rfl number).trans (if_pos rfl), flushed⟩

theorem length_start (fleet : Fleet) (number : Nat) :
    (fleet.step directives (.start number)).2.servers.length = fleet.servers.length := by
  simp only [Fleet.step]
  cases fleet.server? number <;> simp [settle]

/-- Servers share a database whose temporary sibling is no link. At every moment after a start that
succeeded, the database is the catalog that was written last, by this start or since. Everything
that this start has written is still there, unless a server that was built before this start, and is
not the one that was started, has written a catalog of its own without it. -/
theorem shared_until_older_server_writes
    (before : Sharing directives path first writes fleet) (none : first.servers = [])
    (plain : (settled first.world.files path).isLink (temporaryPath path) = false)
    (started : (fleet.step directives (.start number)).1.answer = .ready server)
    (rest : Sharing directives path (fleet.step directives (.start number)).2 since later) :
    later.world.files.fileAt? path = some (saved (latest server.store.catalog since)) ∧
      Store.load later.world.files path = .ok (latest server.store.catalog since) ∧
      ∀ item, server.store.catalog.Has item → (latest server.store.catalog since).Has item ∨
        ∃ older catalog, (older, catalog) ∈ since ∧ older ≠ number ∧
          older < fleet.servers.length ∧ ¬catalog.Has item := by
  have tended : Tended path fleet := before.tended ⟨plain, by simp [server?, none]⟩
  have tendedAfter : Tended path (fleet.step directives (.start number)).2 :=
    tended.touches (touches_step fleet (.start number) (by simp))
  obtain ⟨earlier, found, same, there, flushed⟩ := started_ready started
  obtain ⟨backed, steady⟩ := tended.steady number earlier found
  have own : server.store.path = some path := by
    rw [same]
    exact backed
  have saves := Store.saves_flush own steady.plain
  rw [flushed] at saves
  have held := steady.fileAt?_of_ok saves
  have file := rest.fileAt? tendedAfter held
  refine ⟨file, Store.load_of_fileAt? file, ?_⟩
  intro item has
  have known : Known number fleet.servers.length item
      (fleet.step directives (.start number)).2 := by
    rintro other next next' (rfl | outside)
    · obtain rfl := Option.some.inj (there.symm.trans next')
      exact has
    · have inside := server?_lt next'
      rw [length_start] at inside
      omega
  exact (rest.keeps tendedAfter held known has).symm.imp_left And.left

/-- The server after a start that succeeded. -/
def Answer.ready? : Answer → Option Server
  | ready server => some server
  | _ => none

theorem Answer.eq_ready_of_ready? {answer : Answer} (found : answer.ready? = some server) :
    answer = .ready server := by
  cases answer with
  | ready => rw [Option.some.inj found]
  | _ => simp [Answer.ready?] at found

/-- A server that is built once another was started on its database keeps what that one has
written. -/
theorem newer_server_keeps :
    let logger : Log.Logger := ⟨.json, .standard⟩
    let path : Path := .ofString "db"
    let settings (port : UInt16) (name : String) : Settings :=
      ⟨port, "127.0.0.1", .file path, [name], ∅, some logger, none⟩
    let first := ofFiles .start
    let fleet := (first.step none (.build (settings 7233 "a"))).2
    let begun := fleet.step none (.start 0)
    let both := begun.2.step none (.build (settings 7234 "b"))
    let later := both.2.step none (.start 1)
    begun.1.answer.ready?.map (·.store.catalog.namespaces) = some ["a"] ∧
      later.1.answer.ready?.isSome = true ∧
      ∃ catalog, Store.load later.2.world.files path = .ok catalog ∧ "a" ∈ catalog.namespaces := by
  intro logger path settings first fleet begun both later
  have before : Sharing none path first _ fleet :=
    Sharing.begun.step (.build (settings 7233 "a")) (by rintro _ ⟨rfl⟩; rfl)
  have rest : Sharing none path begun.2 _ later.2 :=
    (Sharing.begun.step (.build (settings 7234 "b")) (by rintro _ ⟨rfl⟩; rfl)).step (.start 1)
      (by simp)
  have plain : (settled first.world.files path).isLink (temporaryPath path) = false := by decide
  have writes : begun.1.answer.ready?.map (·.store.catalog.namespaces) = some ["a"] := by
    decide +kernel
  obtain ⟨server, ready, names⟩ := Option.map_eq_some_iff.mp writes
  obtain ⟨_, loaded, items⟩ :=
    shared_until_older_server_writes before rfl plain (Answer.eq_ready_of_ready? ready) rest
  refine ⟨writes, by decide +kernel, _, loaded, ?_⟩
  have has : server.store.catalog.Has (.name "a") := by simp [Catalog.Has, names]
  have single : fleet.servers.length = 1 := by decide +kernel
  rcases items (.name "a") has with still | ⟨older, catalog, _, other, inside, _⟩
  · exact still
  · omega

/-- Two servers are built before either is started. The second start replaces what the first has
written. With a link at the temporary sibling, already the first start replaces its database by a
link to itself. -/
theorem second_start_overwrites :
    let logger : Log.Logger := ⟨.json, .standard⟩
    let path : Path := .ofString "db"
    let settings (port : UInt16) (name : String) : Settings :=
      ⟨port, "127.0.0.1", .file path, [name], ∅, some logger, none⟩
    let begun (files : FileSystem) : Reply × Fleet :=
      (((ofFiles files).step none (.build (settings 7233 "a"))).2.step none
        (.build (settings 7234 "b"))).2.step none (.start 0)
    let linked := FileSystem.start.put [Octets.ofString "work", Octets.ofString "db.tmp"]
      (.link path)
    (begun .start).1.answer.ready?.map (·.store.catalog.namespaces) = some ["a"] ∧
      Store.load ((begun .start).2.step none (.start 1)).2.world.files path = .ok ⟨["b"], ∅⟩ ∧
      (begun linked).1.answer.ready?.map (·.store.catalog.namespaces) = some ["a"] ∧
      Store.load (begun linked).2.world.files path = .error (.access path .tooManyLinks) := by
  intro logger path settings begun linked
  have file : ((begun .start).2.step none (.start 1)).2.world.files.fileAt? path =
      some (saved ⟨["b"], ∅⟩) := by decide +kernel
  exact ⟨by decide +kernel, Store.load_of_fileAt? file, by decide +kernel, by decide +kernel⟩

end Fleet

end WorkflowLaunch
