import WorkflowLaunch.Launch.Servers
import WorkflowLaunch.Proofs.Launch.Configuration
import WorkflowLaunch.Proofs.Server.Course
import WorkflowLaunch.Proofs.Store.Opening

set_option autoImplicit false

/-!
How a launch ends for the servers of this library, with the world that it leaves, and what a launch
on a database does to the files on the way.
-/

namespace WorkflowLaunch

open Attribute (Table)
open FileSystem
open Store (settled)

/-- The attributes that a request declares. -/
def Request.table (request : Request) : Table :=
  match request.declaration with
  | .ok (some declaration) => declaration.resolve.toOption.getD ∅
  | _ => ∅

/-- The settings that some directives lead to keep a server's state at a path, and have these names
and attributes. -/
structure Settings.Keep (settings : Settings) (path : Path) (names : List String)
    (table : Table) : Prop where
  storage : settings.storage = .file path
  namespaces : settings.namespaces = names
  attributes : settings.attributes = table

/-- One launch: what the program takes from outside, a source of hooks and a request. -/
structure Attempt where
  standard : Standard
  directives : Option String
  source : Interrupts → Hook × Interrupts
  request : Request

namespace Attempt

/-- A hook for a launch on a site. -/
def interrupt (attempt : Attempt) (site : Site) : Hook × Site :=
  let (hook, interrupts) := attempt.source site.world.interrupts
  (hook, { site with world := { site.world with interrupts := interrupts } })

def launch (attempt : Attempt) (site : Site) : Launched Site :=
  Launch.launch (Server.factory attempt.standard attempt.directives) attempt.interrupt
    attempt.directives attempt.request site

/-- The calls that a launch makes. -/
def calls (attempt : Attempt) (site : Site) : Tally :=
  (Launch.launch (Server.factory attempt.standard attempt.directives).counted
    (Launch.counted attempt.interrupt) attempt.directives attempt.request (site, .none)).world.2

/-- Whether a launch asks for a database at a path. -/
structure IsFor (attempt : Attempt) (path : Path) : Prop where
  kept : attempt.request.ephemeral.value = false
  filename : attempt.request.filename.value = path

end Attempt

/-- Whether the start of a server succeeded in a launch. -/
def Launched.started {σ : Type} (launched : Launched σ) : Bool :=
  .advanced .starting .running ∈ launched.transitions

/-- The ends of a launch on a database, with the files that it leaves. -/
inductive Ends (attempt : Attempt) (path : Path) (site : Site) : Bool → FileSystem → Prop where
  | untouched : Ends attempt path site false site.world.files
  | opened : Ends attempt path site false (settled site.world.files path)
  | unstarted {settings : Settings} {server : Server} {world opened : World} {fault : ServerFault}
      (keep : settings.Keep path attempt.request.namespaces.value attempt.request.table)
      (built : Server.build attempt.directives settings world = (.ok server, opened))
      (files : world.files = site.world.files)
      (failed : (server.start opened).result = .error fault) :
      Ends attempt path site false (server.start opened).world.files
  | started {settings : Settings} {server : Server} {world opened : World}
      (keep : settings.Keep path attempt.request.namespaces.value attempt.request.table)
      (built : Server.build attempt.directives settings world = (.ok server, opened))
      (files : world.files = site.world.files)
      (succeeded : (server.start opened).result = .ok ()) :
      Ends attempt path site true
        ((server.start opened).server.runUntilTriggered (server.start opened).world).2.world.files

/-- Building fails on the store once that was opened, and has changed no files before. -/
theorem Server.build_failed {directives : Option String} {settings : Settings}
    {world opened : World} {fault : ServerFault}
    (failed : Server.build directives settings world = (.error fault, opened)) :
    opened.files = world.files ∨ ∃ path cause, settings.storage = .file path ∧
      fault = .store cause ∧ opened.files = settled world.files path := by
  cases builds_of_eq failed with
  | unaddressed => exact .inl rfl
  | unlogged => exact .inl rfl
  | @unopened _ _ cause _ _ _ stored =>
    cases storage : settings.storage with
    | memory => simp [storage, Store.openAt] at stored
    | file path =>
      rw [storage, Store.openAt] at stored
      refine .inr ⟨path, cause, rfl, rfl, ?_⟩
      rw [← Store.openFile_files, stored]

/-- Settings that a launch builds its server from. -/
def Attempt.Asks (attempt : Attempt) (site : Site) (settings : Settings) : Prop :=
  ∃ earlier set, Launch.Composed attempt.request (attempt.interrupt site).1 attempt.directives
    earlier set ∧ set.settings (.standard attempt.standard) = settings

theorem Attempt.Asks.means {attempt : Attempt} {site : Site} {settings : Settings}
    (asks : attempt.Asks site settings) :
    attempt.request.Means attempt.directives (attempt.interrupt site).1 settings := by
  obtain ⟨earlier, set, composed, rfl⟩ := asks
  obtain ⟨settings, means, same⟩ := composed.means
  rwa [same]

/-- The ends of a launch: its result, whether the server was started, and the world that it
leaves. -/
inductive Attempt.Outcome (attempt : Attempt) (site : Site) :
    Except Failure Completed → Bool → World → Prop where
  | early {failure : Failure} {world : World}
      (stage : failure.stage = .validating ∨ failure.stage = .parsing ∨
        failure.stage = .composing)
      (files : world.files = site.world.files) (held : world.held = site.world.held) :
      Outcome attempt site (.error failure) false world
  | unbuilt {settings : Settings} {fault : ServerFault} {opened : World}
      (asks : attempt.Asks site settings)
      (failed : Server.build attempt.directives settings (attempt.interrupt site).2.world =
        (.error fault, opened)) :
      Outcome attempt site (.error ⟨fault.message, 1, .constructing⟩) false opened
  | unstarted {settings : Settings} {server : Server} {fault : ServerFault} {opened : World}
      (asks : attempt.Asks site settings)
      (built : Server.build attempt.directives settings (attempt.interrupt site).2.world =
        (.ok server, opened))
      (failed : (server.start opened).result = .error fault) :
      Outcome attempt site
        (.error ⟨s!"Unable to start server. Error: {fault.message}", 1, .starting⟩) false
        (server.start opened).world
  | ran {settings : Settings} {server : Server} {opened : World}
      {result : Except Failure Completed} (asks : attempt.Asks site settings)
      (built : Server.build attempt.directives settings (attempt.interrupt site).2.world =
        (.ok server, opened))
      (succeeded : (server.start opened).result = .ok ())
      (stage : ∀ failure, result = .error failure → failure.stage = .running) :
      Outcome attempt site result true
        ((server.start opened).server.runUntilTriggered (server.start opened).world).2.world

section Factory

variable {standard : Standard} {directives : Option String} {set : DirectiveSet}
  {server after : Server} {site next : Site}

theorem Server.of_factory_build {result : Except ServerFault Server}
    (built : (Server.factory standard directives).build set site = (result, next)) :
    Server.build directives (set.settings (.standard standard)) site.world =
      (result, next.world) := by
  obtain ⟨rfl, rfl⟩ := Prod.mk.inj built
  rfl

theorem Server.of_factory_start {result : Except ServerFault Unit}
    (started : (Server.factory standard directives).start server site =
      (result, after, next)) :
    (server.start site.world).result = result ∧ (server.start site.world).server = after ∧
      (server.start site.world).world = next.world := by
  obtain ⟨rfl, rest⟩ := Prod.mk.inj started
  obtain ⟨rfl, rfl⟩ := Prod.mk.inj rest
  exact ⟨rfl, rfl, rfl⟩

theorem Server.of_factory_run {result : Except ServerFault Unit}
    (ran : (Server.factory standard directives).run server site = (result, after, next)) :
    (server.runUntilTriggered site.world).2.result = result ∧
      (server.runUntilTriggered site.world).2.world = next.world := by
  obtain ⟨rfl, rest⟩ := Prod.mk.inj ran
  obtain ⟨_, rfl⟩ := Prod.mk.inj rest
  exact ⟨rfl, rfl⟩

end Factory

namespace Launch

theorem Planned.table {request : Request} {earlier : List Transition} {source : Stage}
    {plan : Plan} (planned : Planned request earlier source plan) :
    plan.attributes.getD ∅ = request.table := by
  cases planned with
  | undeclared passed =>
    obtain ⟨declared, _, same⟩ := Request.accepted_of_check passed
    have absent : plan.attributes = none := congrArg Plan.attributes same
    simp [Request.table, declared, absent]
  | resolved passed resolved =>
    obtain ⟨declared, _, _⟩ := Request.accepted_of_check passed
    simp [Request.table, declared, resolved, Except.toOption]

end Launch

/-- Settings for a launch on a database keep a server's state there. -/
theorem Attempt.Asks.keep {attempt : Attempt} {path : Path} {site : Site} {settings : Settings}
    (asks : attempt.Asks site settings) (isFor : attempt.IsFor path) :
    settings.Keep path attempt.request.namespaces.value attempt.request.table := by
  obtain ⟨earlier, set, ⟨planned, composed⟩, rfl⟩ := asks
  obtain ⟨logger, _, settings⟩ := Plan.settings_compose composed
  have same := planned.agrees.same
  rw [settings]
  constructor
  · rw [congrArg Plan.persistence same, Request.storage_persistence, isFor.kept, isFor.filename]
    rfl
  · exact congrArg Plan.namespaces same
  · exact planned.table

namespace Launch

variable {attempt : Attempt} {path : Path} {site : Site} {server : Server}
  {transitions earlier : List Transition} {request : Request} {source : Stage} {plan : Plan}
  {set : DirectiveSet} {hook : Hook} {directives : Option String}

/-- No start has succeeded so far. -/
def Early (transitions : List Transition) : Prop := .advanced .starting .running ∉ transitions

theorem Early.advanced (early : Early transitions) {source target : Stage}
    (other : target ≠ .running) : Early (transitions ++ [.advanced source target]) := by
  intro member
  rcases List.mem_append.mp member with earlier | last
  · exact early earlier
  · obtain ⟨_, same⟩ : _ ∧ _ := by simpa using last
    exact other same.symm

theorem Early.started_fail (early : Early transitions) (stage : Stage) (message : String)
    (site : Site) : (fail transitions stage message site).started = false := by
  rw [fail, Launched.started]
  apply decide_eq_false
  intro member
  rcases List.mem_append.mp member with earlier | last
  · exact early earlier
  · simp at last

theorem Planned.early (planned : Planned request earlier source plan) :
    Early (earlier ++ [.advanced source .composing]) := by
  cases planned <;> simp [Early]

theorem Composed.early (composed : Composed request hook directives earlier set) :
    Early earlier := by
  obtain ⟨planned, _⟩ := composed
  exact planned.early

/-- The ends of the launch sequence, for servers of this library. -/
theorem Ended.outcome {calls : Tally} {launched : Launched Site}
    (ended : Ended (Server.factory attempt.standard attempt.directives) attempt.interrupt
      attempt.directives attempt.request site calls launched) :
    attempt.Outcome site launched.result launched.started launched.world.world := by
  have early : Early [] := List.not_mem_nil
  cases ended with
  | unchecked =>
    rw [early.started_fail]
    exact .early (.inl rfl) rfl rfl
  | unresolved =>
    have parsing : Early [.advanced .validating .parsing] := early.advanced (by simp)
    rw [parsing.started_fail]
    exact .early (.inr (.inl rfl)) rfl rfl
  | uncomposed planned =>
    rw [planned.early.started_fail]
    exact .early (.inr (.inr rfl)) rfl rfl
  | unbuilt composed building =>
    rw [(composed.early.advanced (by simp)).started_fail]
    exact .unbuilt ⟨_, _, composed, rfl⟩ (Server.of_factory_build building)
  | unstarted composed building starting =>
    obtain ⟨failed, _, after⟩ := Server.of_factory_start starting
    rw [((composed.early.advanced (by simp)).advanced (by simp)).started_fail]
    have outcome := Attempt.Outcome.unstarted ⟨_, _, composed, rfl⟩
      (Server.of_factory_build building) failed
    rwa [after] at outcome
  | @broken _ _ _ _ _ fault _ _ _ composed building starting running =>
    obtain ⟨succeeded, server, begun⟩ := Server.of_factory_start starting
    obtain ⟨_, after⟩ := Server.of_factory_run running
    let failure : Failure := ⟨s!"Server terminated with error: {fault.message}", 1, .running⟩
    have stage : ∀ other, .error failure = (.error other : Except Failure Completed) →
        other.stage = .running := by
      rintro other ⟨⟩
      rfl
    have outcome := Attempt.Outcome.ran ⟨_, _, composed, rfl⟩ (Server.of_factory_build building)
      succeeded stage
    rw [server, begun, after] at outcome
    simpa [fail, Launched.started] using outcome
  | stopped composed building starting running =>
    obtain ⟨succeeded, server, begun⟩ := Server.of_factory_start starting
    obtain ⟨_, after⟩ := Server.of_factory_run running
    have stage : ∀ other, .ok ⟨stoppedMessage⟩ = (.error other : Except Failure Completed) →
        other.stage = .running := by
      rintro other ⟨⟩
    have outcome := Attempt.Outcome.ran ⟨_, _, composed, rfl⟩ (Server.of_factory_build building)
      succeeded stage
    rw [server, begun, after] at outcome
    simpa [Launched.started] using outcome

theorem ended_launch (attempt : Attempt) (site : Site) :
    Ended (Server.factory attempt.standard attempt.directives) attempt.interrupt
      attempt.directives attempt.request site (attempt.calls site) (attempt.launch site) := by
  obtain ⟨calls, ended⟩ := exists_ended (Server.factory attempt.standard attempt.directives)
    attempt.interrupt attempt.directives attempt.request site
  rw [Attempt.calls, ended.launch_counted]
  exact ended

theorem outcome_launch (attempt : Attempt) (site : Site) :
    attempt.Outcome site (attempt.launch site).result (attempt.launch site).started
      (attempt.launch site).world.world :=
  (ended_launch attempt site).outcome

/-- A launch that began on a site has one of the ends. -/
def Leads (attempt : Attempt) (path : Path) (before : Site) (launched : Launched Site) : Prop :=
  Ends attempt path before launched.started launched.world.world.files

/-- What a launch on a database does to the files. -/
theorem leads_launch (isFor : attempt.IsFor path) (site : Site) :
    Leads attempt path site (attempt.launch site) := by
  have outcome := outcome_launch attempt site
  unfold Leads
  generalize (attempt.launch site).result = result at outcome
  generalize (attempt.launch site).started = started at outcome ⊢
  generalize (attempt.launch site).world.world = after at outcome ⊢
  cases outcome with
  | early _ files _ =>
    rw [files]
    exact .untouched
  | unbuilt asks failed =>
    rcases Server.build_failed failed with same | ⟨other, _, storage, _, made⟩
    · rw [same]
      exact .untouched
    · obtain rfl := Storage.file.inj ((asks.keep isFor).storage.symm.trans storage)
      rw [made]
      exact .opened
  | unstarted asks built failed => exact .unstarted (asks.keep isFor) built rfl failed
  | ran asks built succeeded => exact .started (asks.keep isFor) built rfl succeeded

/-- A launch without a declaration of attributes, whose server is built and starts. -/
theorem started_launch {plan : Plan} {set : DirectiveSet} {opened : World}
    (accepted : attempt.request.check = .ok ⟨plan, none⟩)
    (composed : plan.compose (attempt.interrupt site).1 attempt.directives = .ok set)
    (built : Server.build attempt.directives (set.settings (.standard attempt.standard))
      (attempt.interrupt site).2.world = (.ok server, opened))
    (succeeded : (server.start opened).result = .ok ()) :
    (attempt.launch site).started = true := by
  rw [Attempt.launch, launch, accepted]
  simp only [composeStage, composed, buildStage, Server.factory, built, startStage, Site.settle,
    succeeded, runStage]
  cases ((server.start opened).server.runUntilTriggered (server.start opened).world).2.result <;>
    simp [fail, Launched.started]

/-- A launch without a declaration of attributes, whose server is built and fails to start. -/
theorem unstarted_launch {plan : Plan} {set : DirectiveSet} {opened : World} {fault : ServerFault}
    (accepted : attempt.request.check = .ok ⟨plan, none⟩)
    (composed : plan.compose (attempt.interrupt site).1 attempt.directives = .ok set)
    (built : Server.build attempt.directives (set.settings (.standard attempt.standard))
      (attempt.interrupt site).2.world = (.ok server, opened))
    (failed : (server.start opened).result = .error fault) :
    (attempt.launch site).result =
        .error ⟨s!"Unable to start server. Error: {fault.message}", 1, .starting⟩ ∧
      (attempt.launch site).world.world = (server.start opened).world := by
  rw [Attempt.launch, launch, accepted]
  simp only [composeStage, composed, buildStage, Server.factory, built, startStage, Site.settle,
    failed, fail, and_self]

end Launch

end WorkflowLaunch
