import WorkflowLaunch.Proofs.Launch.Effects

set_option autoImplicit false

/-!
Log filters that cannot be read. The coloured logger is made while the directives of a launch are
composed, the JSON logger while its server is built. Both come before the store is opened, so that
a refused filter ends every launch, and nothing has been touched.
-/

namespace WorkflowLaunch

open Launch (Composed Ended Planned)

namespace Log

variable {value : Option String} {text : String} {fault : FilterFault}

theorem Filter.ofEnvironment_of_not_blank (given : value = some text)
    (asked : Text.blank text = false) : Filter.ofEnvironment value = Filter.ofDirectives text := by
  subst given
  simp [Filter.ofEnvironment, asked]

theorem Filter.ofEnvironment_of_blank
    (unasked : ∀ text, value = some text → Text.blank text = true) :
    Filter.ofEnvironment value = .ok .standard := by
  cases value with
  | none => rfl
  | some text => simp [Filter.ofEnvironment, unasked text rfl]

theorem FilterFault.directives_of_ofDirectives (refused : Filter.ofDirectives text = .error fault) :
    fault.directives = text := by
  rw [Filter.ofDirectives] at refused
  split at refused
  · simp at refused
  · simp at refused
  · obtain rfl := Except.error.inj refused
    rfl

theorem FilterFault.message_eq (fault : FilterFault) : fault.message =
    s!"invalid log filter \"{fault.directives}\" in WORKFLOW_LITE_LOG: {fault.reason.message}" := by
  have worded (directives reason : String) :
      "invalid log filter \"" ++ directives ++ "\" in " ++ filterVariable ++ ": " ++ reason =
        "invalid log filter \"" ++ directives ++ "\" in WORKFLOW_LITE_LOG: " ++ reason := by
    have named : "\" in " ++ (filterVariable ++ ": ") = "\" in WORKFLOW_LITE_LOG: " := by decide
    rw [← named]
    simp only [String.append_assoc]
  exact worded fault.directives fault.reason.message

end Log

/-- Only the coloured logger is made with the directives of a plan. -/
theorem Plan.refused_of_compose {plan : Plan} {hook : Hook} {directives : Option String}
    {fault : Log.FilterFault} (refused : plan.compose hook directives = .error fault) :
    plan.logFormat = .pretty ∧ Log.Filter.ofEnvironment directives = .error fault := by
  rw [compose, loggerDirectives] at refused
  cases format : plan.logFormat with
  | json => simp [format, bind, Except.bind, pure, Except.pure] at refused
  | pretty =>
    refine ⟨rfl, ?_⟩
    cases found : Log.Filter.ofEnvironment directives with
    | error first => simpa [format, Log.Logger.ofEnvironment, found, Except.map, bind, Except.bind]
        using refused
    | ok filter =>
      simp [format, Log.Logger.ofEnvironment, found, Except.map, bind, Except.bind, pure,
        Except.pure] at refused

namespace Server

variable {settings : Settings} {directives : Option String} {world after : World}
  {fault : Log.FilterFault} {first : ServerFault}

/-- What building a server reports if it is to make its logger from a refused filter: what is wrong
with the port, the address or a namespace comes before that. -/
def Reported (port : UInt16) (ip : String) (names : List String) (fault : Log.FilterFault)
    (first : ServerFault) : Prop :=
  Flawed port ip names first ∨ (∀ flaw, ¬Flawed port ip names flaw) ∧ first = .filter fault

/-- A server that is to make its logger from a refused filter is not built, and no file is looked
at. -/
theorem build_of_refused_filter (plain : settings.logger = none)
    (refused : Log.Filter.ofEnvironment directives = .error fault) (world : World) :
    ∃ first, build directives settings world = (.error first, world) ∧
      Reported settings.port settings.ip settings.namespaces fault first := by
  have logs : loggerOf settings directives = .error (.filter fault) := by
    simp [loggerOf, plain, Log.Logger.ofEnvironment, refused, Except.map, Except.mapError]
  have builds := builds_build directives settings world
  rcases built : build directives settings world with ⟨result, after⟩
  rw [built] at builds
  cases builds with
  | unaddressed located => exact ⟨_, rfl, .inl (addressOf_eq_error_iff.mp located)⟩
  | unlogged located unlogged =>
    rw [logs] at unlogged
    obtain rfl := Except.error.inj unlogged
    exact ⟨_, rfl, .inr ⟨not_flawed_of_addressOf located, rfl⟩⟩
  | unopened _ logged => simp [logs] at logged
  | built _ logged => simp [logs] at logged

/-- With a filter that can be read, only the settings and the store prevent a build. -/
theorem cause_of_read_filter {filter : Log.Filter}
    (read : Log.Filter.ofEnvironment directives = .ok filter)
    (failed : build directives settings world = (.error first, after)) :
    Flawed settings.port settings.ip settings.namespaces first ∨
      ∃ reason, first = .store reason := by
  cases builds_of_eq failed with
  | unaddressed located => exact .inl (addressOf_eq_error_iff.mp located)
  | unlogged _ unlogged =>
    rw [loggerOf] at unlogged
    split at unlogged
    · simp at unlogged
    · simp [Log.Logger.ofEnvironment, read, Except.map, Except.mapError] at unlogged
  | unopened => exact .inr ⟨_, rfl⟩

end Server

namespace Attempt

variable {attempt : Attempt} {site : Site} {fault : Log.FilterFault}

/-- The ends of a launch whose filter is refused. None of them has touched the world. -/
inductive Stops (attempt : Attempt) (site : Site) (fault : Log.FilterFault) :
    Tally → Except Failure Completed → World → Prop where
  | unplanned {failure : Failure}
      (unplanned : ∀ earlier source plan, ¬Planned attempt.request earlier source plan)
      (stage : failure.stage = .validating ∨ failure.stage = .parsing) :
      Stops attempt site fault [] (.error failure) site.world
  | uncomposed (format : attempt.request.logFormat.value = "pretty") :
      Stops attempt site fault [.interrupt] (.error ⟨fault.message, 1, .composing⟩)
        (attempt.interrupt site).2.world
  | unbuilt {set : DirectiveSet} {first : ServerFault}
      (format : attempt.request.logFormat.value ≠ "pretty")
      (reported : Server.Reported attempt.request.port.value attempt.request.ip.value
        attempt.request.namespaces.value fault first) :
      Stops attempt site fault [.interrupt, .build set false]
        (.error ⟨first.message, 1, .constructing⟩) (attempt.interrupt site).2.world

/-- With a refused filter, the directives of a launch have no logger and its server is not built. -/
theorem build_of_refused_filter {earlier : List Transition} {set : DirectiveSet}
    {result : Except ServerFault Server} {after : Site}
    (refused : Log.Filter.ofEnvironment attempt.directives = .error fault)
    (composed : Composed attempt.request (attempt.interrupt site).1 attempt.directives earlier set)
    (building : (Server.factory attempt.standard attempt.directives).build set
      (attempt.interrupt site).2 = (result, after)) :
    attempt.request.logFormat.value ≠ "pretty" ∧
      ∃ first, result = .error first ∧ after.world = (attempt.interrupt site).2.world ∧
        Server.Reported attempt.request.port.value attempt.request.ip.value
          attempt.request.namespaces.value fault first := by
  have asks : attempt.Asks site (set.settings (.standard attempt.standard)) :=
    ⟨earlier, set, composed, rfl⟩
  have means := asks.means
  have plain : (set.settings (.standard attempt.standard)).logger = none := by
    cases made : (set.settings (.standard attempt.standard)).logger with
    | none => rfl
    | some logger =>
      obtain ⟨_, read⟩ := means.filter logger made
      simp [refused] at read
  constructor
  · intro pretty
    have coloured := means.logger.mpr pretty
    simp [plain] at coloured
  · obtain ⟨first, built, reported⟩ :=
      Server.build_of_refused_filter plain refused (attempt.interrupt site).2.world
    rw [Server.of_factory_build building] at built
    obtain ⟨rfl, untouched⟩ := Prod.mk.inj built
    rw [means.port, means.ip, means.namespaces] at reported
    exact ⟨first, rfl, untouched, reported⟩

theorem stops_of_ended {calls : Tally} {launched : Launched Site}
    (refused : Log.Filter.ofEnvironment attempt.directives = .error fault)
    (ended : Ended (Server.factory attempt.standard attempt.directives) attempt.interrupt
      attempt.directives attempt.request site calls launched) :
    attempt.Stops site fault calls launched.result launched.world.world := by
  cases ended with
  | unchecked refused =>
    exact .unplanned (fun _ _ _ => Launch.not_planned_of_refused refused) (.inl rfl)
  | unresolved passed unknown =>
    exact .unplanned (fun _ _ _ => Launch.not_planned_of_unresolved passed unknown) (.inr rfl)
  | uncomposed planned failed =>
    obtain ⟨pretty, same⟩ := Plan.refused_of_compose failed
    obtain rfl : fault = _ := Except.error.inj (refused.symm.trans same)
    refine .uncomposed ?_
    rw [← planned.agrees.format, pretty]
    rfl
  | unbuilt composed building =>
    obtain ⟨format, first, failed, untouched, reported⟩ :=
      build_of_refused_filter refused composed building
    obtain rfl := Except.error.inj failed
    exact untouched ▸ .unbuilt format reported
  | unstarted composed building =>
    obtain ⟨_, _, failed, _⟩ := build_of_refused_filter refused composed building
    simp at failed
  | broken composed building =>
    obtain ⟨_, _, failed, _⟩ := build_of_refused_filter refused composed building
    simp at failed
  | stopped composed building =>
    obtain ⟨_, _, failed, _⟩ := build_of_refused_filter refused composed building
    simp at failed

/-- What a refused filter means for a launch, whatever else is asked for. -/
structure Halted (attempt : Attempt) (site : Site) (fault : Log.FilterFault) : Prop where
  failed : ∃ failure, (attempt.launch site).result = .error failure ∧
    failure.stage ∈ [.validating, .parsing, .composing, .constructing]
  unstarted : ∀ succeeded, .start succeeded ∉ attempt.calls site
  files : (attempt.launch site).world.world.files = site.world.files
  held : (attempt.launch site).world.world.held = site.world.held
  pretty : ∀ earlier source plan, Planned attempt.request earlier source plan →
    attempt.request.logFormat.value = "pretty" →
    attempt.calls site = [.interrupt] ∧
      (attempt.launch site).result = .error ⟨fault.message, 1, .composing⟩
  json : ∀ earlier source plan, Planned attempt.request earlier source plan →
    attempt.request.logFormat.value = "json" →
    ∃ set first, attempt.calls site = [.interrupt, .build set false] ∧
      (attempt.launch site).result = .error ⟨first.message, 1, .constructing⟩ ∧
      Server.Reported attempt.request.port.value attempt.request.ip.value
        attempt.request.namespaces.value fault first

theorem halted_launch (refused : Log.Filter.ofEnvironment attempt.directives = .error fault) :
    attempt.Halted site fault := by
  have stops := stops_of_ended refused (Launch.ended_launch attempt site)
  generalize calls : attempt.calls site = made at stops
  generalize result : (attempt.launch site).result = ending at stops
  generalize world : (attempt.launch site).world.world = after at stops
  cases stops with
  | @unplanned failure unplanned stage =>
    refine ⟨⟨failure, result, ?_⟩, by simp [calls], by rw [world], by rw [world], ?_, ?_⟩
    · rcases stage with same | same <;> simp [same]
    · intro earlier source plan planned
      exact absurd planned (unplanned earlier source plan)
    · intro earlier source plan planned
      exact absurd planned (unplanned earlier source plan)
  | uncomposed pretty =>
    refine ⟨⟨_, result, by simp⟩, by simp [calls], by rw [world]; rfl, by rw [world]; rfl, ?_, ?_⟩
    · intro _ _ _ _ _
      exact ⟨calls, result⟩
    · intro _ _ _ _ json
      simp [pretty] at json
  | @unbuilt set first coloured reported =>
    refine ⟨⟨_, result, by simp⟩, by simp [calls], by rw [world]; rfl, by rw [world]; rfl, ?_, ?_⟩
    · intro _ _ _ _ pretty
      exact absurd pretty coloured
    · intro _ _ _ _ _
      exact ⟨set, first, calls, result, reported⟩

/-- Once the filter can be read, a launch is composed, and its server is built unless the port, the
address, a namespace or the store prevents that. -/
theorem unhindered_launch {filter : Log.Filter} {failure : Failure}
    (read : Log.Filter.ofEnvironment attempt.directives = .ok filter)
    (failed : (attempt.launch site).result = .error failure) :
    failure.stage ≠ .composing ∧
      (failure.stage = .constructing → ∃ cause, attempt.Refused site cause ∧
        failure.message = cause.message ∧
        (Server.Flawed attempt.request.port.value attempt.request.ip.value
            attempt.request.namespaces.value cause ∨ ∃ reason, cause = .store reason)) := by
  have ended := Launch.ended_launch attempt site
  generalize attempt.launch site = launched at ended failed
  generalize attempt.calls site = calls at ended
  cases ended with
  | unchecked =>
    obtain rfl := Except.error.inj failed
    simp
  | unresolved =>
    obtain rfl := Except.error.inj failed
    simp
  | uncomposed _ refused =>
    obtain ⟨_, unread⟩ := Plan.refused_of_compose refused
    simp [read] at unread
  | @unbuilt _ set cause after composed building =>
    obtain rfl := Except.error.inj failed
    have asks : attempt.Asks site (set.settings (.standard attempt.standard)) :=
      ⟨_, set, composed, rfl⟩
    have built := Server.of_factory_build building
    have cause := Server.cause_of_read_filter read built
    rw [asks.means.port, asks.means.ip, asks.means.namespaces] at cause
    exact ⟨by simp, fun _ => ⟨_, ⟨_, _, asks, built⟩, rfl, cause⟩⟩
  | unstarted =>
    obtain rfl := Except.error.inj failed
    simp
  | broken =>
    obtain rfl := Except.error.inj failed
    simp
  | stopped => simp at failed

/-- A filter that cannot be read is never ignored. Whatever is asked for, the launch fails before it
starts a server and nothing has changed; a request that is in order otherwise fails while it is
composed or, with JSON lines, while its server is built, and the failure names the directives. A
missing or blank value asks for the standard filter, and no failure is about that. -/
theorem invalid_filter_never_ignored (attempt : Attempt) (site : Site) :
    (∀ text fault, attempt.directives = some text → Text.blank text = false →
      Log.Filter.ofDirectives text = .error fault →
      fault.message =
          s!"invalid log filter \"{text}\" in WORKFLOW_LITE_LOG: {fault.reason.message}" ∧
        attempt.Halted site fault) ∧
      ((∀ text, attempt.directives = some text → Text.blank text = true) →
        (∀ format, Log.Logger.ofEnvironment format attempt.directives = .ok ⟨format, .standard⟩) ∧
        ∀ failure, (attempt.launch site).result = .error failure →
          failure.stage ≠ .composing ∧
            (failure.stage = .constructing → ∃ cause, attempt.Refused site cause ∧
              failure.message = cause.message ∧
              (Server.Flawed attempt.request.port.value attempt.request.ip.value
                  attempt.request.namespaces.value cause ∨ ∃ reason, cause = .store reason))) := by
  constructor
  · intro text fault given asked refused
    constructor
    · rw [← Log.FilterFault.directives_of_ofDirectives refused]
      exact Log.FilterFault.message_eq fault
    · exact halted_launch ((Log.Filter.ofEnvironment_of_not_blank given asked).trans refused)
  · intro unasked
    have read := Log.Filter.ofEnvironment_of_blank unasked
    constructor
    · intro format
      rw [Log.Logger.ofEnvironment, read]
      rfl
    · intro failure failed
      exact unhindered_launch read failed

/-- A level that does not exist, with either format, and a blank value. -/
theorem loud_filter_ends_launch :
    let attempt (format : String) (directives : String) : Attempt :=
      { plain (.ofString "db") ["new"] with
        directives := some directives
        request := { (plain (.ofString "db") ["new"]).request with logFormat := .given format } }
    let loud := "workflow_lite=loud"
    let fault : Log.FilterFault := ⟨loud, .badLevel⟩
    let site : Site := .ofFiles .start
    Text.blank loud = false ∧ Log.Filter.ofDirectives loud = .error fault ∧
      ((attempt "pretty" loud).launch site).result = .error ⟨fault.message, 1, .composing⟩ ∧
      ((attempt "json" loud).launch site).result = .error ⟨fault.message, 1, .constructing⟩ ∧
      Log.Logger.ofEnvironment .json (some " \t") = .ok ⟨.json, .standard⟩ := by
  intro attempt loud fault site
  have asked : Text.blank loud = false := by decide
  have refused : Log.Filter.ofDirectives loud = .error fault := by decide +kernel
  have planned (format : Log.Format) : Planned (attempt format.name loud).request [] .validating
      ⟨.file (.ofString "db"), 7233, "127.0.0.1", format, ["new"], none⟩ := by
    cases format <;> exact .undeclared rfl
  have unflawed : ∀ flaw, ¬Server.Flawed 7233 "127.0.0.1" ["new"] flaw := by
    intro flaw flawed
    cases flawed with
    | port zero => simp at zero
    | address _ unread => exact absurd unread (by decide)
    | blank _ _ member blank =>
      obtain rfl := List.mem_singleton.mp member
      exact absurd blank (by decide)
  refine ⟨asked, refused, ?_, ?_, ?_⟩
  · have halted := ((invalid_filter_never_ignored (attempt "pretty" loud) site).1 loud fault rfl
      asked refused).2
    exact (halted.pretty _ _ _ (planned .pretty) rfl).2
  · have halted := ((invalid_filter_never_ignored (attempt "json" loud) site).1 loud fault rfl
      asked refused).2
    obtain ⟨_, first, _, result, flawed | ⟨_, rfl⟩⟩ := halted.json _ _ _ (planned .json) rfl
    · exact absurd flawed (unflawed first)
    · exact result
  · have unasked : ∀ text, some " \t" = some text → Text.blank text = true := by
      rintro text ⟨⟩
      decide
    exact ((invalid_filter_never_ignored (attempt "json" " \t") site).2 unasked).1 .json

end Attempt

end WorkflowLaunch
