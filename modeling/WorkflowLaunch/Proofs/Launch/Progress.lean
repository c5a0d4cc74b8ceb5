import WorkflowLaunch.Launch.Recording
import WorkflowLaunch.Launch.Words
import WorkflowLaunch.Proofs.Launch.Endings

set_option autoImplicit false

/-!
The course of a launch as it is seen from outside: its transitions are one path along the stages, a
stage is left for the next one exactly if its work has succeeded, and every call is made once,
exactly if the launch comes to it.
-/

namespace WorkflowLaunch

/-- The documented steps: each stage leads to the next one, validating also past parsing, and every
stage to the failure. -/
inductive Stage.Leads : Stage → Stage → Prop where
  | parsing : Leads .validating .parsing
  | undeclared : Leads .validating .composing
  | composing : Leads .parsing .composing
  | constructing : Leads .composing .constructing
  | starting : Leads .constructing .starting
  | running : Leads .starting .running
  | stopped : Leads .running .stopped
  | failed (stage : Stage) : Leads stage .failed

namespace Transition

def source : Transition → Stage
  | advanced source _ => source
  | failed source _ => source

@[simp]
def target : Transition → Stage
  | advanced _ target => target
  | failed _ _ => .failed

def isFailure : Transition → Bool
  | advanced _ _ => false
  | failed _ _ => true

end Transition

/-- A path of transitions from one stage to another: every transition is a documented step and
begins where the one before it has ended. -/
inductive Route (first : Stage) : List Transition → Stage → Prop where
  | begun : Route first [] first
  | step {earlier : List Transition} {next : Transition} (route : Route first earlier next.source)
      (leads : next.source.Leads next.target) : Route first (earlier ++ [next]) next.target

namespace Route

variable {first final source target : Stage} {earlier : List Transition}

theorem advance (route : Route first earlier source) (leads : source.Leads target) :
    Route first (earlier ++ [.advanced source target]) target := by
  have next : Route first earlier (Transition.advanced source target).source := route
  exact .step next leads

theorem fail (route : Route first earlier source) (message : String) :
    Route first (earlier ++ [.failed source message]) .failed := by
  have next : Route first earlier (Transition.failed source message).source := route
  exact .step next (.failed source)

/-- Nothing leads on from a failure, so that a path to another stage has none. -/
theorem smooth (route : Route first earlier final) (unfailed : final ≠ .failed) :
    ∀ other ∈ earlier, other.isFailure = false := by
  induction route with
  | begun => simp
  | @step earlier next _ leads ih =>
    have source : next.source ≠ .failed := by
      intro failed
      rw [failed] at leads
      generalize next.target = target at leads unfailed
      cases leads
      exact unfailed rfl
    intro other member
    rcases List.mem_append.mp member with before | last
    · exact ih source other before
    · obtain rfl := List.mem_singleton.mp last
      cases other with
      | advanced => rfl
      | failed => exact absurd rfl unfailed

end Route

/-- The last transition of a launch, in keeping with its result. It alone can be a failure. -/
inductive Concluded : Except Failure Completed → List Transition → Prop where
  | stopped {earlier : List Transition} (smooth : ∀ other ∈ earlier, other.isFailure = false) :
      Concluded (.ok ⟨Launch.stoppedMessage⟩) (earlier ++ [.advanced .running .stopped])
  | failed {earlier : List Transition} {stage : Stage} {message : String}
      (smooth : ∀ other ∈ earlier, other.isFailure = false) :
      Concluded (.error ⟨message, 1, stage⟩) (earlier ++ [.failed stage message])

/-- Whether some transition leads to a stage. -/
def reaches (transitions : List Transition) (stage : Stage) : Bool :=
  transitions.any fun transition => transition.target = stage

@[simp]
theorem reaches_nil (stage : Stage) : reaches [] stage = false := rfl

@[simp]
theorem reaches_cons (next : Transition) (later : List Transition) (stage : Stage) :
    reaches (next :: later) stage = (decide (next.target = stage) || reaches later stage) := rfl

@[simp]
theorem reaches_append (earlier later : List Transition) (stage : Stage) :
    reaches (earlier ++ later) stage = (reaches earlier stage || reaches later stage) :=
  List.any_append

namespace Call

@[simp]
def hasBuilt : Call → Bool
  | build _ succeeded => succeeded
  | _ => false

@[simp]
def hasStarted : Call → Bool
  | start succeeded => succeeded
  | _ => false

end Call

/-- Which way a launch takes from validating: to parsing if both lists of attributes were given, and
straight to composing if not. A refused request takes neither. -/
structure Forks (request : Request) (transitions : List Transition) : Prop where
  parsing : .advanced .validating .parsing ∈ transitions ↔
    (∃ checked, request.check = .ok checked) ∧ request.Declares
  composing : .advanced .validating .composing ∈ transitions ↔
    (∃ checked, request.check = .ok checked) ∧ ¬request.Declares

/-- Which way was taken is settled with the first transition. -/
theorem Forks.append {request : Request} {earlier later : List Transition}
    (forks : Forks request earlier) (others : ∀ target, .advanced .validating target ∉ later) :
    Forks request (earlier ++ later) := by
  constructor
  · rw [List.mem_append, or_iff_left (others _)]
    exact forks.parsing
  · rw [List.mem_append, or_iff_left (others _)]
    exact forks.composing

/-- How often each call is made: once if the launch comes to it, and never otherwise. -/
structure Counted (transitions : List Transition) (calls : Tally) : Prop where
  interrupted : calls.interrupted = if reaches transitions .composing then 1 else 0
  built : calls.built.length = if reaches transitions .constructing then 1 else 0
  started : calls.started = if calls.any Call.hasBuilt then 1 else 0
  ran : calls.ran = if calls.any Call.hasStarted then 1 else 0

namespace Launch

variable {σ S : Type} {factory : Factory σ S} {interrupt : σ → Hook × σ}
  {directives : Option String} {request : Request} {world : σ} {first final source : Stage}
  {earlier : List Transition} {plan : Plan} {set : DirectiveSet} {hook : Hook} {calls : Tally}
  {launched : Launched σ}

theorem counted_of_composed
    (composed : Composed request (interrupt world).1 directives earlier set) :
    launch factory.counted (counted interrupt) directives request (world, .none) =
      buildStage factory.counted earlier set ((interrupt world).2, [.interrupt]) := by
  have made : Composed request (counted interrupt (world, .none)).1 directives earlier set :=
    composed
  exact launch_of_composed made

/-- A launch whose calls are noted is the same launch. -/
theorem Ended.launch_counted
    (ended : Ended factory interrupt directives request world calls launched) :
    launch factory.counted (counted interrupt) directives request (world, .none) =
      ⟨launched.result, launched.transitions, launched.world, calls⟩ := by
  cases ended with
  | unchecked refused => simp [launch, refused, fail]
  | unresolved passed unknown => simp [launch, passed, unknown, fail]
  | uncomposed planned refused =>
    simp [launch_of_planned planned, composeStage, Launch.counted, refused, fail]
  | unbuilt composed building =>
    rw [counted_of_composed composed]
    simp [buildStage, Factory.counted, building, fail, Except.isOk, Except.toBool]
  | unstarted composed building starting =>
    rw [counted_of_composed composed]
    simp [buildStage, startStage, Factory.counted, building, starting, fail, Except.isOk,
      Except.toBool]
  | broken composed building starting running =>
    rw [counted_of_composed composed]
    simp [buildStage, startStage, runStage, Factory.counted, building, starting, running, fail,
      Except.isOk, Except.toBool]
  | stopped composed building starting running =>
    rw [counted_of_composed composed]
    simp [buildStage, startStage, runStage, Factory.counted, building, starting, running,
      Except.isOk, Except.toBool]

theorem Planned.route (planned : Planned request earlier source plan) :
    Route .validating (earlier ++ [.advanced source .composing]) .composing := by
  cases planned with
  | undeclared => exact Route.begun.advance .undeclared
  | resolved => exact (Route.begun.advance .parsing).advance .composing

theorem Composed.route (composed : Composed request hook directives earlier set) :
    Route .validating earlier .composing := by
  obtain ⟨planned, _⟩ := composed
  exact planned.route

theorem concluded_fail (route : Route .validating earlier source) (unfailed : source ≠ .failed)
    (message : String) (world : σ) :
    (∃ final, Route .validating (fail earlier source message world).transitions final) ∧
      Concluded (fail earlier source message world).result
        (fail earlier source message world).transitions :=
  ⟨⟨.failed, route.fail message⟩, .failed (route.smooth unfailed)⟩

/-- The transitions of a launch are one path, and the last of them agrees with its result. -/
theorem Ended.concluded (ended : Ended factory interrupt directives request world calls launched) :
    (∃ final, Route .validating launched.transitions final) ∧
      Concluded launched.result launched.transitions := by
  cases ended with
  | unchecked => exact concluded_fail .begun (by simp) _ _
  | unresolved => exact concluded_fail (Route.begun.advance .parsing) (by simp) _ _
  | uncomposed planned => exact concluded_fail planned.route (by simp) _ _
  | unbuilt composed =>
    exact concluded_fail (composed.route.advance .constructing) (by simp) _ _
  | unstarted composed =>
    have route := (composed.route.advance .constructing).advance .starting
    exact concluded_fail route (by simp) _ _
  | broken composed =>
    have route := ((composed.route.advance .constructing).advance .starting).advance .running
    exact concluded_fail route (by simp) _ _
  | stopped composed =>
    have route := ((composed.route.advance .constructing).advance .starting).advance .running
    exact ⟨⟨.stopped, route.advance .stopped⟩, .stopped (route.smooth (by simp))⟩

theorem Planned.forks (planned : Planned request earlier source plan) :
    Forks request (earlier ++ [.advanced source .composing]) := by
  cases planned with
  | undeclared passed =>
    have undeclared := (Request.accepted_of_check passed).declares_iff
    constructor <;> simp [passed, undeclared]
  | resolved passed =>
    have declared := (Request.accepted_of_check passed).declares_iff
    constructor <;> simp [passed, declared]

theorem Composed.forks (composed : Composed request hook directives earlier set) :
    Forks request earlier := by
  obtain ⟨planned, _⟩ := composed
  exact planned.forks

theorem Ended.forks (ended : Ended factory interrupt directives request world calls launched) :
    Forks request launched.transitions := by
  cases ended with
  | unchecked refused => constructor <;> simp [fail, refused]
  | unresolved passed =>
    have declared := (Request.accepted_of_check passed).declares_iff
    constructor <;> simp [fail, passed, declared]
  | uncomposed planned => exact planned.forks.append (by simp)
  | unbuilt composed => exact (composed.forks.append (by simp)).append (by simp)
  | unstarted composed =>
    exact ((composed.forks.append (by simp)).append (by simp)).append (by simp)
  | broken composed =>
    exact (((composed.forks.append (by simp)).append (by simp)).append (by simp)).append (by simp)
  | stopped composed =>
    exact (((composed.forks.append (by simp)).append (by simp)).append (by simp)).append (by simp)

theorem Planned.reaches (planned : Planned request earlier source plan) :
    reaches earlier .constructing = false := by
  cases planned <;> rfl

theorem Composed.reaches (composed : Composed request hook directives earlier set) :
    reaches earlier .composing = true := by
  obtain ⟨planned, _⟩ := composed
  simp

/-- Every call is made once, if the launch comes to it. -/
theorem Ended.counted (ended : Ended factory interrupt directives request world calls launched) :
    Counted launched.transitions calls := by
  cases ended with
  | unchecked | unresolved => constructor <;> simp [fail]
  | uncomposed planned =>
    have early := planned.reaches
    constructor <;> simp [fail, early, List.countP_cons, List.filterMap_cons]
  | unbuilt composed | unstarted composed | broken composed | stopped composed =>
    have reached := composed.reaches
    constructor <;> simp [fail, reached, List.countP_cons, List.filterMap_cons]

/-- A stage is left for another one, and not for the failure. -/
def Leaves (transitions : List Transition) (stage : Stage) : Prop :=
  ∃ next, .advanced stage next ∈ transitions

/-- The work of a stage has succeeded. Up to composing this is for the request and the filter to
say, and from then on for the calls. -/
def Done (request : Request) (hook : Hook) (directives : Option String) (calls : Tally) :
    Stage → Prop
  | .validating => ∃ checked, request.check = .ok checked
  | .parsing => ∃ declaration, (∃ plan, request.check = .ok ⟨plan, some declaration⟩) ∧
      ∃ attributes, declaration.resolve = .ok attributes
  | .composing => ∃ earlier source plan, Planned request earlier source plan ∧
      ∃ set, plan.compose hook directives = .ok set
  | .constructing => ∃ set, .build set true ∈ calls
  | .starting => .start true ∈ calls
  | .running => .run true ∈ calls
  | .stopped | .failed => False

theorem leaves_fail (message : String) (world : σ) (stage : Stage) :
    Leaves (fail earlier source message world).transitions stage ↔ Leaves earlier stage := by
  simp [Leaves, fail]

theorem leaves_advance (target stage : Stage) :
    Leaves (earlier ++ [.advanced source target]) stage ↔
      Leaves earlier stage ∨ stage = source := by
  simp [Leaves, exists_or]

/-- With a plan, validating is done, and so is parsing if there was anything to parse. -/
theorem Planned.leaves (planned : Planned request earlier source plan) (hook : Hook)
    (directives : Option String) (stage : Stage) :
    Leaves (earlier ++ [.advanced source .composing]) stage ↔
      (stage = .validating ∨ stage = .parsing) ∧ Done request hook directives .none stage := by
  cases planned with
  | undeclared passed => cases stage <;> simp [Leaves, Done, passed]
  | resolved passed resolved => cases stage <;> simp [Leaves, Done, passed, resolved]

theorem Composed.leaves (composed : Composed request hook directives earlier set) (stage : Stage) :
    Leaves earlier stage ↔
      (stage = .validating ∨ stage = .parsing) ∧ Done request hook directives .none stage := by
  obtain ⟨planned, _⟩ := composed
  exact planned.leaves hook directives stage

theorem Composed.done (composed : Composed request hook directives earlier set) :
    ∃ earlier source plan, Planned request earlier source plan ∧
      ∃ set, plan.compose hook directives = .ok set := by
  obtain ⟨planned, made⟩ := composed
  exact ⟨_, _, _, planned, _, made⟩

/-- No launch gives up on a stage whose work has succeeded, or goes on from one whose work has
not. -/
theorem Ended.leaves (ended : Ended factory interrupt directives request world calls launched)
    (stage : Stage) :
    Leaves launched.transitions stage ↔
      Done request (interrupt world).1 directives calls stage := by
  cases ended with
  | unchecked refused =>
    rw [leaves_fail]
    cases stage <;> simp [Leaves, Done, refused, not_planned_of_refused refused]
  | unresolved passed unknown =>
    rw [leaves_fail]
    cases stage <;>
      simp [Leaves, Done, passed, unknown, not_planned_of_unresolved passed unknown]
  | uncomposed planned refused =>
    have uncomposed : ¬∃ earlier source other, Planned request earlier source other ∧
        ∃ set, other.compose (interrupt world).1 directives = .ok set := by
      rintro ⟨_, _, _, again, set, made⟩
      rw [planned.unique again, refused] at made
      exact nomatch made
    rw [leaves_fail, planned.leaves (interrupt world).1 directives]
    cases stage <;> simp [Done, uncomposed]
  | unbuilt composed | unstarted composed | broken composed | stopped composed =>
    -- Behind composing, one stage is left for each call that succeeded.
    simp only [leaves_fail, leaves_advance, composed.leaves]
    cases stage <;> simp [Done, composed.done]

/-- What is seen of a launch from outside: its transitions, its result and its calls. -/
structure Follows (request : Request) (hook : Hook) (directives : Option String)
    (launched : Launched σ) (calls : Tally) : Prop where
  route : ∃ final, Route .validating launched.transitions final
  concluded : Concluded launched.result launched.transitions
  forks : Forks request launched.transitions
  counted : Counted launched.transitions calls
  leaves : ∀ stage, Leaves launched.transitions stage ↔ Done request hook directives calls stage

theorem Ended.follows (ended : Ended factory interrupt directives request world calls launched) :
    Follows request (interrupt world).1 directives launched calls :=
  ⟨ended.concluded.1, ended.concluded.2, ended.forks, ended.counted, ended.leaves⟩

/-- Whatever the servers are built by, every launch follows the stages, and goes on from each one
whose work has succeeded. A command line that is refused leads to no transition and no call; what it
comes to is a text that was asked for, or a failure before any stage is left. -/
theorem launch_follows_stages {σ S : Type} (factory : Factory σ S) (interrupt : σ → Hook × σ)
    (directives : Option String) (world : σ) :
    (∀ request, ∃ calls,
      launch factory.counted (counted interrupt) directives request (world, .none) =
        ⟨(launch factory interrupt directives request world).result,
          (launch factory interrupt directives request world).transitions,
          (launch factory interrupt directives request world).world, calls⟩ ∧
      Follows request (interrupt world).1 directives
        (launch factory interrupt directives request world) calls) ∧
    ∀ standard words,
      (∀ request, CommandLine.read words standard = .ok request →
        launchWords factory interrupt directives standard words world =
          launch factory interrupt directives request world) ∧
      ∀ refusal, CommandLine.read words standard = .error refusal →
        let result : Except Failure Completed :=
          if refusal.isDisplay then .ok ⟨trimEnd refusal.message⟩
          else .error ⟨trimEnd refusal.message, 1, .validating⟩
        launchWords factory interrupt directives standard words world = ⟨result, [], world⟩ ∧
          launchWords factory.counted (counted interrupt) directives standard words (world, .none) =
            ⟨result, [], world, .none⟩ := by
  refine ⟨?_, ?_⟩
  · intro request
    obtain ⟨calls, ended⟩ := exists_ended factory interrupt directives request world
    exact ⟨calls, ended.launch_counted, ended.follows⟩
  · intro standard words
    constructor
    · intro request accepted
      rw [launchWords, accepted]
    · intro refusal refused
      simp only [launchWords, refused, refuse, and_self]

/-- A request to start is launched, and one for the version calls nothing. -/
theorem launch_or_version :
    let factory : Factory Unit Unit := .scripted .succeeding
    let interrupt (world : Unit) : Hook × Unit := (⟨0⟩, world)
    let standard := Standard.ofEnvironment none none
    let start := [Octets.ofString "workflow-lite", Octets.ofString "start"]
    let version := [Octets.ofString "workflow-lite", Octets.ofString "--version"]
    launchWords factory interrupt none standard start () =
        launch factory interrupt none (.standard standard) () ∧
      launchWords factory.counted (counted interrupt) none standard version ((), .none) =
        ⟨.ok ⟨trimEnd CommandLine.versionText⟩, [], (), .none⟩ := by
  intro factory interrupt standard start version
  have accepted : CommandLine.read start standard = .ok (.standard standard) := rfl
  have refused : CommandLine.read version standard = .error (.version CommandLine.versionText) :=
    rfl
  obtain ⟨_, words⟩ := launch_follows_stages factory interrupt none ()
  exact ⟨(words standard start).1 _ accepted, ((words standard version).2 _ refused).2⟩

end Launch

end WorkflowLaunch
