import WorkflowLaunch.Launch.Recording
import WorkflowLaunch.Proofs.Request.Checking

set_option autoImplicit false

/-!
Every way in which a launch can end, with the calls that were made on the way. What holds of
launches is read off from this list, whatever the servers are built by.
-/

namespace WorkflowLaunch

/-- A launch that failed in a stage. -/
def Launched.FailsIn {σ : Type} (launched : Launched σ) (stage : Stage) : Prop :=
  ∃ failure, launched.result = .error failure ∧ failure.stage = stage

namespace Launch

open Attribute (Declaration Table)

/-- What a request comes to before composing: the transitions so far, the stage that they lead to,
and the plan with its attributes. -/
inductive Planned (request : Request) : List Transition → Stage → Plan → Prop where
  | undeclared {plan : Plan} : request.check = .ok ⟨plan, none⟩ →
      Planned request [] .validating plan
  | resolved {plan : Plan} {declaration : Declaration} {attributes : Table} :
      request.check = .ok ⟨plan, some declaration⟩ → declaration.resolve = .ok attributes →
      Planned request [.advanced .validating .parsing] .parsing
        { plan with attributes := some attributes }

/-- The directives that a server is to be built from, and the transitions up to composing. -/
inductive Composed (request : Request) (hook : Hook) (directives : Option String) :
    List Transition → DirectiveSet → Prop where
  | composed {earlier : List Transition} {source : Stage} {plan : Plan} {set : DirectiveSet} :
      Planned request earlier source plan → plan.compose hook directives = .ok set →
      Composed request hook directives (earlier ++ [.advanced source .composing]) set

variable {σ S : Type} (factory : Factory σ S) (interrupt : σ → Hook × σ)
  (directives : Option String) (request : Request) (world : σ)

/-- One constructor for every exit of the launch sequence. -/
inductive Ended : Tally → Launched σ → Prop where
  | unchecked {fault : RequestFault} : request.check = .error fault →
      Ended [] (fail [] .validating fault.message world)
  | unresolved {plan : Plan} {declaration : Declaration} {fault : Attribute.DeclarationFault} :
      request.check = .ok ⟨plan, some declaration⟩ → declaration.resolve = .error fault →
      Ended [] (fail [.advanced .validating .parsing] .parsing fault.message world)
  | uncomposed {earlier : List Transition} {source : Stage} {plan : Plan}
      {fault : Log.FilterFault} : Planned request earlier source plan →
      plan.compose (interrupt world).1 directives = .error fault →
      Ended [.interrupt] (fail (earlier ++ [.advanced source .composing]) .composing fault.message
        (interrupt world).2)
  | unbuilt {earlier : List Transition} {set : DirectiveSet} {fault : ServerFault} {after : σ} :
      Composed request (interrupt world).1 directives earlier set →
      factory.build set (interrupt world).2 = (.error fault, after) →
      Ended [.interrupt, .build set false]
        (fail (earlier ++ [.advanced .composing .constructing]) .constructing fault.message after)
  | unstarted {earlier : List Transition} {set : DirectiveSet} {server failed : S}
      {fault : ServerFault} {built after : σ} :
      Composed request (interrupt world).1 directives earlier set →
      factory.build set (interrupt world).2 = (.ok server, built) →
      factory.start server built = (.error fault, failed, after) →
      Ended [.interrupt, .build set true, .start false]
        (fail (earlier ++ [.advanced .composing .constructing] ++
          [.advanced .constructing .starting]) .starting
          s!"Unable to start server. Error: {fault.message}" after)
  | broken {earlier : List Transition} {set : DirectiveSet} {server started failed : S}
      {fault : ServerFault} {built begun after : σ} :
      Composed request (interrupt world).1 directives earlier set →
      factory.build set (interrupt world).2 = (.ok server, built) →
      factory.start server built = (.ok (), started, begun) →
      factory.run started begun = (.error fault, failed, after) →
      Ended [.interrupt, .build set true, .start true, .run false]
        (fail (earlier ++ [.advanced .composing .constructing] ++
          [.advanced .constructing .starting] ++ [.advanced .starting .running]) .running
          s!"Server terminated with error: {fault.message}" after)
  | stopped {earlier : List Transition} {set : DirectiveSet} {server started final : S}
      {built begun after : σ} :
      Composed request (interrupt world).1 directives earlier set →
      factory.build set (interrupt world).2 = (.ok server, built) →
      factory.start server built = (.ok (), started, begun) →
      factory.run started begun = (.ok (), final, after) →
      Ended [.interrupt, .build set true, .start true, .run true]
        ⟨.ok ⟨stoppedMessage⟩, earlier ++ [.advanced .composing .constructing] ++
          [.advanced .constructing .starting] ++ [.advanced .starting .running] ++
          [.advanced .running .stopped], after⟩

variable {factory interrupt directives request world} {earlier : List Transition} {source : Stage}
  {plan : Plan} {set : DirectiveSet}

/-- A plan needs a request that was accepted, with attributes that resolved. -/
theorem not_planned_of_refused {reason : RequestFault} (refused : request.check = .error reason) :
    ¬Planned request earlier source plan := by
  intro planned
  cases planned with
  | undeclared passed => simp [refused] at passed
  | resolved passed => simp [refused] at passed

theorem not_planned_of_unresolved {held : Plan} {declaration : Declaration}
    {reason : Attribute.DeclarationFault} (passed : request.check = .ok ⟨held, some declaration⟩)
    (unknown : declaration.resolve = .error reason) : ¬Planned request earlier source plan := by
  intro planned
  cases planned with
  | undeclared other => simp [passed] at other
  | resolved other resolved =>
    obtain ⟨_, rfl⟩ : _ ∧ _ := by simpa [passed] using other
    simp [unknown] at resolved

/-- A request comes to one plan only. -/
theorem Planned.unique {before : List Transition} {stage : Stage} {other : Plan}
    (planned : Planned request earlier source plan) (again : Planned request before stage other) :
    other = plan := by
  cases planned with
  | undeclared passed => cases again <;> simp_all
  | resolved passed resolved => cases again <;> simp_all

/-- A request that was planned is composed next. -/
theorem launch_of_planned (planned : Planned request earlier source plan) :
    launch factory interrupt directives request world =
      composeStage factory interrupt directives earlier source plan world := by
  cases planned with
  | undeclared passed => rw [launch, passed]
  | resolved passed resolved => simp only [launch, passed, resolved]

/-- From directives that were composed a server is built next. -/
theorem launch_of_composed
    (composed : Composed request (interrupt world).1 directives earlier set) :
    launch factory interrupt directives request world =
      buildStage factory earlier set (interrupt world).2 := by
  obtain ⟨planned, made⟩ := composed
  simp only [launch_of_planned planned, composeStage, made]

theorem exists_ended_of_composed
    (composed : Composed request (interrupt world).1 directives earlier set) :
    ∃ calls, Ended factory interrupt directives request world calls
      (buildStage factory earlier set (interrupt world).2) := by
  rw [buildStage]
  rcases building : factory.build set (interrupt world).2 with ⟨_ | server, built⟩
  · exact ⟨_, .unbuilt composed building⟩
  · simp only [startStage]
    rcases starting : factory.start server built with ⟨_ | _, started, begun⟩
    · exact ⟨_, .unstarted composed building starting⟩
    · simp only [runStage]
      rcases running : factory.run started begun with ⟨_ | _, final, after⟩
      · exact ⟨_, .broken composed building starting running⟩
      · exact ⟨_, .stopped composed building starting running⟩

theorem exists_ended_of_planned (planned : Planned request earlier source plan) :
    ∃ calls, Ended factory interrupt directives request world calls
      (composeStage factory interrupt directives earlier source plan world) := by
  cases made : plan.compose (interrupt world).1 directives with
  | error fault =>
    simp only [composeStage, made]
    exact ⟨_, .uncomposed planned made⟩
  | ok set =>
    simp only [composeStage, made]
    exact exists_ended_of_composed ⟨planned, made⟩

theorem exists_ended (factory : Factory σ S) (interrupt : σ → Hook × σ)
    (directives : Option String) (request : Request) (world : σ) :
    ∃ calls, Ended factory interrupt directives request world calls
      (launch factory interrupt directives request world) := by
  rw [launch]
  split
  · next refused => exact ⟨_, .unchecked refused⟩
  · next passed => exact exists_ended_of_planned (.undeclared passed)
  · next plan declaration passed =>
    cases resolved : declaration.resolve with
    | error fault => exact ⟨_, .unresolved passed resolved⟩
    | ok attributes => exact exists_ended_of_planned (.resolved passed resolved)

end Launch

end WorkflowLaunch
