import WorkflowLaunch.Launch.Recording
import WorkflowLaunch.Proofs.Attribute.Declarations
import WorkflowLaunch.Proofs.Attribute.Tables
import WorkflowLaunch.Proofs.Launch.Progress

set_option autoImplicit false

/-!
The settings of a server say the same as the request that it is built for. What the directives on
the way look like, and which settings they start from, makes no difference.
-/

namespace WorkflowLaunch

open Attribute (Declaration Table ValueType)

/-- The storage of a planned server. -/
def Persistence.storage : Persistence → Storage
  | ephemeral _ => .memory
  | file path => .file path

theorem Request.storage_persistence (request : Request) :
    request.persistence.storage =
      if request.ephemeral.value then .memory else .file request.filename.value := by
  rw [persistence]
  split <;> rfl

namespace Plan

variable {plan : Plan} {hook : Hook} {directives : Option String} {set : DirectiveSet}
  {loggers : List Directive} {logger : Option Log.Logger}

/-- The logger of a planned server: coloured and with the filter of the environment, or none. -/
structure Logs (plan : Plan) (directives : Option String) (logger : Option Log.Logger) :
    Prop where
  pretty : logger.isSome = true ↔ plan.logFormat = .pretty
  filter : ∀ made, logger = some made →
    made.format = .pretty ∧ Log.Filter.ofEnvironment directives = .ok made.filter

theorem loggerDirectives_ok (made : plan.loggerDirectives directives = .ok loggers) :
    ∃ logger : Option Log.Logger, loggers = logger.toList.map .logger ∧
      plan.Logs directives logger := by
  rw [loggerDirectives] at made
  cases format : plan.logFormat with
  | json =>
    obtain rfl : [] = loggers := by simpa [format] using made
    refine ⟨none, rfl, ⟨by simp [format], by simp⟩⟩
  | pretty =>
    simp only [format, Log.Logger.ofEnvironment] at made
    cases found : Log.Filter.ofEnvironment directives with
    | error fault => simp [found, Except.map] at made
    | ok filter =>
      obtain rfl : [.logger ⟨.pretty, filter⟩] = loggers := by
        simpa [found, Except.map] using made
      refine ⟨some ⟨.pretty, filter⟩, rfl, ⟨by simp [format], ?_⟩⟩
      intro logger given
      obtain rfl := Option.some.inj given
      exact ⟨rfl, found⟩

/-- The settings that the directives of a plan lead to, whatever the standard ones are. -/
theorem settings_compose (composed : plan.compose hook directives = .ok set) :
    ∃ logger, plan.Logs directives logger ∧ ∀ standard : Standard,
      set.settings (.standard standard) = ⟨plan.port, plan.ip, plan.persistence.storage,
        plan.namespaces, plan.attributes.getD ∅, logger, some hook⟩ := by
  rw [compose] at composed
  cases made : plan.loggerDirectives directives with
  | error fault => simp [made, bind, Except.bind] at composed
  | ok loggers =>
    simp only [made, bind, Except.bind, pure, Except.pure, Except.ok.injEq] at composed
    subst composed
    obtain ⟨logger, rfl, logs⟩ := loggerDirectives_ok made
    refine ⟨logger, logs, ?_⟩
    intro standard
    have table : ∀ given : Table, (∅ : Table).insertAll given.entries = given :=
      Table.insertAll_entries
    cases persistence : plan.persistence <;> cases attributes : plan.attributes <;>
      cases logger <;>
      simp [DirectiveSet.settings, DirectiveSet.ofList, Settings.apply, Settings.standard,
        Persistence.storage, Persistence.isEphemeral, Persistence.path, table]

end Plan

/-- Settings that say what a request says, with a hook. -/
structure Request.Means (request : Request) (directives : Option String) (hook : Hook)
    (settings : Settings) : Prop where
  port : settings.port = request.port.value
  ip : settings.ip = request.ip.value
  storage : settings.storage =
    if request.ephemeral.value then .memory else .file request.filename.value
  namespaces : settings.namespaces = request.namespaces.value
  declared : request.Declares →
    Declaration.Resolves ⟨request.attributeNames.value, request.attributeTypes.value⟩
      settings.attributes
  undeclared : ¬request.Declares → settings.attributes = ∅
  logger : settings.logger.isSome = true ↔ request.logFormat.value = "pretty"
  filter : ∀ logger, settings.logger = some logger →
    logger.format = .pretty ∧ Log.Filter.ofEnvironment directives = .ok logger.filter
  interrupt : settings.interrupt = some hook

/-- A type in the settings was named at the last position of its name. -/
theorem Request.Means.ofName?_of_last {request : Request} {directives : Option String}
    {hook : Hook} {settings : Settings} (means : request.Means directives hook settings)
    {name token : String} {type : ValueType}
    (last :
      Declaration.Last ⟨request.attributeNames.value, request.attributeTypes.value⟩ name token)
    (requested : settings.attributes.get? name = some type) :
    ValueType.ofName? token = some type := by
  by_cases declares : request.Declares
  · obtain ⟨resolved, named, found⟩ := (means.declared declares).last name token last
    rw [named, ← found, requested]
  · rw [means.undeclared declares] at requested
    simp at requested

namespace Launch

variable {σ S : Type} {factory : Factory σ S} {interrupt : σ → Hook × σ}
  {directives : Option String} {request : Request} {world : σ} {earlier : List Transition}
  {source : Stage} {plan : Plan} {set : DirectiveSet} {hook : Hook} {calls : Tally}
  {launched : Launched σ}

/-- A plan says what the request says. -/
structure Agrees (request : Request) (plan : Plan) : Prop where
  same : plan = ⟨request.persistence, request.port.value, request.ip.value, plan.logFormat,
    request.namespaces.value, plan.attributes⟩
  format : plan.logFormat.name = request.logFormat.value
  declared : request.Declares →
    Declaration.Resolves ⟨request.attributeNames.value, request.attributeTypes.value⟩
      (plan.attributes.getD ∅)
  undeclared : ¬request.Declares → plan.attributes.getD ∅ = ∅

theorem Planned.agrees (planned : Planned request earlier source plan) : Agrees request plan := by
  cases planned with
  | undeclared passed =>
    obtain ⟨declared, format, same⟩ := Request.accepted_of_check passed
    have absent : plan.attributes = none := congrArg Plan.attributes same
    refine ⟨absent ▸ same, format, ?_, ?_⟩
    · intro declares
      exact absurd declares (Request.not_declares_of_declaration declared)
    · intro _
      rw [absent, Option.getD_none]
  | @resolved plan declaration attributes passed resolved =>
    obtain ⟨declared, format, same⟩ := Request.accepted_of_check passed
    obtain ⟨declares, rfl, _⟩ := Request.declares_of_declaration declared
    refine ⟨?_, format, ?_, ?_⟩
    · exact congrArg (fun plan : Plan => { plan with attributes := some attributes }) same
    · intro _
      exact Attribute.Declaration.resolves_of_resolve resolved
    · intro undeclared
      exact absurd declares undeclared

theorem Composed.means (composed : Composed request hook directives earlier set) :
    ∃ settings, request.Means directives hook settings ∧
      ∀ standard : Standard, set.settings (.standard standard) = settings := by
  obtain ⟨planned, composed⟩ := composed
  obtain ⟨same, format, declared, undeclared⟩ := planned.agrees
  obtain ⟨logger, logs, settings⟩ := Plan.settings_compose composed
  refine ⟨_, ?_, settings⟩
  constructor
  · exact congrArg Plan.port same
  · exact congrArg Plan.ip same
  · rw [← request.storage_persistence, congrArg Plan.persistence same]
  · exact congrArg Plan.namespaces same
  · exact declared
  · exact undeclared
  · rw [logs.pretty, ← format, Log.Format.name_eq_pretty_iff]
  · exact logs.filter
  · rfl

/-- Every call that builds a server is given composed directives. -/
theorem Ended.composed {succeeded : Bool}
    (ended : Ended factory interrupt directives request world calls launched)
    (built : .build set succeeded ∈ calls) :
    ∃ earlier, Composed request (interrupt world).1 directives earlier set := by
  cases ended with
  | unchecked => simp at built
  | unresolved => simp at built
  | uncomposed => simp at built
  | unbuilt composed =>
    obtain ⟨rfl, _⟩ : _ ∧ _ := by simpa using built
    exact ⟨_, composed⟩
  | unstarted composed =>
    obtain ⟨rfl, _⟩ : _ ∧ _ := by simpa using built
    exact ⟨_, composed⟩
  | broken composed =>
    obtain ⟨rfl, _⟩ : _ ∧ _ := by simpa using built
    exact ⟨_, composed⟩
  | stopped composed =>
    obtain ⟨rfl, _⟩ : _ ∧ _ := by simpa using built
    exact ⟨_, composed⟩

/-- The directives that a launch builds a server from lead to settings that say what the request
says. They are the same for all standard values, and whoever triggers the hook of the launch
triggers the one in the settings. -/
theorem settings_mean_request (factory : Factory σ S) (interrupt : σ → Hook × σ)
    (directives : Option String) (request : Request) (world : σ) (set : DirectiveSet)
    (succeeded : Bool)
    (built : .build set succeeded ∈
      (launch factory.counted (counted interrupt) directives request (world, .none)).world.2)
    (standard : Standard) :
    request.Means directives (interrupt world).1 (set.settings (.standard standard)) ∧
      (∀ other : Standard, set.settings (.standard other) = set.settings (.standard standard)) ∧
      ∀ interrupts : Interrupts, ∃ held, (set.settings (.standard standard)).interrupt = some held ∧
        (interrupts.trigger (interrupt world).1).isTriggered held = true := by
  obtain ⟨calls, ended⟩ := exists_ended factory interrupt directives request world
  rw [ended.launch_counted] at built
  obtain ⟨earlier, composed⟩ := ended.composed built
  obtain ⟨settings, means, same⟩ := composed.means
  rw [same standard]
  refine ⟨means, same, ?_⟩
  intro interrupts
  exact ⟨(interrupt world).1, means.interrupt, by simp⟩

/-- A name that is declared twice has the type of its second position, and nothing of the standard
values is left. -/
theorem settings_mean_repeated_name :
    let standard : Standard := ⟨false, .ofString "home.db", 7233, "127.0.0.1", "json"⟩
    let request : Request := ⟨[], .given true, .absent (.ofString "home.db"), .given 9000,
      .given "::1", .given "pretty", .given ["n", "n"], .given ["A", "B", "A"],
      .given ["Int", "Text", "Bool"]⟩
    let factory : Factory Unit Unit := .scripted .succeeding
    let interrupt (world : Unit) : Hook × Unit := (⟨7⟩, world)
    ∃ set, .build set true ∈
        (launch factory.counted (counted interrupt) none request ((), .none)).world.2 ∧
      request.Means none ⟨7⟩ (set.settings (.standard standard)) ∧
      (set.settings (.standard standard)).attributes.get? "A" = some .bool := by
  intro standard request factory interrupt
  let table : Table := ((Table.insert ∅ "A" .int).insert "B" .text).insert "A" .bool
  let set : DirectiveSet := .ofList [.port 9000, .ip "::1", .databaseFile (.ofString "home.db"),
    .namespaces ["n", "n"], .interrupt ⟨7⟩, .persistenceDisabled, .attributes table,
    .logger ⟨.pretty, .standard⟩]
  have calls : (launch factory.counted (counted interrupt) none request ((), .none)).world.2 =
      [.interrupt, .build set true, .start true, .run true] := rfl
  have built : .build set true ∈
      (launch factory.counted (counted interrupt) none request ((), .none)).world.2 := by
    rw [calls]
    simp
  have means := settings_mean_request factory interrupt none request () set true built standard
  exact ⟨set, built, means.1, rfl⟩

end Launch

end WorkflowLaunch
