import WorkflowLaunch.Proofs.Launch.History

set_option autoImplicit false

/-!
Two launches whose requests declare the same attributes in a different order. Only the order among
the pairs of one name decides on a type; otherwise the launches are the same in everything that can
be seen of them. Where some type does not exist, both fail, and may name different ones.
-/

namespace WorkflowLaunch

open Attribute (Declaration)
open Launch (Planned)

namespace Launch

variable {σ S : Type} {request : Request} {declaration : Declaration} {earlier : List Transition}
  {source : Stage} {plan : Plan}

theorem Planned.redeclared (planned : Planned request earlier source plan)
    (reorders : request.declared.Reorders declaration) :
    Planned (request.redeclared declaration) earlier source plan := by
  have check := Request.check_redeclared reorders.names reorders.types
  cases planned with
  | undeclared passed =>
    rw [passed] at check
    exact .undeclared check
  | resolved passed resolved =>
    obtain rfl := Request.declared_of_check passed
    rw [passed] at check
    exact .resolved check (reorders.resolve resolved)

/-- How two launches with reordered attributes compare. Either some type of both does not exist, and
each names one, or they are one and the same. -/
theorem launch_redeclared (factory : Factory σ S) (interrupt : σ → Hook × σ)
    (directives : Option String) (reorders : request.declared.Reorders declaration) (world : σ) :
    (∃ message other, launch factory interrupt directives request world =
        fail [.advanced .validating .parsing] .parsing message world ∧
      launch factory interrupt directives (request.redeclared declaration) world =
        fail [.advanced .validating .parsing] .parsing other world) ∨
      launch factory interrupt directives (request.redeclared declaration) world =
        launch factory interrupt directives request world := by
  have check := Request.check_redeclared reorders.names reorders.types
  cases checked : request.check with
  | error fault =>
    rw [checked] at check
    right
    rw [launch, launch, check, checked]
    rfl
  | ok accepted =>
    obtain ⟨plan, _ | declared⟩ := accepted
    · have planned : Planned request [] .validating plan := .undeclared checked
      right
      rw [launch_of_planned planned, launch_of_planned (planned.redeclared reorders)]
    · obtain rfl := Request.declared_of_check checked
      cases resolved : request.declared.resolve with
      | ok attributes =>
        have planned := Planned.resolved checked resolved
        right
        rw [launch_of_planned planned, launch_of_planned (planned.redeclared reorders)]
      | error fault =>
        cases again : declaration.resolve with
        | ok attributes =>
          have resolves := reorders.symm.resolve again
          simp [resolved] at resolves
        | error other =>
          rw [checked] at check
          left
          refine ⟨fault.message, other.message, ?_, ?_⟩
          · simp only [launch, checked, resolved]
          · rw [launch, check]
            simp only [Except.map, Option.map, again]

end Launch

namespace Attempt

/-- The same launch with other lists of attributes. -/
def redeclared (attempt : Attempt) (declaration : Declaration) : Attempt :=
  { attempt with request := attempt.request.redeclared declaration }

variable {attempt : Attempt} {declaration : Declaration} {site : Site} {settings : Settings}

theorem Asks.redeclared (asks : attempt.Asks site settings)
    (reorders : attempt.request.declared.Reorders declaration) :
    (attempt.redeclared declaration).Asks site settings := by
  obtain ⟨earlier, set, ⟨planned, composed⟩, same⟩ := asks
  exact ⟨_, set, ⟨planned.redeclared reorders, composed⟩, same⟩

/-- What two launches have in common if only the order of their attributes differs. Both fail on a
type that does not exist, or they are the same: their result, their transitions and the site that
they leave. Either way they make the same calls, with the same directives, and ask for the same
settings. -/
structure Alike (attempt other : Attempt) (site : Site) : Prop where
  parsing : (other.launch site).FailsIn .parsing ↔ (attempt.launch site).FailsIn .parsing
  launch : ¬(attempt.launch site).FailsIn .parsing → other.launch site = attempt.launch site
  calls : other.calls site = attempt.calls site
  asks : ∀ settings, other.Asks site settings ↔ attempt.Asks site settings

/-- The order in which attributes are declared makes no difference to a launch, as long as the pairs
of each name keep theirs. -/
theorem reordered_attributes_launch_alike (attempt : Attempt) (declaration : Declaration)
    (reorders : attempt.request.declared.Reorders declaration) (site : Site) :
    attempt.Alike (attempt.redeclared declaration) site := by
  have launches := Launch.launch_redeclared (Server.factory attempt.standard attempt.directives)
    attempt.interrupt attempt.directives reorders site
  have records := Launch.launch_redeclared
    (Server.factory attempt.standard attempt.directives).counted
    (Launch.counted attempt.interrupt) attempt.directives reorders (site, .none)
  refine ⟨?_, ?_, ?_, ?_⟩
  · rcases launches with ⟨message, other, here, there⟩ | same
    · exact ⟨fun _ => ⟨_, congrArg Launched.result here, rfl⟩,
        fun _ => ⟨_, congrArg Launched.result there, rfl⟩⟩
    · exact iff_of_eq (congrArg (Launched.FailsIn · .parsing) same)
  · intro parsed
    rcases launches with ⟨message, other, here, _⟩ | same
    · exact absurd ⟨_, congrArg Launched.result here, rfl⟩ parsed
    · exact same
  · rw [calls, calls]
    rcases records with ⟨message, other, here, there⟩ | same
    · exact (congrArg (·.world.2) there).trans (congrArg (·.world.2) here).symm
    · exact congrArg (·.world.2) same
  · intro settings
    constructor
    · intro asks
      exact asks.redeclared reorders.symm
    · intro asks
      exact asks.redeclared reorders

/-- Two attributes that a database holds with other types, one of them declared twice. -/
theorem reordered_conflicts_alike :
    let path : Path := .ofString "db"
    let attempt : Attempt := { plain path ["n"] with
      request := { (plain path ["n"]).request with
        attributeNames := .given ["A", "B", "A"]
        attributeTypes := .given ["Int", "Text", "Bool"] } }
    let declaration : Declaration := ⟨["B", "A", "A"], ["Text", "Int", "Bool"]⟩
    let held : Catalog := ⟨["n"], .ofEntries [("A", .int), ("B", .int)]⟩
    let site : Site := .ofFiles <| FileSystem.start.put
      [Octets.ofString "work", Octets.ofString "db"] (.file (Store.saved held))
    let fault : ServerFault := .store (.conflict ⟨"A", .int, .bool⟩)
    attempt.request.declared.Reorders declaration ∧
      (attempt.launch site).result =
        .error ⟨s!"Unable to start server. Error: {fault.message}", 1, .starting⟩ ∧
      (attempt.redeclared declaration).launch site = attempt.launch site := by
  intro path attempt declaration held site fault
  have reorders : attempt.request.declared.Reorders declaration := by
    refine ⟨rfl, rfl, .swap _ _ _, ?_⟩
    intro name
    by_cases first : "A" = name
    · subst first
      rfl
    · by_cases second : "B" = name
      · subst second
        rfl
      · simp [attempt, declaration, Request.declared, Flag.given, first, second]
  have conflict : (attempt.launch site).result =
      .error ⟨s!"Unable to start server. Error: {fault.message}", 1, .starting⟩ := by
    decide +kernel
  have alike := reordered_attributes_launch_alike attempt declaration reorders site
  refine ⟨reorders, conflict, alike.launch ?_⟩
  rintro ⟨failure, failed, parsing⟩
  rw [conflict] at failed
  obtain rfl := Except.error.inj failed
  simp at parsing

end Attempt

end WorkflowLaunch
