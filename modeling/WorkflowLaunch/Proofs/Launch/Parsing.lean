import WorkflowLaunch.Launch.Recording
import WorkflowLaunch.Proofs.Attribute.Resolution
import WorkflowLaunch.Proofs.Launch.Endings

set_option autoImplicit false

/-!
Failures while the attributes of a launch are parsed. Only an accepted request comes that far, and
its lists are of one length, so that nothing but an unknown type can be wrong with them. No other
failure reads like the fault of lists with different lengths either.
-/

namespace WorkflowLaunch

open Attribute (DeclarationFault Known)
open Checks (First)

/-- A text that begins with something else than the fault of lists with different lengths. -/
def Distinct (text : String) : Prop := ∃ c, text.toList.head? = some c ∧ c ≠ 'g'

namespace Distinct

theorem ofList {c : Char} (rest : List Char) (different : c ≠ 'g') :
    Distinct (String.ofList (c :: rest)) :=
  ⟨c, by simp, different⟩

theorem append {front : String} (distinct : Distinct front) (rest : String) :
    Distinct (front ++ rest) := by
  obtain ⟨c, begins, different⟩ := distinct
  exact ⟨c, by simp [begins], different⟩

theorem ne_lengthMismatch {text : String} (distinct : Distinct text) (names types : Nat) :
    text ≠ (DeclarationFault.lengthMismatch names types).message := by
  have other : (DeclarationFault.lengthMismatch names types).message.toList.head? = some 'g' := by
    have got : (toString "got ").toList.head? = some 'g' := by decide
    simp [DeclarationFault.message, got]
  obtain ⟨c, begins, different⟩ := distinct
  rintro rfl
  exact different (Option.some.inj (begins.symm.trans other))

end Distinct

/-! The fault of lists with different lengths begins with "got", and no other message does. -/

theorem RequestFault.distinct_message (fault : RequestFault) : Distinct fault.message := by
  cases fault with
  | unexpectedWords => exact .ofList _ (by decide)
  | ephemeralWithFilename => exact .ofList _ (by decide)
  | unpairedAttributes => exact .append (.ofList _ (by decide)) _
  | attributeCountMismatch => exact .append (.ofList _ (by decide)) _
  | badLogFormat => exact .append (.append (.ofList _ (by decide)) _) _

theorem Attribute.DeclarationFault.distinct_message (token : String) :
    Distinct (unknownType token).message :=
  .append (.append (.ofList _ (by decide)) _) _

theorem Log.FilterFault.distinct_message (fault : FilterFault) : Distinct fault.message :=
  .append (.append (.append (.append (.append (.ofList _ (by decide)) _) _) _) _) _

theorem StoreFault.distinct_message (fault : StoreFault) : Distinct fault.message := by
  cases fault with
  | access => exact .append (.append (.append (.ofList _ (by decide)) _) _) _
  | corrupt => exact .append (.append (.append (.ofList _ (by decide)) _) _) _
  | conflict =>
    exact .append (.append (.append (.append (.append (.ofList _ (by decide)) _) _) _) _) _

theorem ServerFault.distinct_message (fault : ServerFault) : Distinct fault.message := by
  cases fault with
  | invalidPort => exact .append (.ofList _ (by decide)) _
  | invalidAddress => exact .append (.append (.ofList _ (by decide)) _) _
  | blankNamespace => exact .ofList _ (by decide)
  | filter fault => exact fault.distinct_message
  | store fault => exact fault.distinct_message
  | bind => exact .append (.append (.ofList _ (by decide)) _) _
  | frontend => exact .append (.ofList _ (by decide)) _
  | notStarted => exact .ofList _ (by decide)

namespace Request

variable {request : Request}

theorem check_of_declares {checked : Checked} (passed : request.check = .ok checked)
    (declares : request.Declares) : request.check = .ok ⟨checked.plan, some request.declared⟩ := by
  have given := (accepted_of_check passed).declares_iff.mp declares
  obtain ⟨declaration, found⟩ := Option.isSome_iff_exists.mp given
  obtain ⟨plan, _⟩ := checked
  obtain rfl : _ = some declaration := found
  rw [passed, declared_of_check passed]

end Request

namespace Launch

variable {σ S : Type} {factory : Factory σ S} {interrupt : σ → Hook × σ}
  {directives : Option String} {request : Request} {world : σ} {plan : Plan}
  {calls : Tally} {launched : Launched σ} {failure : Failure} {token : String}

/-- The first type name of an accepted request that no type has, where both lists were given. -/
structure Misnamed (request : Request) (token : String) : Prop where
  accepted : ∃ checked, request.check = .ok checked
  declares : request.Declares
  first : First Known request.attributeTypes.value token

theorem misnamed_of_unresolved {declaration : Attribute.Declaration} {fault : DeclarationFault}
    (passed : request.check = .ok ⟨plan, some declaration⟩)
    (unresolved : declaration.resolve = .error fault) :
    ∃ token, Misnamed request token ∧ fault = .unknownType token := by
  obtain ⟨declares, rfl, paired⟩ := Request.paired_of_check passed
  have yields := request.declared.yields_resolve
  rw [unresolved] at yields
  cases yields with
  | mismatched differs => exact absurd paired differs
  | unknown _ first => exact ⟨_, ⟨⟨_, passed⟩, declares, first⟩, rfl⟩

theorem unresolved_of_misnamed (misnamed : Misnamed request token) :
    request.declared.resolve = .error (.unknownType token) := by
  obtain ⟨_, passed⟩ := misnamed.accepted
  have paired := (Request.paired_of_check (Request.check_of_declares passed misnamed.declares)).2.2
  exact Attribute.Declaration.resolve_of_unknown paired misnamed.first

theorem launch_of_misnamed (misnamed : Misnamed request token) :
    launch factory interrupt directives request world =
      fail [.advanced .validating .parsing] .parsing (DeclarationFault.unknownType token).message
        world := by
  obtain ⟨_, passed⟩ := misnamed.accepted
  rw [launch, Request.check_of_declares passed misnamed.declares]
  simp only [unresolved_of_misnamed misnamed]

/-- A failure while parsing is about a type name. -/
theorem Ended.misnamed (ended : Ended factory interrupt directives request world calls launched)
    (failed : launched.result = .error failure) (parsing : failure.stage = .parsing) :
    ∃ token, Misnamed request token := by
  cases ended with
  | unresolved passed unresolved =>
    obtain ⟨token, misnamed, _⟩ := misnamed_of_unresolved passed unresolved
    exact ⟨token, misnamed⟩
  | unchecked | uncomposed | unbuilt | unstarted | broken =>
    obtain rfl := Except.error.inj failed
    simp at parsing
  | stopped => simp at failed

/-- No failure reads like the fault of lists with different lengths. -/
theorem Ended.distinct (ended : Ended factory interrupt directives request world calls launched)
    (failed : launched.result = .error failure) : Distinct failure.message := by
  cases ended with
  | unresolved passed unresolved =>
    obtain ⟨token, _, rfl⟩ := misnamed_of_unresolved passed unresolved
    obtain rfl := Except.error.inj failed
    exact DeclarationFault.distinct_message token
  | @unchecked fault =>
    obtain rfl := Except.error.inj failed
    exact fault.distinct_message
  | @uncomposed _ _ _ fault =>
    obtain rfl := Except.error.inj failed
    exact fault.distinct_message
  | @unbuilt _ _ fault =>
    obtain rfl := Except.error.inj failed
    exact fault.distinct_message
  | unstarted | broken =>
    obtain rfl := Except.error.inj failed
    exact .append (.ofList _ (by decide)) _
  | stopped => simp at failed

/-- A request that is refused is refused alike with other type names, as long as there are as
many. -/
theorem launch_of_refused {fault : RequestFault} {tokens : List String}
    (refused : request.check = .error fault)
    (counted : tokens.length = request.attributeTypes.value.length) :
    launch factory interrupt directives
        (request.redeclared ⟨request.attributeNames.value, tokens⟩) world =
      launch factory interrupt directives request world := by
  have check : (request.redeclared ⟨request.attributeNames.value, tokens⟩).check = _ :=
    Request.check_redeclared rfl counted
  rw [refused] at check
  rw [launch, launch, check, refused]
  rfl

/-- A launch fails while parsing exactly if its request was accepted with both lists given and a
type name that no type has. The failure names the first of these. Lists of different lengths are
never reported, as none are handed on; and where the request is refused, the type names have no say
in that. -/
theorem parsing_fails_for_unknown_types (factory : Factory σ S) (interrupt : σ → Hook × σ)
    (directives : Option String) (request : Request) (world : σ) :
    let launched := launch factory interrupt directives request world
    (launched.FailsIn .parsing ↔ (∃ checked, request.check = .ok checked) ∧ request.Declares ∧
      ∃ token ∈ request.attributeTypes.value, ¬Known token) ∧
    (∀ failure, launched.result = .error failure → failure.stage = .parsing →
      ∃ token, First Known request.attributeTypes.value token ∧ failure =
        ⟨s!"the type: {token} is not a valid type for a search attribute", 1, .parsing⟩) ∧
    (∀ plan declaration, request.check = .ok ⟨plan, some declaration⟩ →
      declaration.names.length = declaration.types.length) ∧
    (∀ failure names types, launched.result = .error failure →
      failure.message ≠ (DeclarationFault.lengthMismatch names types).message) ∧
    ∀ fault tokens, request.check = .error fault →
      tokens.length = request.attributeTypes.value.length →
      launch factory interrupt directives
        (request.redeclared ⟨request.attributeNames.value, tokens⟩) world = launched := by
  obtain ⟨calls, ended⟩ := exists_ended factory interrupt directives request world
  refine ⟨⟨?_, ?_⟩, ?_, ?_, ?_, ?_⟩
  · rintro ⟨failure, failed, parsing⟩
    obtain ⟨token, accepted, declares, first⟩ := ended.misnamed failed parsing
    exact ⟨accepted, declares, token, first.mem, first.fails⟩
  · rintro ⟨accepted, declares, token, member, unknown⟩
    obtain ⟨first, found⟩ := First.exists_of_fails member unknown
    have launched : launch factory interrupt directives request world = _ :=
      launch_of_misnamed ⟨accepted, declares, found⟩
    exact ⟨_, congrArg Launched.result launched, rfl⟩
  · intro failure failed parsing
    obtain ⟨token, misnamed⟩ := ended.misnamed failed parsing
    rw [launch_of_misnamed misnamed] at failed
    exact ⟨token, misnamed.first, (Except.error.inj failed).symm⟩
  · intro plan declaration passed
    exact (Request.paired_of_check passed).2.2
  · intro failure names types failed
    exact (ended.distinct failed).ne_lengthMismatch names types
  · intro fault tokens refused counted
    exact launch_of_refused refused counted

/-- Two type names that no type has, with names that are accepted and with a word too many. -/
theorem parsing_fails_for_misspelt_type :
    let factory : Factory Unit Unit := .scripted .succeeding
    let interrupt (world : Unit) : Hook × Unit := (⟨0⟩, world)
    let request (words types : List String) : Request := ⟨words, .absent false,
      .absent (.ofString "db"), .absent 7233, .absent "127.0.0.1", .absent "json", .absent [],
      .given ["A", "B", "C"], .given types⟩
    let launched (words types : List String) :=
      launch factory interrupt none (request words types) ()
    (launched [] ["Int", "Strng", "Nope"]).result =
        .error ⟨"the type: Strng is not a valid type for a search attribute", 1, .parsing⟩ ∧
      launched ["extra"] ["Int", "Int", "Int"] = launched ["extra"] ["Int", "Strng", "Nope"] := by
  intro factory interrupt request launched
  obtain ⟨fails, names, _⟩ := parsing_fails_for_unknown_types factory interrupt none
    (request [] ["Int", "Strng", "Nope"]) ()
  obtain ⟨_, _, _, _, unread⟩ := parsing_fails_for_unknown_types factory interrupt none
    (request ["extra"] ["Int", "Strng", "Nope"]) ()
  have unknown : ¬Known "Strng" := by decide
  have first : First Known ["Int", "Strng", "Nope"] "Strng" :=
    .later ⟨.int, rfl⟩ (.here unknown)
  obtain ⟨failure, failed, parsing⟩ := fails.mpr
    ⟨⟨_, rfl⟩, ⟨rfl, rfl⟩, "Strng", by simp [request, Flag.given], unknown⟩
  obtain ⟨token, found, rfl⟩ := names failure failed parsing
  obtain rfl := first.unique found
  exact ⟨failed, unread _ ["Int", "Int", "Int"] rfl rfl⟩

end Launch

end WorkflowLaunch
