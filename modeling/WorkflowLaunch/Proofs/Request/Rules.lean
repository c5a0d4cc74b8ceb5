import WorkflowLaunch.Proofs.Checks
import WorkflowLaunch.Proofs.Request.Checking

set_option autoImplicit false

/-!
The rules for a request. A request is accepted if it obeys all of them, and refused with the fault
of the first one that it does not obey, whatever else is wrong with it.
-/

namespace WorkflowLaunch

open Attribute (Declaration)
open Checks (Decides First)

/-- The rules, in the order in which they are tried. -/
inductive Rule where
  | noWords
  | oneStorage
  | paired
  | counted
  | format
  deriving DecidableEq

namespace Rule

def all : List Rule := [.noWords, .oneStorage, .paired, .counted, .format]

theorem mem_all (rule : Rule) : rule ∈ all := by
  cases rule <;> decide

/-- The fault of a request that does not obey a rule. -/
def fault (request : Request) : Rule → RequestFault
  | noWords => .unexpectedWords request.words
  | oneStorage => .ephemeralWithFilename
  | paired => .unpairedAttributes
  | counted => .attributeCountMismatch request.attributeNames.value.length
      request.attributeTypes.value.length
  | format => .badLogFormat request.logFormat.value

end Rule

namespace Request

/-- What the rules ask for. The lengths of the lists matter only if both were given. -/
def Obeys (request : Request) : Rule → Prop
  | .noWords => request.words = []
  | .oneStorage => ¬(request.ephemeral.explicit = true ∧ request.filename.explicit = true)
  | .paired => request.attributeNames.explicit = request.attributeTypes.explicit
  | .counted => request.Declares →
      request.attributeNames.value.length = request.attributeTypes.value.length
  | .format => request.logFormat.value = "json" ∨ request.logFormat.value = "pretty"

def Reports (request : Request) (rule : Rule) (fault : RequestFault) : Prop :=
  rule.fault request = fault

variable {request : Request} {checked : Checked}

theorem obeys_format_iff : request.Obeys .format ↔
    ∃ format : Log.Format, Log.Format.ofName? request.logFormat.value = some format := by
  simp only [Log.Format.ofName?_eq_some_iff]
  constructor
  · rintro (json | pretty)
    · exact ⟨.json, json.symm⟩
    · exact ⟨.pretty, pretty.symm⟩
  · rintro ⟨_ | _, named⟩
    · exact .inl named.symm
    · exact .inr named.symm

theorem decides_declaration (request : Request) :
    Decides request.Obeys request.Reports [.paired, .counted] request.declaration := by
  simp only [Request.declaration]
  split
  · next names types =>
    refine .next (names.trans types.symm) (.next ?_ (.passed none))
    rintro ⟨given, _⟩
    simp [names] at given
  · next names types =>
    refine .next (names.trans types.symm) ?_
    split
    · next counted => exact .next (fun _ => counted) (.passed _)
    · next differs => exact .failed (fun obeys => differs (obeys ⟨names, types⟩)) rfl
  · next neither both =>
    -- Flags that agree would have led to one of the branches before.
    refine .failed ?_ rfl
    intro same
    cases given : request.attributeTypes.explicit with
    | false => exact neither (same.trans given) given
    | true => exact both (same.trans given) given

theorem decides_formatNamed (request : Request) :
    Decides request.Obeys request.Reports [.format] (formatNamed request.logFormat.value) := by
  rw [formatNamed]
  cases named : Log.Format.ofName? request.logFormat.value with
  | none =>
    refine .failed ?_ rfl
    simp [obeys_format_iff, named]
  | some format => exact .next (obeys_format_iff.mpr ⟨format, named⟩) (.passed format)

theorem decides_check (request : Request) :
    Decides request.Obeys request.Reports Rule.all request.check := by
  rw [check]
  split
  · next words => exact .failed words rfl
  · next noWords =>
    have none : request.words = [] := Decidable.not_not.mp noWords
    refine .next none ?_
    split
    · next both =>
      refine .failed (not_not_intro ?_) rfl
      simpa using both
    · next one =>
      refine .next ?_ ?_
      · simpa [Obeys] using one
      · apply request.decides_declaration.bind
        intro declaration _
        apply request.decides_formatNamed.bind
        intro format _
        exact .passed _

theorem obeys_of_check (passed : request.check = .ok checked) (rule : Rule) :
    request.Obeys rule :=
  request.decides_check.passes_of_ok passed rule rule.mem_all

/-- A checked request that says all that the request says. -/
structure Carries (request : Request) (checked : Checked) : Prop where
  path : checked.plan.persistence.path = request.filename.value
  ephemeral : checked.plan.persistence.isEphemeral = true ↔ request.ephemeral.value = true
  port : checked.plan.port = request.port.value
  ip : checked.plan.ip = request.ip.value
  logFormat : checked.plan.logFormat.name = request.logFormat.value
  namespaces : checked.plan.namespaces = request.namespaces.value
  attributes : checked.plan.attributes = none
  declaration : checked.declaration = if request.Declares then some request.declared else none

theorem Accepted.declaration_eq (accepted : request.Accepted checked) :
    checked.declaration = if request.Declares then some request.declared else none := by
  have declared := accepted.declared
  cases found : checked.declaration with
  | none =>
    rw [found] at declared
    rw [if_neg (not_declares_of_declaration declared)]
  | some declaration =>
    rw [found] at declared
    obtain ⟨declares, rfl, _⟩ := declares_of_declaration declared
    rw [if_pos declares]
    rfl

theorem Accepted.carries (accepted : request.Accepted checked) : request.Carries checked := by
  have same := accepted.plan
  constructor
  · rw [congrArg Plan.persistence same, path_persistence]
  · rw [congrArg Plan.persistence same, isEphemeral_persistence]
  · exact congrArg Plan.port same
  · exact congrArg Plan.ip same
  · exact accepted.format
  · exact congrArg Plan.namespaces same
  · exact congrArg Plan.attributes same
  · exact accepted.declaration_eq

/-- A request is accepted if it obeys every rule, and then nothing of it is changed or left out;
otherwise it is refused for the first rule that it does not obey. Lists of attributes that were not
given make no difference. -/
theorem checked_by_rules (request : Request) :
    (∀ fault, request.check = .error fault ↔
      ∃ rule, First request.Obeys Rule.all rule ∧ rule.fault request = fault) ∧
    ((∃ checked, request.check = .ok checked) ↔ ∀ rule, request.Obeys rule) ∧
    (∀ checked, request.check = .ok checked → request.Carries checked) ∧
    ∀ declaration : Declaration,
      (request.attributeNames.explicit = true →
        declaration.names = request.attributeNames.value) →
      (request.attributeTypes.explicit = true →
        declaration.types = request.attributeTypes.value) →
      (request.redeclared declaration).check = request.check := by
  have decides := request.decides_check
  refine ⟨?_, ?_, ?_, ?_⟩
  · intro fault
    apply decides.eq_error_iff
    rintro rule one other rfl rfl
    rfl
  · rw [decides.exists_ok_iff]
    exact ⟨fun obeys rule => obeys rule rule.mem_all, fun obeys rule _ => obeys rule⟩
  · intro checked passed
    exact (accepted_of_check passed).carries
  · intro declaration names types
    exact check_redeclared_of_absent names types

/-- A request with three faults, and one that is accepted with names of attributes that it did not
give. -/
theorem checked_by_rules_of_faulty :
    let faulty : Request := ⟨[], .given false, .given (.ofString "foo.db"), .absent 7233,
      .absent "127.0.0.1", .given "xml", .absent [], .given ["A", "B"], .given ["Keyword"]⟩
    let plain : Request := ⟨[], .absent false, .given (.ofString "foo.db"), .absent 7233,
      .absent "127.0.0.1", .given "pretty", .given ["n", "n"], .absent ["A"], .absent []⟩
    faulty.check = .error .ephemeralWithFilename ∧
      (plain.redeclared ⟨["B"], ["C", "D"]⟩).check = plain.check ∧
      ∃ checked, plain.check = .ok checked ∧ plain.Carries checked := by
  intro faulty plain
  obtain ⟨refused, _⟩ := checked_by_rules faulty
  obtain ⟨_, accepted, carried, unseen⟩ := checked_by_rules plain
  have both : ¬faulty.Obeys .oneStorage := not_not_intro ⟨rfl, rfl⟩
  have first : First faulty.Obeys Rule.all .oneStorage := .later rfl (.here both)
  have obeys : ∀ rule, plain.Obeys rule := by
    intro rule
    cases rule with
    | noWords => rfl
    | oneStorage => exact fun both => nomatch both.1
    | paired => rfl
    | counted => exact fun declares => nomatch declares.1
    | format => exact .inr rfl
  obtain ⟨checked, passed⟩ := accepted.mpr obeys
  refine ⟨(refused _).mpr ⟨_, first, rfl⟩, unseen _ ?_ ?_, checked, passed, carried checked passed⟩
  · rintro ⟨⟩
  · rintro ⟨⟩

end Request

end WorkflowLaunch
