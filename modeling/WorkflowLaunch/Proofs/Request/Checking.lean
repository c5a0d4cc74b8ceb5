import WorkflowLaunch.Request.Plan

set_option autoImplicit false

/-!
What a check has found out once it accepts a request, and what it looks at in the lists of
attributes.
-/

namespace WorkflowLaunch

open Attribute (Declaration)

namespace Log.Format

theorem ofName?_eq_some_iff {text : String} {format : Format} :
    ofName? text = some format ↔ format.name = text := by
  constructor
  · intro found
    simpa using List.find?_some found
  · rintro rfl
    cases format <;> decide

theorem name_eq_pretty_iff {format : Format} : format.name = "pretty" ↔ format = .pretty := by
  cases format <;> decide

end Log.Format

namespace Request

/-- Both lists of attributes were given. -/
def Declares (request : Request) : Prop :=
  request.attributeNames.explicit = true ∧ request.attributeTypes.explicit = true

instance (request : Request) : Decidable request.Declares := inferInstanceAs (Decidable (_ ∧ _))

/-- Both lists of attributes, given or not. -/
def declared (request : Request) : Declaration :=
  ⟨request.attributeNames.value, request.attributeTypes.value⟩

/-- A checked request: its plan says the same as the request, and its declaration is still to be
resolved. -/
structure Accepted (request : Request) (checked : Checked) : Prop where
  declared : request.declaration = .ok checked.declaration
  format : checked.plan.logFormat.name = request.logFormat.value
  plan : checked.plan = ⟨request.persistence, request.port.value, request.ip.value,
    checked.plan.logFormat, request.namespaces.value, none⟩

variable {request : Request} {checked : Checked}

theorem isEphemeral_persistence (request : Request) :
    request.persistence.isEphemeral = request.ephemeral.value := by
  rw [persistence]
  split
  · next ephemeral => exact ephemeral.symm
  · next kept => simpa [Persistence.isEphemeral] using kept

theorem path_persistence (request : Request) :
    request.persistence.path = request.filename.value := by
  rw [persistence]
  split <;> rfl

theorem accepted_of_check (passed : request.check = .ok checked) : request.Accepted checked := by
  rw [check] at passed
  split at passed
  · simp at passed
  · split at passed
    · simp at passed
    · cases declared : request.declaration with
      | error fault => simp [declared, bind, Except.bind] at passed
      | ok declaration =>
        cases named : Log.Format.ofName? request.logFormat.value with
        | none => simp [declared, formatNamed, named, bind, Except.bind] at passed
        | some format =>
          simp [declared, formatNamed, named, bind, Except.bind, pure, Except.pure] at passed
          subst passed
          exact ⟨declared, Log.Format.ofName?_eq_some_iff.mp named, rfl⟩

theorem declares_of_declaration {declaration : Declaration}
    (declared : request.declaration = .ok (some declaration)) :
    request.Declares ∧ declaration = ⟨request.attributeNames.value, request.attributeTypes.value⟩ ∧
      request.attributeNames.value.length = request.attributeTypes.value.length := by
  simp only [Request.declaration] at declared
  split at declared
  · simp at declared
  · next names types =>
    split at declared
    · next paired =>
      obtain rfl := Option.some.inj (Except.ok.inj declared)
      exact ⟨⟨names, types⟩, rfl, paired⟩
    · simp at declared
  · simp at declared

/-- Whatever a check hands on, it hands on as the request gives it, and paired. -/
theorem paired_of_check {plan : Plan} {declaration : Declaration}
    (passed : request.check = .ok ⟨plan, some declaration⟩) :
    request.Declares ∧ declaration = request.declared ∧
      declaration.names.length = declaration.types.length := by
  obtain ⟨declares, rfl, paired⟩ := declares_of_declaration (accepted_of_check passed).declared
  exact ⟨declares, rfl, paired⟩

theorem declared_of_check {plan : Plan} {declaration : Declaration}
    (passed : request.check = .ok ⟨plan, some declaration⟩) : declaration = request.declared :=
  (paired_of_check passed).2.1

theorem not_declares_of_declaration (declared : request.declaration = .ok none) :
    ¬request.Declares := by
  rintro ⟨names, types⟩
  simp only [Request.declaration, names, types] at declared
  split at declared <;> simp at declared

/-- A checked request has a declaration exactly if both lists were given. -/
theorem Accepted.declares_iff (accepted : request.Accepted checked) :
    request.Declares ↔ checked.declaration.isSome = true := by
  have declared := accepted.declared
  cases found : checked.declaration with
  | none =>
    rw [found] at declared
    simp [not_declares_of_declaration declared]
  | some declaration =>
    rw [found] at declared
    simp [(declares_of_declaration declared).1]

/-- The request with other lists of attributes, given or not as before. -/
def redeclared (request : Request) (declaration : Declaration) : Request :=
  { request with
    attributeNames := ⟨declaration.names, request.attributeNames.explicit⟩
    attributeTypes := ⟨declaration.types, request.attributeTypes.explicit⟩ }

variable {declaration : Declaration}

/-- A check looks at the lists of attributes only for what is declared. -/
theorem check_redeclared_of_declaration {change : Option Declaration → Option Declaration}
    (declared : (request.redeclared declaration).declaration = request.declaration.map change) :
    (request.redeclared declaration).check = request.check.map fun checked =>
      ⟨checked.plan, change checked.declaration⟩ := by
  have words : (request.redeclared declaration).words = request.words := rfl
  have ephemeral : (request.redeclared declaration).ephemeral = request.ephemeral := rfl
  have filename : (request.redeclared declaration).filename = request.filename := rfl
  have format : (request.redeclared declaration).logFormat = request.logFormat := rfl
  rw [check, check, declared, words, ephemeral, filename, format]
  split
  · rfl
  · split
    · rfl
    · cases request.declaration with
      | error fault => rfl
      | ok declared => cases formatNamed request.logFormat.value <;> rfl

/-- Of given lists of attributes, a check looks at the lengths. -/
theorem check_redeclared (names : declaration.names.length = request.attributeNames.value.length)
    (types : declaration.types.length = request.attributeTypes.value.length) :
    (request.redeclared declaration).check = request.check.map fun checked =>
      ⟨checked.plan, checked.declaration.map fun _ => declaration⟩ := by
  apply check_redeclared_of_declaration
  simp only [Request.declaration, redeclared, names, types]
  cases request.attributeNames.explicit <;> cases request.attributeTypes.explicit
  · rfl
  · rfl
  · rfl
  · simp only
    split <;> rfl

/-- At lists of attributes that were not given, a check does not look at all. -/
theorem check_redeclared_of_absent
    (names : request.attributeNames.explicit = true →
      declaration.names = request.attributeNames.value)
    (types : request.attributeTypes.explicit = true →
      declaration.types = request.attributeTypes.value) :
    (request.redeclared declaration).check = request.check := by
  by_cases declares : request.Declares
  · have unchanged : request.redeclared declaration = request := by
      simp only [redeclared, names declares.1, types declares.2]
    rw [unchanged]
  · have same : (request.redeclared declaration).declaration = request.declaration.map id := by
      simp only [Declares] at declares
      simp only [Request.declaration, redeclared]
      cases named : request.attributeNames.explicit <;>
        cases typed : request.attributeTypes.explicit
      · rfl
      · rfl
      · rfl
      · exact absurd ⟨named, typed⟩ declares
    rw [check_redeclared_of_declaration same]
    cases request.check <;> rfl

end Request

end WorkflowLaunch
