import WorkflowLaunch.Proofs.Catalog.Merging

set_option autoImplicit false

/-!
Calls on a catalog, one after the other. What each of them returns and what the catalog holds in the
end are decided by the catalog at the beginning and by who asked for a name first.
-/

namespace WorkflowLaunch.Catalog

open Attribute (Table ValueType)

inductive Operation where
  | create (name : String)
  | register (name : String) (type : ValueType)

/-- What a call returns. -/
inductive Reply where
  | created (new : Bool)
  | registered (new : Bool)
  | refused (conflict : AttributeConflict)
  deriving DecidableEq

/-- Whether a call has entered something. -/
def Reply.isNew : Reply → Bool
  | created new => new
  | registered new => new
  | refused _ => false

def perform (catalog : Catalog) : Operation → Reply × Catalog
  | .create name =>
    let (new, after) := catalog.createNamespace name
    (.created new, after)
  | .register name type => match catalog.register name type with
    | .ok (new, after) => (.registered new, after)
    | .error conflict => (.refused conflict, catalog)

/-- The replies to several calls, and the catalog behind them. -/
def performAll (catalog : Catalog) : List Operation → List Reply × Catalog
  | [] => ([], catalog)
  | operation :: rest =>
    let (reply, next) := catalog.perform operation
    let (replies, final) := next.performAll rest
    (reply :: replies, final)

/-- The namespaces that are asked for, in the order of the calls. -/
def requested (operations : List Operation) : List String :=
  operations.filterMap fun
    | .create name => some name
    | .register _ _ => none

/-- The type in the first registration of a name. -/
def firstType (operations : List Operation) (name : String) : Option ValueType :=
  operations.findSome? fun
    | .create _ => none
    | .register other type => if other = name then some type else none

/-- What a call returns, by the catalog at the beginning and the calls before it. -/
inductive Returns (catalog : Catalog) (earlier : List Operation) : Operation → Reply → Prop where
  | created {name : String} : name ∉ catalog.namespaces → name ∉ requested earlier →
      Returns catalog earlier (.create name) (.created true)
  | present {name : String} : name ∈ catalog.namespaces ∨ name ∈ requested earlier →
      Returns catalog earlier (.create name) (.created false)
  | registered {name : String} {type : ValueType} : catalog.attributes.get? name = none →
      firstType earlier name = none →
      Returns catalog earlier (.register name type) (.registered true)
  | agreed {name : String} {type : ValueType} :
      (catalog.attributes.get? name).or (firstType earlier name) = some type →
      Returns catalog earlier (.register name type) (.registered false)
  | refused {name : String} {type held : ValueType} :
      (catalog.attributes.get? name).or (firstType earlier name) = some held → held ≠ type →
      Returns catalog earlier (.register name type) (.refused ⟨name, held, type⟩)

variable {first now : Catalog} {earlier : List Operation}

/-- What one call adds to the catalog that it finds. -/
theorem gains_perform (catalog : Catalog) (operation : Operation) :
    Gains catalog (requested [operation]) (firstType [operation]) (catalog.perform operation).2 := by
  cases operation with
  | create name =>
    rw [perform, createNamespace]
    by_cases present : name ∈ catalog.namespaces
    · constructor <;> simp [requested, firstType, present]
    · constructor <;> simp [requested, firstType, present, List.eraseDups_cons]
  | register name type =>
    rw [perform, register]
    cases found : catalog.attributes.get? name with
    | none =>
      refine ⟨by simp [requested], ?_⟩
      intro other
      by_cases same : name = other
      · subst same
        simp [firstType, found]
      · simp [firstType, same]
    | some held =>
      have kept : Gains catalog [] (firstType [.register name type]) catalog := by
        refine ⟨by simp, ?_⟩
        intro other
        by_cases same : name = other
        · subst same
          simp [found]
        · simp [firstType, same]
      by_cases agreed : held = type <;> simpa [agreed, requested] using kept

/-- A call that enters nothing changes nothing. -/
theorem perform_of_not_isNew {catalog : Catalog} {operation : Operation}
    (old : (catalog.perform operation).1.isNew = false) : (catalog.perform operation).2 = catalog := by
  cases operation with
  | create name =>
    rw [perform, createNamespace] at old ⊢
    by_cases present : name ∈ catalog.namespaces
    · simp [present]
    · simp [present, Reply.isNew] at old
  | register name type =>
    rw [perform, register] at old ⊢
    cases found : catalog.attributes.get? name with
    | none => simp [found, Reply.isNew] at old
    | some held => by_cases agreed : held = type <;> simp [agreed]

/-- A call on a catalog that earlier calls have led to. -/
theorem returns_perform (gains : Gains first (requested earlier) (firstType earlier) now)
    (operation : Operation) : Returns first earlier operation (now.perform operation).1 := by
  cases operation with
  | create name =>
    rw [perform, createNamespace]
    by_cases present : name ∈ now.namespaces
    · simpa [present] using .present (gains.mem_namespaces.mp present)
    · obtain ⟨absent, unasked⟩ := not_or.mp fun found => present (gains.mem_namespaces.mpr found)
      simpa [present] using .created absent unasked
  | register name type =>
    rw [perform, register]
    have held := gains.attributes name
    cases found : now.attributes.get? name with
    | none =>
      rw [found] at held
      obtain ⟨absent, unasked⟩ := Option.or_eq_none_iff.mp held.symm
      exact .registered absent unasked
    | some type' =>
      rw [found] at held
      by_cases agreed : type' = type
      · subst agreed
        simpa using .agreed held.symm
      · simpa [agreed] using .refused held.symm agreed

theorem performAll_append (catalog : Catalog) (earlier later : List Operation) :
    catalog.performAll (earlier ++ later) =
      ((catalog.performAll earlier).1 ++ ((catalog.performAll earlier).2.performAll later).1,
        ((catalog.performAll earlier).2.performAll later).2) := by
  induction earlier generalizing catalog with
  | nil => rfl
  | cons operation rest ih => simp only [List.cons_append, performAll, ih]

@[simp]
theorem length_performAll (catalog : Catalog) (operations : List Operation) :
    (catalog.performAll operations).1.length = operations.length := by
  induction operations generalizing catalog with
  | nil => rfl
  | cons operation rest ih => simp only [performAll, List.length_cons, ih]

theorem gains_performAll (catalog : Catalog) (operations : List Operation) :
    Gains catalog (requested operations) (firstType operations)
      (catalog.performAll operations).2 := by
  induction operations generalizing catalog with
  | nil => exact .refl catalog
  | cons operation rest ih =>
    have gains := (gains_perform catalog operation).trans (ih (catalog.perform operation).2)
    have types : firstType (operation :: rest) =
        fun name => (firstType [operation] name).or (firstType rest name) := by
      funext name
      exact @List.findSome?_append _ _ _ [operation] rest
    rw [types]
    have names : requested (operation :: rest) = requested [operation] ++ requested rest :=
      @List.filterMap_append _ _ [operation] rest _
    rw [names]
    exact gains

/-- A run of calls on any catalog. The names that it did not hold come behind the others in the
order of their first request, and of several registrations the first one counts. Each reply says
whether its call was that first one; a refused one names both types, and no call but a first one
changes anything. So namespaces that are all different stay so, and from one moment to a later one
nothing is lost, moved or given another type. -/
theorem replies_follow_requests (catalog : Catalog) (operations : List Operation) :
    Gains catalog (requested operations) (firstType operations)
        (catalog.performAll operations).2 ∧
      (catalog.performAll operations).1.length = operations.length ∧
      (∀ earlier operation later, operations = earlier ++ operation :: later →
        ∃ reply, (catalog.performAll operations).1[earlier.length]? = some reply ∧
          Returns catalog earlier operation reply ∧
          (reply.isNew = false →
            (catalog.performAll (earlier ++ [operation])).2 = (catalog.performAll earlier).2)) ∧
      (catalog.namespaces.Nodup → (catalog.performAll operations).2.namespaces.Nodup) ∧
      ∀ earlier later, operations = earlier ++ later →
        Extends (catalog.performAll earlier).2 (catalog.performAll operations).2 := by
  have gains := gains_performAll catalog operations
  refine ⟨gains, length_performAll catalog operations, ?_, gains.nodup, ?_⟩
  · rintro earlier operation later rfl
    have now := gains_performAll catalog earlier
    refine ⟨_, ?_, returns_perform now operation, ?_⟩
    · rw [performAll_append, List.getElem?_append_right (by simp)]
      simp [performAll]
    · intro old
      rw [performAll_append]
      exact perform_of_not_isNew old
  · rintro earlier later rfl
    rw [performAll_append]
    exact (gains_performAll _ later).extends

/-- A type that was registered a moment ago counts as much as one that was held from the
beginning. -/
theorem repeated_name_refused :
    let catalog : Catalog := ⟨["a", "a"], (∅ : Table).insert "held" .int⟩
    let earlier : List Operation := [.create "b", .register "new" .text, .create "b"]
    let later : List Operation := [.register "held" .bool, .create "a"]
    let operations := earlier ++ .register "new" .keyword :: later
    (catalog.performAll operations).2.namespaces = ["a", "a", "b"] ∧
      (catalog.performAll operations).1[earlier.length]? =
        some (.refused ⟨"new", .text, .keyword⟩) ∧
      Returns catalog earlier (.register "new" .keyword) (.refused ⟨"new", .text, .keyword⟩) ∧
      Extends (catalog.performAll earlier).2 (catalog.performAll operations).2 := by
  intro catalog earlier later operations
  obtain ⟨gains, _, replies, _, grows⟩ := replies_follow_requests catalog operations
  obtain ⟨reply, here, returns, _⟩ := replies earlier (.register "new" .keyword) later rfl
  obtain rfl : .refused ⟨"new", .text, .keyword⟩ = reply := Option.some.inj here
  exact ⟨gains.namespaces, here, returns, grows earlier (.register "new" .keyword :: later) rfl⟩

end WorkflowLaunch.Catalog
