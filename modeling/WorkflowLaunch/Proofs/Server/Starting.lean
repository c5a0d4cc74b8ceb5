import WorkflowLaunch.Proofs.Launch.Stages

set_option autoImplicit false

/-!
What a start comes to once the address is bound. It fails on a conflict exactly if the catalog holds
one of the attributes with another type, and then at the least name; otherwise everything is entered
and the rest is left to the flush.
-/

namespace WorkflowLaunch.Server

open Attribute (Declaration ValueType)

variable {settings : Settings} {catalog : Catalog} {details : AttributeConflict}

theorem enter_eq_error (refused : (enter settings catalog).1 = .error details) :
    Clash settings catalog details ∧
      (∀ other, Clash settings catalog other → details.name ≤ other.name) ∧
      catalog.Gains settings.namespaces (typesBelow settings details.name)
        (enter settings catalog).2 := by
  have enters := enters_enter settings catalog
  rw [refused] at enters
  cases enters with
  | clashed clash least gains => exact ⟨clash, least, gains⟩

theorem enter_eq_ok (done : (enter settings catalog).1 = .ok ()) :
    (∀ details, ¬Clash settings catalog details) ∧
      catalog.Gains settings.namespaces settings.attributes.get? (enter settings catalog).2 := by
  have enters := enters_enter settings catalog
  rw [done] at enters
  cases enters with
  | granted agreed gains => exact ⟨agreed, gains⟩

variable {server : Server} {world : World}

theorem start_conflicts_iff (free : server.address ∉ world.held) :
    (∃ details, (server.start world).result = .error (.store (.conflict details))) ↔
      ∃ details, Clash server.settings server.store.catalog details := by
  constructor
  · rintro ⟨details, failed⟩
    obtain ⟨_, _, refused⟩ := start_of_conflict failed
    exact ⟨details, (enter_eq_error refused).1⟩
  · rintro ⟨details, clash⟩
    have starts := starts_start server world
    generalize server.start world = effect at starts ⊢
    cases starts with
    | bound held => exact absurd held free
    | conflict => exact ⟨_, rfl⟩
    | unwritten _ done _ => exact absurd clash ((enter_eq_ok done).1 details)
    | started _ done _ => exact absurd clash ((enter_eq_ok done).1 details)

/-- A start without a conflict enters everything and is decided by the flush. -/
theorem start_of_agreed (free : server.address ∉ world.held)
    (agreed : ∀ details, ¬Clash server.settings server.store.catalog details) :
    ∃ after, server.store.catalog.Gains server.settings.namespaces
        server.settings.attributes.get? after ∧
      (server.start world).server.store = { server.store with catalog := after } ∧
      (server.start world).result =
        ((server.start world).server.store.flush world.files).1.mapError .store ∧
      (server.start world).world.files =
        ((server.start world).server.store.flush world.files).2 := by
  refine ⟨(enter server.settings server.store.catalog).2, ?_⟩
  have starts := starts_start server world
  generalize server.start world = effect at starts ⊢
  cases starts with
  | bound held => exact absurd held free
  | conflict _ refused => exact absurd (enter_eq_error refused).1 (agreed _)
  | unwritten _ done flushed =>
    refine ⟨(enter_eq_ok done).2, rfl, ?_, ?_⟩
    · simp only [flushed, Except.mapError]
    · simp only [flushed]
  | started _ done flushed =>
    refine ⟨(enter_eq_ok done).2, rfl, ?_, ?_⟩
    · simp only [flushed, Except.mapError]
    · simp only [flushed]

/-- The start of a server whose address is free, whatever its catalog holds. It conflicts exactly if
an attribute in the settings is held with another type; the least such name is reported, what stands
in front of it in the settings is entered, and nothing outside the catalog is touched. Otherwise
everything is entered, and the start succeeds exactly if the flush does. A name that stands on the
command line several times is compared with what was held before, and never with itself. -/
theorem start_outcome (server : Server) (world : World) (free : server.address ∉ world.held) :
    let settings := server.settings
    let catalog := server.store.catalog
    let effect := server.start world
    ((∃ details, effect.result = .error (.store (.conflict details))) ↔
        ∃ details, Clash settings catalog details) ∧
      (∀ details, effect.result = .error (.store (.conflict details)) →
        Clash settings catalog details ∧
        (∀ other, Clash settings catalog other → details.name ≤ other.name) ∧
        ∃ after, catalog.Gains settings.namespaces (typesBelow settings details.name) after ∧
          effect.server = { server with store := { server.store with catalog := after } } ∧
          effect.world = world) ∧
      ((∀ details, ¬Clash settings catalog details) →
        ∃ after, catalog.Gains settings.namespaces settings.attributes.get? after ∧
          effect.server.store = { server.store with catalog := after } ∧
          effect.result = (effect.server.store.flush world.files).1.mapError .store ∧
          effect.world.files = (effect.server.store.flush world.files).2) ∧
      ∀ (attempt : Attempt) site, attempt.Asks site settings → ∀ name token,
        Declaration.Last
          ⟨attempt.request.attributeNames.value, attempt.request.attributeTypes.value⟩ name token →
        catalog.attributes.get? name = none ∨
          catalog.attributes.get? name = ValueType.ofName? token →
        ∀ details, effect.result = .error (.store (.conflict details)) → details.name ≠ name := by
  intro settings catalog effect
  refine ⟨start_conflicts_iff free, ?_, start_of_agreed free, ?_⟩
  · intro details failed
    obtain ⟨serverAfter, worldAfter, refused⟩ := start_of_conflict failed
    obtain ⟨clash, least, gains⟩ := enter_eq_error refused
    exact ⟨clash, least, _, gains, serverAfter, worldAfter⟩
  · rintro attempt site asks name token last agrees details failed rfl
    obtain ⟨_, _, refused⟩ := start_of_conflict failed
    obtain ⟨⟨requested, held, different⟩, _, _⟩ := enter_eq_error refused
    rw [asks.means.ofName?_of_last last requested, held] at agrees
    rcases agrees with absent | same
    · simp at absent
    · exact different (Option.some.inj same)

/-- A launch that lists the name K twice, on a catalog that holds B and C with other types. -/
theorem start_conflicts_at_least_name :
    let standard : Standard := ⟨false, .ofString "home.db", 7233, "127.0.0.1", "json"⟩
    let request : Request := ⟨[], .given true, .absent (.ofString "home.db"), .given 9000,
      .given "::1", .given "json", .given ["new", "old", "new"],
      .given ["K", "C", "B", "K", "A"], .given ["Int", "Int", "Bool", "Text", "Keyword"]⟩
    let attempt : Attempt := ⟨standard, none, Interrupts.fresh, request⟩
    let site : Site := ⟨⟨.start, [], .none⟩, []⟩
    let settings : Settings := ⟨9000, "::1", .memory, ["new", "old", "new"],
      .ofEntries [("A", .keyword), ("B", .bool), ("C", .int), ("K", .text)], none, some ⟨0⟩⟩
    let catalog : Catalog := ⟨["old"], .ofEntries [("B", .int), ("C", .double)]⟩
    let server : Server := ⟨settings, ⟨.six [0, 0, 0, 0, 0, 0, 0, 1], 9000⟩, ⟨none, catalog⟩,
      ⟨.json, .standard⟩, ⟨0⟩, false⟩
    let effect := server.start site.world
    server.address ∉ site.world.held ∧ attempt.Asks site settings ∧
      effect.result = .error (.store (.conflict ⟨"B", .int, .bool⟩)) ∧
      effect.server.store.catalog.namespaces = ["old", "new"] ∧
      effect.server.store.catalog.attributes.get? "A" = some .keyword ∧
      effect.server.store.catalog.attributes.get? "K" = none ∧
      effect.world = site.world ∧
      ∀ details, effect.result = .error (.store (.conflict details)) → details.name ≠ "K" := by
  intro standard request attempt site settings catalog server effect
  have free : server.address ∉ site.world.held := List.not_mem_nil
  have accepted : request.check = .ok ⟨⟨.ephemeral (.ofString "home.db"), 9000, "::1", .json,
      ["new", "old", "new"], none⟩,
    some ⟨["K", "C", "B", "K", "A"], ["Int", "Int", "Bool", "Text", "Keyword"]⟩⟩ := rfl
  have asks : attempt.Asks site settings := ⟨_, _, ⟨.resolved accepted rfl, rfl⟩, rfl⟩
  have failed : effect.result = .error (.store (.conflict ⟨"B", .int, .bool⟩)) := rfl
  obtain ⟨_, conflicts, _, never⟩ := start_outcome server site.world free
  obtain ⟨_, _, after, gains, serverAfter, worldAfter⟩ := conflicts _ failed
  have same : effect.server.store.catalog = after := by rw [serverAfter]
  rw [same]
  have last : Declaration.Last ⟨request.attributeNames.value, request.attributeTypes.value⟩
      "K" "Text" := by
    refine ⟨3, rfl, rfl, ?_⟩
    intro later behind found
    obtain ⟨inside, _⟩ := List.getElem?_eq_some_iff.mp found
    obtain rfl : later = 4 := Nat.le_antisymm (Nat.le_of_lt_succ inside) behind
    exact absurd found (by decide)
  exact ⟨free, asks, failed, gains.namespaces, gains.attributes "A", gains.attributes "K",
    worldAfter, never attempt site asks "K" "Text" last (.inl rfl)⟩

end WorkflowLaunch.Server
