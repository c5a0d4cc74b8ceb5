import WorkflowLaunch.Proofs.Server.Course

set_option autoImplicit false

/-!
What a start reports. The events that a server without a logger of its own writes are the difference
between its catalog before the call and after it, in the order in which it came about, and one more
if the call succeeded.
-/

namespace WorkflowLaunch

open Attribute (Entry Table ValueType)

/-- What a catalog has gained: names behind those that it held, each once, and entries under names
that it did not hold, in name order. Nothing else has changed. -/
structure Catalog.Added (before after : Catalog) (names : List String) (entries : List Entry) :
    Prop where
  namespaces : after.namespaces = before.namespaces ++ names
  distinct : names.Nodup
  newNames : ∀ name ∈ names, name ∉ before.namespaces
  entries : entries =
    after.attributes.entries.filter fun entry => (before.attributes.get? entry.1).isNone
  kept : ∀ name type, before.attributes.get? name = some type →
    after.attributes.get? name = some type

theorem Catalog.Added.refl (catalog : Catalog) : catalog.Added catalog [] [] := by
  refine ⟨by simp, .nil, by simp, ?_, fun _ _ held => held⟩
  apply Eq.symm
  apply List.filter_eq_nil_iff.mpr
  rintro ⟨name, type⟩ member
  have held : catalog.attributes.get? name = some type :=
    Attribute.find?_eq_some_of_mem catalog.attributes.sorted member
  simp [held]

theorem Log.Logger.enables_standard (format : Log.Format) (event : Log.Event) :
    Log.Logger.enables ⟨format, .standard⟩ event = Log.Limit.allows (.upTo .info) event.level := by
  have rules : Log.Filter.standard.eventRules = [⟨none, none, none, .upTo .info⟩] := by decide
  simp [Log.Logger.enables, Log.Filter.enables, rules, Log.Filter.concerns]

namespace Server

/-- The event of a namespace that a start has created. -/
def createdEvent (name : String) : Log.Event :=
  event .info "Namespace created" [("namespace", .text name)]

/-- The event of an attribute that a start has registered. -/
def registeredEvent (entry : Entry) : Log.Event :=
  event .info "Search attribute registered"
    [("name", .text entry.1), ("attribute_type", .text entry.2.name)]

/-- The logger of a server that was not given one, if the environment asks for no filter. -/
def standardLogger : Log.Logger := ⟨.json, .standard⟩

@[simp] theorem written_nil : standardLogger.written [] = [] := rfl

theorem written_cons_info (message : String) (fields : List (String × Log.Datum))
    (rest : List Log.Event) : standardLogger.written (event .info message fields :: rest) =
      event .info message fields :: standardLogger.written rest :=
  List.filter_cons_of_pos (Log.Logger.enables_standard _ _)

theorem written_cons_debug (message : String) (fields : List (String × Log.Datum))
    (rest : List Log.Event) : standardLogger.written (event .debug message fields :: rest) =
      standardLogger.written rest := by
  apply List.filter_cons_of_neg
  rw [standardLogger, Log.Logger.enables_standard]
  exact Bool.false_ne_true

/-- Of the namespaces that are entered, those that are new are reported. -/
theorem written_enterNamespaces (catalog : Catalog) (names : List String) :
    ∃ added, (enterNamespaces catalog names).1 =
        { catalog with namespaces := catalog.namespaces ++ added } ∧
      standardLogger.written (enterNamespaces catalog names).2 = added.map createdEvent ∧
      added.Nodup ∧ ∀ name ∈ added, name ∉ catalog.namespaces := by
  induction names generalizing catalog with
  | nil => exact ⟨[], by simp [enterNamespaces]⟩
  | cons name rest ih =>
    by_cases present : name ∈ catalog.namespaces
    · obtain ⟨added, after, written, distinct, new⟩ := ih catalog
      simp only [enterNamespaces, Catalog.createNamespace, if_pos present, Bool.false_eq_true,
        if_false, written_cons_debug]
      exact ⟨added, after, written, distinct, new⟩
    · obtain ⟨added, after, written, distinct, new⟩ :=
        ih { catalog with namespaces := catalog.namespaces ++ [name] }
      simp only [enterNamespaces, Catalog.createNamespace, if_neg present, if_true,
        written_cons_info]
      refine ⟨name :: added, ?_, ?_, ?_, ?_⟩
      · simpa using after
      · rw [written]
        rfl
      · refine List.nodup_cons.mpr ⟨?_, distinct⟩
        intro again
        exact new name again (by simp)
      · intro other member
        rcases List.mem_cons.mp member with rfl | later
        · exact present
        · exact fun held => new other later (List.mem_append_left _ held)

/-- Of the attributes that are entered, those that are new are reported up to the first conflict. -/
theorem written_enterAttributes (catalog : Catalog) (entries : List Entry) :
    ∃ added, added.Sublist entries ∧
      standardLogger.written (enterAttributes catalog entries).2.2 = added.map registeredEvent ∧
      (∀ entry ∈ added, catalog.attributes.get? entry.1 = none) ∧
      ∀ name, (enterAttributes catalog entries).2.1.attributes.get? name =
        (catalog.attributes.get? name).or (Attribute.find? name added) := by
  induction entries generalizing catalog with
  | nil => exact ⟨[], by simp [enterAttributes, Attribute.find?]⟩
  | cons entry rest ih =>
    obtain ⟨name, type⟩ := entry
    simp only [enterAttributes, Catalog.register]
    cases found : catalog.attributes.get? name with
    | none =>
      obtain ⟨added, sub, written, new, types⟩ :=
        ih { catalog with attributes := catalog.attributes.insert name type }
      refine ⟨(name, type) :: added, sub.cons_cons _, ?_, ?_, ?_⟩
      · simp only [if_true, List.singleton_append, written_cons_info, written]
        rfl
      · intro other member
        rcases List.mem_cons.mp member with rfl | later
        · exact found
        · have absent := new other later
          rw [Table.get?_insert] at absent
          split at absent
          · simp at absent
          · exact absent
      · intro other
        simp only [types, Table.get?_insert, Attribute.find?]
        by_cases same : name = other
        · subst same
          simp [found]
        · simp [same]
    | some held =>
      by_cases agreed : held = type
      · obtain ⟨added, sub, written, new, types⟩ := ih catalog
        simp only [if_pos agreed, Bool.false_eq_true, if_false, List.nil_append]
        exact ⟨added, sub.cons _, written, new, types⟩
      · simp only [if_neg agreed]
        exact ⟨[], by simp [Attribute.find?]⟩

/-- Entries that were added to a table are what is new in it. -/
theorem entries_eq_filter {before after : Table} {added : List Entry}
    (sorted : Attribute.Sorted added) (new : ∀ entry ∈ added, before.get? entry.1 = none)
    (types : ∀ name, after.get? name = (before.get? name).or (Attribute.find? name added)) :
    added = after.entries.filter fun entry => (before.get? entry.1).isNone := by
  apply Attribute.eq_of_find?_eq sorted (List.Pairwise.filter _ after.sorted)
  intro name
  rw [Attribute.find?_filter fun name => (before.get? name).isNone]
  have whole : Attribute.find? name after.entries = _ := types name
  rw [whole]
  cases held : before.get? name with
  | none => simp
  | some type =>
    cases found : Attribute.find? name added with
    | none => simp
    | some type' =>
      rw [new _ (Attribute.mem_of_find?_eq_some found)] at held
      simp at held

variable {server later last : Server} {world opened now final : World} {settings : Settings}
  {names : List String} {entries : List Entry}

/-- What entering the settings of a server adds to its catalog is what is reported of it. -/
theorem added_entered (server : Server) :
    ∃ names entries, server.store.catalog.Added server.entered.store.catalog names entries ∧
      standardLogger.written
          ((enterNamespaces server.store.catalog server.settings.namespaces).2 ++
            (enterAttributes (enterNamespaces server.store.catalog server.settings.namespaces).1
              server.settings.attributes.entries).2.2) =
        names.map createdEvent ++ entries.map registeredEvent := by
  obtain ⟨names, after, created, distinct, newNames⟩ :=
    written_enterNamespaces server.store.catalog server.settings.namespaces
  obtain ⟨entries, sub, registered, new, types⟩ :=
    written_enterAttributes (enterNamespaces server.store.catalog server.settings.namespaces).1
      server.settings.attributes.entries
  have namespaces := (entered_enter server.settings server.store.catalog).namespaces
  have sorted := List.Pairwise.sublist sub server.settings.attributes.sorted
  refine ⟨names, entries, ⟨?_, distinct, newNames, ?_, server.extends_entered.attributes⟩, ?_⟩
  · exact namespaces.trans (congrArg Catalog.namespaces after)
  · rw [congrArg Catalog.attributes after] at new types
    exact entries_eq_filter sorted new types
  · rw [Log.Logger.written, List.filter_append]
    exact congrArg₂ _ created registered

/-- The end of what a start reports: nothing if it failed, and else where the server listens,
whether it has no file, and how much its catalog holds. -/
def closing (effect : Effect) : List Log.Event :=
  match effect.result with
  | .error _ => []
  | .ok () => [event .info "Server started"
      [("address", .text effect.server.address.text),
        ("ephemeral", .flag effect.server.store.path.isNone),
        ("namespaces", .count effect.server.store.catalog.namespaces.length),
        ("search_attributes", .count effect.server.store.catalog.attributes.entries.length)]]

/-- A start that accounts for what it has added to the catalog of a server. -/
structure Accounts (server : Server) (effect : Effect) (names : List String)
    (entries : List Entry) : Prop where
  added : server.store.catalog.Added effect.server.store.catalog names entries
  logged : effect.logged = names.map createdEvent ++ entries.map registeredEvent ++ closing effect

theorem logged_start (free : server.address ∉ world.held) :
    (server.start world).logged =
      server.logger.written
        ((enterNamespaces server.store.catalog server.settings.namespaces).2 ++
          (enterAttributes (enterNamespaces server.store.catalog server.settings.namespaces).1
            server.settings.attributes.entries).2.2) ++
      server.logger.written (closing (server.start world)) := by
  simp only [start, if_neg free]
  split
  · simp [closing, Log.Logger.written]
  · split
    · simp [closing, Log.Logger.written]
    · rfl

theorem written_closing (effect : Effect) :
    standardLogger.written (closing effect) = closing effect := by
  unfold closing
  split
  · rfl
  · rw [written_cons_info, written_nil]

/-- A start enters the settings, unless the address is held. -/
theorem catalog_start (free : server.address ∉ world.held) :
    (server.start world).server.store.catalog = server.entered.store.catalog := by
  have starts := starts_start server world
  generalize server.start world = effect at starts ⊢
  cases starts with
  | bound held => exact absurd held free
  | _ => rfl

/-- A start that cannot bind the address has changed and reported nothing. -/
theorem start_of_bind {address : Network.SocketAddress}
    (failed : (server.start world).result = .error (.bind address)) :
    (server.start world).logged = [] := by
  have starts := starts_start server world
  by_cases held : server.address ∈ world.held
  · rw [start_of_held held]
  · generalize server.start world = effect at starts failed ⊢
    cases starts with
    | bound bound => exact absurd bound held
    | _ => simp at failed

theorem reports_start (standard : server.logger = standardLogger) (world : World) :
    ∃ names entries, Accounts server (server.start world) names entries := by
  by_cases held : server.address ∈ world.held
  · rw [start_of_held held]
    exact ⟨[], [], .refl _, rfl⟩
  · obtain ⟨names, entries, added, written⟩ := added_entered server
    refine ⟨names, entries, ?_, ?_⟩
    · rwa [catalog_start held]
    · rw [logged_start held, standard, written, written_closing]

section Events

variable {effect : Effect} (accounts : Accounts server effect names entries)

include accounts

theorem Accounts.mem_names {name : String} (told : createdEvent name ∈ effect.logged) :
    name ∈ names := by
  rw [accounts.logged, List.mem_append, List.mem_append] at told
  rcases told with (created | registered) | closed
  · obtain ⟨other, member, same⟩ := List.mem_map.mp created
    obtain rfl : other = name := by simpa [createdEvent, event] using same
    exact member
  · obtain ⟨_, _, same⟩ := List.mem_map.mp registered
    simp [createdEvent, registeredEvent, event] at same
  · unfold closing at closed
    split at closed <;> simp [createdEvent, event] at closed

theorem Accounts.mem_entries {entry : Entry} (told : registeredEvent entry ∈ effect.logged) :
    ∃ type, (entry.1, type) ∈ entries := by
  rw [accounts.logged, List.mem_append, List.mem_append] at told
  rcases told with (created | registered) | closed
  · obtain ⟨_, _, same⟩ := List.mem_map.mp created
    simp [createdEvent, registeredEvent, event] at same
  · obtain ⟨other, member, same⟩ := List.mem_map.mp registered
    obtain ⟨name, _⟩ : other.1 = entry.1 ∧ other.2.name = entry.2.name := by
      simpa [registeredEvent, event] using same
    exact ⟨other.2, name ▸ member⟩
  · unfold closing at closed
    split at closed <;> simp [registeredEvent, event] at closed

theorem Accounts.target {event : Log.Event} (told : event ∈ effect.logged) :
    event.target = logTarget := by
  rw [accounts.logged, List.mem_append, List.mem_append] at told
  rcases told with (created | registered) | closed
  · obtain ⟨_, _, rfl⟩ := List.mem_map.mp created
    rfl
  · obtain ⟨_, _, rfl⟩ := List.mem_map.mp registered
    rfl
  · unfold closing at closed
    split at closed
    · simp at closed
    · rw [List.mem_singleton.mp closed]
      rfl

end Events

/-- A server as it was, or later: with the same logger, and nothing lost from its catalog. -/
structure Continues (server later : Server) : Prop where
  logger : later.logger = server.logger
  grows : server.store.catalog.Extends later.store.catalog

theorem Continues.refl (server : Server) : Continues server server := ⟨rfl, .refl _⟩

theorem continues_start (server : Server) (world : World) :
    Continues server (server.start world).server := by
  have starts := starts_start server world
  generalize server.start world = effect at starts ⊢
  cases starts with
  | bound => exact .refl server
  | _ => exact ⟨rfl, server.extends_entered⟩

theorem continues_call (server : Server) (world : World) (call : Call) :
    Continues server (server.call world call).1 := by
  cases call with
  | start => exact continues_start server world
  | run =>
    have runs := runs_call server world
    generalize server.call world .run = after at runs ⊢
    cases runs <;> exact ⟨rfl, .refl _⟩
  | trigger => exact .refl server

theorem Course.continues {between : World → World → Prop}
    (course : Course between server opened later now) : Continues server later := by
  induction course with
  | begun => exact .refl server
  | @call earlier meanwhile _ call ih =>
    have next := continues_call earlier meanwhile call
    exact ⟨next.logger.trans ih.logger, ih.grows.trans next.grows⟩
  | meanwhile _ _ ih => exact ih

theorem logger_of_build (built : build none settings world = (.ok server, opened))
    (own : settings.logger = none) : server.logger = standardLogger := by
  cases builds_of_eq built with
  | built _ logs =>
    rw [loggerOf, own] at logs
    exact (Except.ok.inj logs).symm

/-- Every start of a server that was built without a logger and without a filter in the environment,
at any time in its life, reports under the server's target what it adds to the catalog: the new
namespaces in their order, then the new attributes in the order of their names, and at last, if it
succeeds, that the server has started, with what the catalog holds by then. Where the address cannot
be bound nothing is reported, and what one start has reported as new no later one does. -/
theorem start_reports_changes (built : build none settings world = (.ok server, opened))
    (own : settings.logger = none) {between : World → World → Prop}
    (course : Course between server opened later now) :
    let effect := later.start now
    (∃ names entries, Accounts later effect names entries) ∧
      (∀ event ∈ effect.logged, event.target = logTarget) ∧
      (∀ address, effect.result = .error (.bind address) → effect.logged = []) ∧
      ∀ last final, Course between effect.server effect.world last final →
        (∀ name, createdEvent name ∈ effect.logged →
          createdEvent name ∉ (last.start final).logged) ∧
        ∀ name type other, registeredEvent (name, type) ∈ effect.logged →
          registeredEvent (name, other) ∉ (last.start final).logged := by
  intro effect
  have standard : later.logger = standardLogger :=
    course.continues.logger.trans (logger_of_build built own)
  obtain ⟨names, entries, accounts⟩ := reports_start standard now
  refine ⟨⟨names, entries, accounts⟩, fun _ => accounts.target, fun _ => start_of_bind, ?_⟩
  intro last final rest
  have standardLast : last.logger = standardLogger :=
    (rest.continues.logger.trans (continues_start later now).logger).trans standard
  obtain ⟨lastNames, lastEntries, again⟩ := reports_start standardLast final
  constructor
  · intro name told toldAgain
    apply again.added.newNames name (again.mem_names toldAgain)
    apply rest.continues.grows.namespaces.subset
    rw [accounts.added.namespaces]
    exact List.mem_append_right _ (accounts.mem_names told)
  · intro name type other told toldAgain
    obtain ⟨type', member⟩ := accounts.mem_entries told
    obtain ⟨again', memberAgain⟩ := again.mem_entries toldAgain
    rw [accounts.added.entries] at member
    rw [again.added.entries] at memberAgain
    have held : effect.server.store.catalog.attributes.get? name = some type' :=
      Attribute.find?_eq_some_of_mem (Table.sorted _) (List.mem_filter.mp member).1
    have kept := rest.continues.grows.attributes name type' held
    have absent := (List.mem_filter.mp memberAgain).2
    simp [kept] at absent

/-- A database that holds an attribute with another type than the settings, and a second start. -/
theorem failed_start_reports_once :
    let held : Catalog := ⟨["old"], (∅ : Table).insert "Code" .int⟩
    let files := FileSystem.start.put [Octets.ofString "work", Octets.ofString "db"]
      (.file (Store.saved held))
    let settings : Settings := ⟨7233, "127.0.0.1", .file (.ofString "db"), ["new", "old", "new"],
      .ofEntries [("Zone", .text), ("Code", .keyword), ("Area", .bool)], none, none⟩
    let server : Server := ⟨settings, ⟨.four [127, 0, 0, 1], 7233⟩, ⟨some (.ofString "db"), held⟩,
      standardLogger, ⟨0⟩, false⟩
    let opened := (build none settings ⟨files, [], .none⟩).2
    let effect := server.start opened
    (build none settings ⟨files, [], .none⟩).1 = .ok server ∧
      effect.logged = [createdEvent "new", registeredEvent ("Area", .bool)] ∧
      (∃ names entries, Accounts server effect names entries) ∧
      createdEvent "new" ∉ (effect.server.start effect.world).logged ∧
      ∀ type, registeredEvent ("Area", type) ∉ (effect.server.start effect.world).logged := by
  intro held files settings server opened effect
  have ready : (build none settings ⟨files, [], .none⟩).1 = .ok server := by decide
  have built : build none settings ⟨files, [], .none⟩ = (.ok server, opened) := Prod.ext ready rfl
  have logged : effect.logged = [createdEvent "new", registeredEvent ("Area", .bool)] := by decide
  obtain ⟨accounts, _, _, once⟩ :=
    start_reports_changes built rfl (.begun : Course (fun _ _ => True) server opened server opened)
  obtain ⟨names, entries⟩ := once _ _ .begun
  have created : createdEvent "new" ∈ effect.logged := by rw [logged]; simp
  have registered : registeredEvent ("Area", .bool) ∈ effect.logged := by rw [logged]; simp
  exact ⟨ready, logged, accounts, names "new" created,
    fun type => entries "Area" .bool type registered⟩

end Server

end WorkflowLaunch
