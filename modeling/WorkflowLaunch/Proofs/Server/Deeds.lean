import WorkflowLaunch.Proofs.Server.Tenancy

set_option autoImplicit false

/-!
What is done with servers and their hooks, in any order, and what each deed does to the hooks. Hooks
that were triggered stay so, and a server keeps the hook that it was built with.
-/

namespace WorkflowLaunch

theorem World.triggered_trigger {world : World} {hook : Hook}
    (triggered : world.interrupts.isTriggered hook = true) (other : Hook) :
    (world.trigger other).interrupts.isTriggered hook = true := by
  simp [World.trigger, triggered]

namespace Server

variable {directives : Option String} {settings : Settings} {server : Server} {world after : World}

theorem interrupts_build_error {fault : ServerFault}
    (built : build directives settings world = (.error fault, after)) :
    after.interrupts = world.interrupts := by
  cases builds_of_eq built <;> rfl

theorem interrupts_build_ok (built : build directives settings world = (.ok server, after)) :
    hookOf settings world.interrupts = (server.interrupt, after.interrupts) := by
  cases builds_of_eq built
  rfl

theorem interrupts_start (server : Server) (world : World) :
    (server.start world).server.interrupt = server.interrupt ∧
      (server.start world).world.interrupts = world.interrupts := by
  have starts := starts_start server world
  generalize server.start world = effect at starts ⊢
  cases starts <;> exact ⟨rfl, rfl⟩

theorem run_eq_waiting_iff : server.run world = .waiting ↔
    server.listening = true ∧ world.interrupts.isTriggered server.interrupt = false := by
  simp only [run]
  cases server.listening <;> cases world.interrupts.isTriggered server.interrupt <;> simp

/-- A run that does not wait triggers nothing. -/
theorem interrupts_runUntilTriggered (ends : server.run world ≠ .waiting) :
    (server.runUntilTriggered world).2.world.interrupts = world.interrupts := by
  rw [ne_eq, run_eq_waiting_iff, not_and, Bool.not_eq_false] at ends
  cases listening : server.listening with
  | false => rw [runUntilTriggered_of_idle listening]
  | true =>
    rw [runUntilTriggered_of_triggered listening (ends listening), stop_world]
    rfl

/-- A run that ends well has waited exactly if its hook was not triggered before, and has seen it
triggered. -/
theorem runUntilTriggered_ok (ok : (server.runUntilTriggered world).2.result = .ok ()) :
    server.listening = true ∧
      (server.runUntilTriggered world).1 = !world.interrupts.isTriggered server.interrupt ∧
      (server.runUntilTriggered world).2.world.interrupts.isTriggered server.interrupt = true := by
  cases listening : server.listening with
  | false => simp [runUntilTriggered_of_idle listening] at ok
  | true =>
    cases triggered : world.interrupts.isTriggered server.interrupt with
    | false =>
      have waits := run_eq_waiting_iff.mpr ⟨listening, triggered⟩
      simp only [runUntilTriggered, waits, stop_world]
      exact ⟨trivial, rfl, by simp [World.release, World.trigger]⟩
    | true =>
      rw [runUntilTriggered_of_triggered listening triggered, stop_world]
      exact ⟨rfl, rfl, triggered⟩

end Server

namespace Fleet

/-- What is done with servers and named hooks. A server is built with the hook of a name or with one
of its own. -/
inductive Deed where
  | build (settings : Settings) (hook : Option String)
  | start (number : Nat)
  | run (number : Nat)
  | trigger (number : Nat)
  | drop (number : Nat)
  | interrupt (name : String)

def Deed.isBuild : Deed → Bool
  | build _ _ => true
  | _ => false

/-- A deed that neither builds nor triggers. -/
def Deed.leavesHooks : Deed → Answer → Bool
  | start _, _ | run _, _ | drop _, _ | trigger _, .noServer => true
  | _, _ => false

/-- A deed as a step, with the hook of its name. -/
def act (directives : Option String) (fleet : Fleet) : Deed → Reply × Fleet
  | .build settings none => fleet.step directives (.build { settings with interrupt := none })
  | .build settings (some name) =>
    let (hook, fleet) := fleet.hookNamed name
    fleet.step directives (.build { settings with interrupt := some hook })
  | .start number => fleet.step directives (.start number)
  | .run number => fleet.step directives (.run number)
  | .trigger number => fleet.step directives (.trigger number)
  | .drop number => fleet.step directives (.drop number)
  | .interrupt name =>
    let (hook, fleet) := fleet.hookNamed name
    fleet.step directives (.interrupt hook)

/-- A run of a server has nothing to do until its hook is triggered. -/
def Waits (fleet : Fleet) (number : Nat) : Prop :=
  ∃ server, fleet.server? number = some server ∧ server.run fleet.world = .waiting

abbrev Event := Deed × Answer

/-- Deeds on a fleet with their answers, the last one in front. A run counts when it ends, so that
whatever happens while it waits comes before it. Between the deeds, others may change everything but
the hooks. -/
inductive Story (directives : Option String) (first : Fleet) : List Event → Fleet → Prop where
  | begun : Story directives first [] first
  | deed {events : List Event} {fleet : Fleet} (story : Story directives first events fleet)
      (deed : Deed) (ends : ∀ number, deed = .run number → ¬fleet.Waits number) :
      Story directives first ((deed, (fleet.act directives deed).1.answer) :: events)
        (fleet.act directives deed).2
  | meanwhile {events : List Event} {fleet : Fleet} {world : World}
      (story : Story directives first events fleet)
      (same : world.interrupts = fleet.world.interrupts) :
      Story directives first events { fleet with world := world }

/-- The hook of a name, if the name was used. -/
def hook? (fleet : Fleet) (name : String) : Option Hook :=
  (fleet.hooks.find? (·.1 == name)).map (·.2)

variable {directives : Option String} {fleet after later : Fleet} {number : Nat} {server : Server}
  {hook : Hook}

/-- A fleet in which no hook has changed, and no server has come. -/
structure Kept (fleet after : Fleet) : Prop where
  hooks : after.hooks = fleet.hooks
  interrupts : after.world.interrupts = fleet.world.interrupts
  length : after.servers.length = fleet.servers.length
  servers : ∀ number server, after.server? number = some server →
    ∃ before, fleet.server? number = some before ∧ before.interrupt = server.interrupt

theorem Kept.refl (fleet : Fleet) : Kept fleet fleet :=
  ⟨rfl, rfl, rfl, fun _ server found => ⟨server, found, rfl⟩⟩

theorem Kept.hook? (kept : Kept fleet after) (name : String) :
    after.hook? name = fleet.hook? name := by
  rw [Fleet.hook?, Fleet.hook?, kept.hooks]

theorem hook?_cons (fleet : Fleet) (name other : String) (hook : Hook) (world : World) :
    Fleet.hook? { fleet with hooks := (name, hook) :: fleet.hooks, world := world } other =
      if name = other then some hook else fleet.hook? other := by
  by_cases same : name = other <;> simp [Fleet.hook?, same]

theorem server?_append {given : Option Server} (servers : after.servers = fleet.servers ++ [given])
    (number : Nat) :
    after.server? number =
      if number = fleet.servers.length then given else fleet.server? number := by
  rw [server?, servers, List.getElem?_append]
  split
  · next inside => rw [if_neg (by omega), server?]
  · next outside =>
    split
    · next here => simp [here]
    · next other =>
      rw [List.getElem?_eq_none (by simp; omega), server?, List.getElem?_eq_none (by omega)]

theorem server?_set {given : Option Server} (found : fleet.server? number = some server)
    (servers : after.servers = fleet.servers.set number given) (other : Nat) :
    after.server? other = if number = other then given else fleet.server? other := by
  rw [server?, servers, List.getElem?_set]
  split
  · simp [server?_lt found]
  · rfl

theorem kept_set {given : Option Server} (found : fleet.server? number = some server)
    (same : ∀ next, given = some next → next.interrupt = server.interrupt) (world : World)
    (interrupts : world.interrupts = fleet.world.interrupts) :
    Kept fleet { fleet with servers := fleet.servers.set number given, world := world } := by
  refine ⟨rfl, interrupts, by simp, ?_⟩
  intro other next held
  rw [server?_set found rfl] at held
  split at held
  · next here => exact ⟨server, here ▸ found, (same next held).symm⟩
  · exact ⟨next, held, rfl⟩

theorem hook?_hookNamed (fleet : Fleet) (name : String) :
    (fleet.hookNamed name).2.hook? name = some (fleet.hookNamed name).1 := by
  rw [hookNamed]
  split
  · next found => simp [hook?, found]
  · simp [hook?]

/-- A fleet in which the name that a deed uses has its hook. -/
def ready (fleet : Fleet) : Deed → Fleet
  | .build _ (some name) => (fleet.hookNamed name).2
  | .interrupt name => (fleet.hookNamed name).2
  | _ => fleet

/-- What comes of a build with the hook of a name, or without one: a server or none, and the hooks
after it. -/
inductive Built (fleet : Fleet) : Option String → Option Server → Interrupts → Prop where
  | failed {named : Option String} : Built fleet named none fleet.world.interrupts
  | shared {name : String} {server : Server} (named : fleet.hook? name = some server.interrupt) :
      Built fleet (some name) (some server) fleet.world.interrupts
  | alone {server : Server} (fresh : server.interrupt = fleet.world.interrupts.fresh.1) :
      Built fleet none (some server) fleet.world.interrupts.fresh.2

/-- What a deed does to the hooks, and with which answer. -/
inductive Turns (fleet : Fleet) : Deed → Answer → Fleet → Prop where
  | built {settings : Settings} {named : Option String} {given : Option Server} {answer : Answer}
      {after : Fleet} (servers : after.servers = fleet.servers ++ [given])
      (hooks : after.hooks = fleet.hooks)
      (built : Built fleet named given after.world.interrupts) :
      Turns fleet (.build settings named) answer after
  | kept {deed : Deed} {answer : Answer} {after : Fleet}
      (leaves : deed.leavesHooks answer = true) (kept : Kept fleet after) :
      Turns fleet deed answer after
  | pulled {number : Nat} {server : Server} (found : fleet.server? number = some server) :
      Turns fleet (.trigger number) .done
        { fleet with world := fleet.world.trigger server.interrupt }
  | named {name : String} {hook : Hook} (known : fleet.hook? name = some hook) :
      Turns fleet (.interrupt name) .done { fleet with world := fleet.world.trigger hook }

theorem turns_build (settings : Settings) (named : Option String) (hook : Option Hook)
    (chosen : hook = named.bind fleet.hook?) (known : named.isSome = hook.isSome) :
    Turns fleet (.build settings named)
      (fleet.step directives (.build { settings with interrupt := hook })).1.answer
      (fleet.step directives (.build { settings with interrupt := hook })).2 := by
  simp only [step]
  rcases built : Server.build directives { settings with interrupt := hook } fleet.world with
    ⟨_ | server, world⟩
  · refine .built rfl rfl ?_
    rw [Server.interrupts_build_error built]
    exact .failed
  · refine .built rfl rfl ?_
    have chooses := Server.interrupts_build_ok built
    cases named with
    | none =>
      obtain rfl : hook = none := by simpa using known
      obtain ⟨own, after⟩ := Prod.mk.inj chooses
      rw [← after]
      exact .alone own.symm
    | some name =>
      obtain ⟨shared, rfl⟩ := Option.isSome_iff_exists.mp known.symm
      obtain ⟨own, after⟩ := Prod.mk.inj chooses
      rw [← after]
      exact .shared (by rw [← own]; exact chosen.symm)

/-- A deed turns the hooks, if it is not a run that waits. -/
theorem turns_act (deed : Deed) (ends : ∀ number, deed = .run number → ¬fleet.Waits number) :
    Turns (fleet.ready deed) deed (fleet.act directives deed).1.answer
      (fleet.act directives deed).2 := by
  cases deed with
  | build settings named =>
    cases named with
    | none => exact turns_build settings none none rfl rfl
    | some name =>
      have known := fleet.hook?_hookNamed name
      exact turns_build settings (some name) _ known.symm rfl
  | start number =>
    simp only [act, step]
    cases found : fleet.server? number with
    | none => exact .kept rfl (Kept.refl fleet)
    | some server =>
      obtain ⟨same, interrupts⟩ := Server.interrupts_start server fleet.world
      refine .kept rfl (kept_set found ?_ _ interrupts)
      rintro next ⟨rfl⟩
      exact same
  | run number =>
    simp only [act, step]
    cases found : fleet.server? number with
    | none => exact .kept rfl (Kept.refl fleet)
    | some server =>
      have ended : server.run fleet.world ≠ .waiting := fun waits =>
        ends number rfl ⟨server, found, waits⟩
      have interrupts := Server.interrupts_runUntilTriggered ended
      refine .kept rfl (kept_set found ?_ _ interrupts)
      rintro next ⟨rfl⟩
      rw [Server.runUntilTriggered_server]
  | trigger number =>
    simp only [act, step]
    cases found : fleet.server? number with
    | none => exact .kept rfl (Kept.refl fleet)
    | some server => exact .pulled found
  | drop number =>
    simp only [act, step]
    cases found : fleet.server? number with
    | none => exact .kept rfl (Kept.refl fleet)
    | some server =>
      refine .kept rfl (kept_set found (by simp) _ ?_)
      simp only [Server.drop]
      split <;> rfl
  | interrupt name => exact .named (fleet.hook?_hookNamed name)

theorem hookNamed_same (fleet : Fleet) (name : String) :
    (fleet.hookNamed name).2.servers = fleet.servers ∧
      (fleet.hookNamed name).2.world.interrupts.isTriggered =
        fleet.world.interrupts.isTriggered := by
  rw [hookNamed]
  split <;> exact ⟨rfl, rfl⟩

theorem ready_same (fleet : Fleet) (deed : Deed) :
    (fleet.ready deed).servers = fleet.servers ∧
      (fleet.ready deed).world.interrupts.isTriggered =
        fleet.world.interrupts.isTriggered := by
  rw [ready.eq_def]
  split
  · exact hookNamed_same fleet _
  · exact hookNamed_same fleet _
  · exact ⟨rfl, rfl⟩

theorem Turns.triggered {deed : Deed} {answer : Answer} (turns : Turns fleet deed answer after)
    (triggered : fleet.world.interrupts.isTriggered hook = true) :
    after.world.interrupts.isTriggered hook = true := by
  cases turns with
  | built _ _ built =>
    generalize after.world.interrupts = interrupts at built ⊢
    cases built <;> exact triggered
  | kept _ kept => rwa [kept.interrupts]
  | pulled => exact World.triggered_trigger triggered _
  | named => exact World.triggered_trigger triggered _

/-- A server that is there, and whose number was given before, was there with the same hook. -/
theorem Turns.earlier {deed : Deed} {answer : Answer} {next : Server}
    (turns : Turns fleet deed answer after) (inside : number < fleet.servers.length)
    (still : after.server? number = some next) :
    ∃ before, fleet.server? number = some before ∧ before.interrupt = next.interrupt := by
  cases turns with
  | built servers =>
    rw [server?_append servers, if_neg (by omega)] at still
    exact ⟨next, still, rfl⟩
  | kept _ kept => exact kept.servers number next still
  | pulled => exact ⟨next, still, rfl⟩
  | named => exact ⟨next, still, rfl⟩

theorem Turns.length_le {deed : Deed} {answer : Answer} (turns : Turns fleet deed answer after) :
    fleet.servers.length ≤ after.servers.length := by
  cases turns with
  | built servers => simp [servers]
  | kept _ kept => exact kept.length.ge
  | pulled => exact Nat.le_refl _
  | named => exact Nat.le_refl _

/-- No deed takes back a trigger. -/
theorem Story.triggered {events : List Event} (story : Story directives fleet events later)
    (triggered : fleet.world.interrupts.isTriggered hook = true) :
    later.world.interrupts.isTriggered hook = true := by
  induction story with
  | begun => exact triggered
  | deed story deed ends ih =>
    apply (turns_act deed ends).triggered
    rwa [(ready_same _ deed).2]
  | meanwhile story same ih => rwa [same]

theorem Story.length_le {events : List Event} (story : Story directives fleet events later) :
    fleet.servers.length ≤ later.servers.length := by
  induction story with
  | begun => exact Nat.le_refl _
  | @deed _ now story deed ends ih =>
    have turns : Turns _ _ _ (now.act directives deed).2 := turns_act deed ends
    have grows := turns.length_le
    rw [(ready_same now deed).1] at grows
    exact ih.trans grows
  | meanwhile _ _ ih => exact ih

/-- A server keeps its hook for as long as it is there. -/
theorem Story.interrupt {events : List Event} {next : Server}
    (story : Story directives fleet events later) (found : fleet.server? number = some server)
    (still : later.server? number = some next) : next.interrupt = server.interrupt := by
  induction story generalizing next with
  | begun => rw [Option.some.inj (found.symm.trans still)]
  | @deed _ now story deed ends ih =>
    have servers := (ready_same now deed).1
    have inside : number < (now.ready deed).servers.length := by
      rw [servers]
      exact (server?_lt found).trans_le story.length_le
    obtain ⟨before, there, same⟩ := (turns_act deed ends).earlier inside still
    rw [server?, servers] at there
    rw [← same, ih there]
  | meanwhile _ _ ih => exact ih still

/-- The answer of a run that had not to wait, by what its flush returned. -/
def Answer.ofFlush : Except StoreFault Unit → Answer
  | .ok () => .stopped false
  | .error fault => .failed (.store fault)

/-- A run of a server whose hook is triggered gives up the address and flushes the catalog. -/
theorem triggered_run (found : fleet.server? number = some server)
    (listening : server.listening = true)
    (triggered : fleet.world.interrupts.isTriggered server.interrupt = true) :
    (fleet.act directives (.run number)).1.answer =
        .ofFlush (server.store.flush fleet.world.files).1 ∧
      (fleet.act directives (.run number)).2.world =
        { fleet.world.release server.address with
          files := (server.store.flush fleet.world.files).2 } ∧
      (fleet.act directives (.run number)).2.server? number =
        some { server with listening := false } := by
  simp only [act, step, found, Server.runUntilTriggered_of_triggered listening triggered]
  refine ⟨?_, ?_, ?_⟩
  · rw [Server.stop_result]
    cases (server.store.flush fleet.world.files).1 <;> rfl
  · exact Server.stop_world server fleet.world
  · rw [server?_settle found, Server.stop_server]

theorem stopped_run {waited : Bool} (found : fleet.server? number = some server)
    (stopped : (fleet.act directives (.run number)).1.answer = .stopped waited) :
    server.listening = true ∧
      waited = !fleet.world.interrupts.isTriggered server.interrupt ∧
      (fleet.act directives (.run number)).2.world.interrupts.isTriggered server.interrupt =
        true := by
  simp only [act, step, found] at stopped ⊢
  split at stopped
  · next ended =>
    obtain ⟨listening, waits, triggered⟩ := Server.runUntilTriggered_ok ended
    exact ⟨listening, (Answer.stopped.inj stopped).symm.trans waits, triggered⟩
  · simp at stopped

theorem waits_iff (found : fleet.server? number = some server) : fleet.Waits number ↔
    server.listening = true ∧ fleet.world.interrupts.isTriggered server.interrupt = false := by
  simp [Waits, found, Server.run_eq_waiting_iff]

end Fleet

end WorkflowLaunch
