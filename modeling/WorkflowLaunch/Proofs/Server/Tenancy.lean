import WorkflowLaunch.Proofs.Server.Course
import WorkflowLaunch.Server.Fleet

set_option autoImplicit false

/-!
Who listens on which address, while several servers are built, started, run and dropped in any
order. A run counts at the moment when it ends: while it waits it changes nothing, and no other step
is possible on its server.
-/

namespace WorkflowLaunch

open Network (SocketAddress)

namespace Server

variable {directives : Option String} {settings : Settings} {server : Server} {world after : World}

theorem held_build {result : Except ServerFault Server}
    (built : build directives settings world = (result, after)) : after.held = world.held := by
  cases builds_of_eq built <;> rfl

theorem listening_build (built : build directives settings world = (.ok server, after)) :
    server.listening = false := by
  cases builds_of_eq built
  rfl

theorem runUntilTriggered_of_idle (idle : server.listening = false) :
    server.runUntilTriggered world = (false, ⟨.error .notStarted, server, world, []⟩) := by
  simp [runUntilTriggered, run, idle]

theorem runUntilTriggered_of_triggered (listening : server.listening = true)
    (triggered : world.interrupts.isTriggered server.interrupt = true) :
    server.runUntilTriggered world = (false, server.stop world) := by
  simp only [runUntilTriggered, run, if_pos listening, if_pos triggered]

/-- A run of a server that listens stops it, once the hook is triggered. -/
theorem runUntilTriggered_of_listening (world : World) (listening : server.listening = true) :
    ∃ now : World, now.held = world.held ∧ now.files = world.files ∧
      (server.runUntilTriggered world).2 = server.stop now := by
  by_cases triggered : world.interrupts.isTriggered server.interrupt = true
  · exact ⟨world, rfl, rfl, congrArg Prod.snd (runUntilTriggered_of_triggered listening triggered)⟩
  · refine ⟨world.trigger server.interrupt, rfl, rfl, ?_⟩
    simp only [runUntilTriggered, run, if_pos listening, if_neg triggered]

/-- After a run the server listens no longer, however the run has ended. -/
theorem runUntilTriggered_server :
    (server.runUntilTriggered world).2.server = { server with listening := false } := by
  cases listening : server.listening with
  | false => rw [runUntilTriggered_of_idle listening, ← listening]
  | true =>
    obtain ⟨now, _, _, stops⟩ := runUntilTriggered_of_listening world listening
    rw [stops, stop_server]

theorem runUntilTriggered_held :
    (server.runUntilTriggered world).2.world.held =
      if server.listening then world.held.erase server.address else world.held := by
  cases listening : server.listening with
  | false =>
    rw [runUntilTriggered_of_idle listening]
    rfl
  | true =>
    obtain ⟨now, held, _, stops⟩ := runUntilTriggered_of_listening world listening
    rw [stops, stop_world, ← held]
    rfl

theorem stop_ne_notStarted (server : Server) (world : World) :
    (server.stop world).result ≠ .error .notStarted := by
  simp only [stop]
  split <;> simp

end Server

namespace Fleet

/-- A server listens on an address. -/
def Holds (fleet : Fleet) (number : Nat) (address : SocketAddress) : Prop :=
  ∃ server, fleet.server? number = some server ∧ server.listening = true ∧ server.address = address

/-- What a step and its answer say of a server: a start that succeeded has begun its time as a
holder, and a run or a drop has ended it. -/
def mark? (number : Nat) : Step × Answer → Option Bool
  | (.start server, .ready _) => if server = number then some true else none
  | (.run server, _) => if server = number then some false else none
  | (.drop server, _) => if server = number then some false else none
  | _ => none

/-- Whether a server was started and neither run nor dropped since, the last step in front. -/
def started (number : Nat) (events : List (Step × Answer)) : Bool :=
  (events.findSome? (mark? number)).getD false

/-- Steps on a fleet, the last one in front. Between them, others may change everything but who
holds an address. -/
inductive Past (directives : Option String) (first : Fleet) :
    List (Step × Answer) → Fleet → Prop where
  | begun : Past directives first [] first
  | step {events : List (Step × Answer)} {fleet : Fleet}
      (past : Past directives first events fleet) (step : Step) :
      Past directives first ((step, (fleet.step directives step).1.answer) :: events)
        (fleet.step directives step).2
  | meanwhile {events : List (Step × Answer)} {fleet : Fleet} {world : World}
      (past : Past directives first events fleet) (held : world.held = fleet.world.held) :
      Past directives first events { fleet with world := world }

/-- Every address is held once, by one of the others or by the one server that listens on it. -/
structure Tenancy (others : List SocketAddress) (fleet : Fleet) : Prop where
  once : fleet.world.held.Nodup
  holders : ∀ address, address ∈ fleet.world.held ↔
    address ∈ others ∨ ∃ number, fleet.Holds number address
  unique : ∀ number other address, fleet.Holds number address → fleet.Holds other address →
    number = other
  apart : ∀ number address, fleet.Holds number address → address ∉ others

/-- What a step does to the holders: nothing, or a server has begun or ended to hold an address. -/
inductive Shifts (fleet : Fleet) (event : Step × Answer) (after : Fleet) : Prop where
  | same (marks : ∀ number, mark? number event = none ∨
        mark? number event = some false ∧ ∀ address, ¬fleet.Holds number address)
      (holders : ∀ number address, after.Holds number address ↔ fleet.Holds number address)
      (held : after.world.held = fleet.world.held)
  | begun {server : Nat} {address : SocketAddress}
      (marks : ∀ number, mark? number event = if server = number then some true else none)
      (free : address ∉ fleet.world.held)
      (holders : ∀ number other, after.Holds number other ↔
        fleet.Holds number other ∨ number = server ∧ other = address)
      (held : after.world.held = address :: fleet.world.held)
  | ended {server : Nat} {address : SocketAddress}
      (marks : ∀ number, mark? number event = if server = number then some false else none)
      (holder : fleet.Holds server address)
      (holders : ∀ number other, after.Holds number other ↔
        fleet.Holds number other ∧ number ≠ server)
      (held : after.world.held = fleet.world.held.erase address)

variable {directives : Option String} {first fleet after : Fleet} {events : List (Step × Answer)}
  {others : List SocketAddress} {number other : Nat} {server : Server} {given : Option Server}
  {address : SocketAddress}

theorem server?_lt (found : fleet.server? number = some server) :
    number < fleet.servers.length := by
  by_contra outside
  rw [server?, List.getElem?_eq_none (by omega)] at found
  simp at found

/-- The holders after one server was replaced, or given up. -/
theorem holds_set (found : fleet.server? number = some server)
    (servers : after.servers = fleet.servers.set number given) :
    after.Holds other address ↔
      if number = other then
        ∃ next, given = some next ∧ next.listening = true ∧ next.address = address
      else fleet.Holds other address := by
  have inside := server?_lt found
  rw [Holds, server?, servers, List.getElem?_set]
  by_cases same : number = other
  · subst same
    simp [inside]
  · simp only [if_neg same]
    rfl

/-- The holders stay the same if a server is replaced by one that listens alike. -/
theorem holds_replaced {next : Server} (found : fleet.server? number = some server)
    (servers : after.servers = fleet.servers.set number (some next))
    (listening : next.listening = server.listening) (same : next.address = server.address) :
    after.Holds other address ↔ fleet.Holds other address := by
  rw [holds_set found servers]
  by_cases here : number = other
  · subst here
    simp [Holds, found, listening, same]
  · rw [if_neg here]

/-- A server that was built does not listen yet. -/
theorem holds_append (servers : after.servers = fleet.servers ++ [given])
    (idle : ∀ next, given = some next → next.listening = false) :
    after.Holds number address ↔ fleet.Holds number address := by
  constructor
  · rintro ⟨next, found, listening, rfl⟩
    rw [server?, servers, List.getElem?_append] at found
    split at found
    · exact ⟨next, found, listening, rfl⟩
    · cases place : number - fleet.servers.length with
      | zero =>
        have built : given = some next := by simpa [place] using found
        simp [idle next built] at listening
      | succ => simp [place] at found
  · rintro ⟨next, found, listening, rfl⟩
    have inside := server?_lt found
    refine ⟨next, ?_, listening, rfl⟩
    rw [server?, servers, List.getElem?_append_left inside]
    exact found

theorem shifts_build (settings : Settings) :
    Shifts fleet (.build settings, (fleet.step directives (.build settings)).1.answer)
      (fleet.step directives (.build settings)).2 := by
  simp only [step]
  rcases built : Server.build directives settings fleet.world with ⟨_ | server, world⟩
  · refine .same (fun _ => .inl rfl) ?_ (Server.held_build built)
    intro number address
    exact holds_append rfl (by simp)
  · refine .same (fun _ => .inl rfl) ?_ (Server.held_build built)
    intro number address
    apply holds_append rfl
    intro next same
    obtain rfl := Option.some.inj same
    exact Server.listening_build built

theorem shifts_start (found : fleet.server? number = some server) :
    Shifts fleet (.start number, (fleet.step directives (.start number)).1.answer)
      (fleet.step directives (.start number)).2 := by
  simp only [step, found]
  have starts := Server.starts_start server fleet.world
  generalize server.start fleet.world = effect at starts ⊢
  cases starts with
  | bound =>
    exact .same (fun _ => .inl rfl) (fun _ _ => holds_replaced found rfl rfl rfl) rfl
  | conflict =>
    exact .same (fun _ => .inl rfl) (fun _ _ => holds_replaced found rfl rfl rfl) rfl
  | unwritten =>
    exact .same (fun _ => .inl rfl) (fun _ _ => holds_replaced found rfl rfl rfl) rfl
  | started free =>
    refine .begun (fun _ => rfl) free ?_ rfl
    intro other address
    rw [holds_set found rfl]
    by_cases here : number = other
    · subst here
      rw [if_pos rfl]
      constructor
      · rintro ⟨next, same, _, rfl⟩
        obtain rfl := Option.some.inj same
        exact .inr ⟨rfl, rfl⟩
      · rintro (⟨next, same, _, rfl⟩ | ⟨_, rfl⟩)
        · obtain rfl := Option.some.inj (found.symm.trans same)
          exact ⟨_, rfl, rfl, rfl⟩
        · exact ⟨_, rfl, rfl, rfl⟩
    · simp [here, Ne.symm here]

/-- A step that ends a server's time as a holder. The server listens no longer, and its address is
free if it did. -/
theorem shifts_ended {step : Step} {answer : Answer} (found : fleet.server? number = some server)
    (marks : ∀ other, mark? other (step, answer) = if number = other then some false else none)
    (servers : after.servers = fleet.servers.set number given)
    (idle : ∀ next, given = some next → next.listening = false)
    (held : after.world.held = if server.listening then fleet.world.held.erase server.address
      else fleet.world.held) : Shifts fleet (step, answer) after := by
  have holders : ∀ other address, after.Holds other address ↔
      fleet.Holds other address ∧ other ≠ number := by
    intro other address
    rw [holds_set found servers]
    by_cases here : number = other
    · subst here
      simp only [if_true, ne_eq, not_true, and_false, iff_false]
      rintro ⟨next, rfl, listening, _⟩
      simp [idle next rfl] at listening
    · simp [here, Ne.symm here]
  cases listening : server.listening with
  | false =>
    rw [listening] at held
    have absent : ∀ address, ¬fleet.Holds number address := by
      rintro address ⟨next, same, serving, _⟩
      obtain rfl := Option.some.inj (found.symm.trans same)
      simp [listening] at serving
    refine .same ?_ ?_ held
    · intro other
      by_cases here : number = other
      · subst here
        exact .inr ⟨by simp [marks], absent⟩
      · exact .inl (by simp [marks, here])
    · intro other address
      rw [holders]
      constructor
      · exact And.left
      · intro holds
        refine ⟨holds, ?_⟩
        rintro rfl
        exact absent address holds
  | true =>
    rw [listening] at held
    exact .ended marks ⟨server, found, listening, rfl⟩ holders held

theorem step_run (found : fleet.server? number = some server) :
    (fleet.step directives (.run number)).2 =
      fleet.settle number (server.runUntilTriggered fleet.world).2 := by
  simp only [step, found]

theorem shifts_run (found : fleet.server? number = some server) :
    Shifts fleet (.run number, (fleet.step directives (.run number)).1.answer)
      (fleet.step directives (.run number)).2 := by
  have servers : (fleet.step directives (.run number)).2.servers =
      fleet.servers.set number (some { server with listening := false }) := by
    rw [step_run found, settle, Server.runUntilTriggered_server]
  apply shifts_ended found (fun _ => rfl) servers
  · intro next same
    obtain rfl := Option.some.inj same
    rfl
  · rw [step_run found]
    exact Server.runUntilTriggered_held

theorem shifts_drop (found : fleet.server? number = some server) :
    Shifts fleet (.drop number, (fleet.step directives (.drop number)).1.answer)
      (fleet.step directives (.drop number)).2 := by
  have after : (fleet.step directives (.drop number)).2 =
      { fleet with
        servers := fleet.servers.set number none, world := server.drop fleet.world } := by
    simp only [step, found]
  rw [after]
  apply shifts_ended found (fun _ => rfl) rfl (by simp)
  simp only [Server.drop]
  split <;> rfl

/-- A step that finds no server changes nothing. -/
theorem shifts_absent {event : Step × Answer} (absent : fleet.server? number = none)
    (marks : ∀ other, mark? other event = none ∨
      number = other ∧ mark? other event = some false) : Shifts fleet event fleet := by
  refine .same ?_ (fun _ _ => .rfl) rfl
  intro other
  rcases marks other with silent | ⟨rfl, ended⟩
  · exact .inl silent
  · refine .inr ⟨ended, ?_⟩
    rintro address ⟨next, found, _⟩
    simp [absent] at found

theorem shifts_step (directives : Option String) (fleet : Fleet) (step : Step) :
    Shifts fleet (step, (fleet.step directives step).1.answer) (fleet.step directives step).2 := by
  cases step with
  | build settings => exact shifts_build settings
  | start number =>
    cases found : fleet.server? number with
    | none =>
      simp only [Fleet.step, found]
      exact shifts_absent found fun _ => .inl rfl
    | some server => exact shifts_start found
  | run number =>
    cases found : fleet.server? number with
    | none =>
      simp only [Fleet.step, found]
      apply shifts_absent found
      intro other
      by_cases here : number = other <;> simp [mark?, here]
    | some server => exact shifts_run found
  | trigger number =>
    cases found : fleet.server? number with
    | none =>
      simp only [Fleet.step, found]
      exact shifts_absent found fun _ => .inl rfl
    | some server =>
      simp only [Fleet.step, found]
      exact .same (fun _ => .inl rfl) (fun _ _ => .rfl) rfl
  | drop number =>
    cases found : fleet.server? number with
    | none =>
      simp only [Fleet.step, found]
      apply shifts_absent found
      intro other
      by_cases here : number = other <;> simp [mark?, here]
    | some server => exact shifts_drop found
  | interrupt hook => exact .same (fun _ => .inl rfl) (fun _ _ => .rfl) rfl

theorem Tenancy.of_same (tenancy : Tenancy others fleet)
    (holders : ∀ number address, after.Holds number address ↔ fleet.Holds number address)
    (held : after.world.held = fleet.world.held) : Tenancy others after := by
  obtain ⟨once, known, unique, apart⟩ := tenancy
  constructor
  · rwa [held]
  · simpa only [held, holders] using known
  · simpa only [holders] using unique
  · simpa only [holders] using apart

theorem Tenancy.begun (tenancy : Tenancy others fleet) (free : address ∉ fleet.world.held)
    (holders : ∀ server other, after.Holds server other ↔
      fleet.Holds server other ∨ server = number ∧ other = address)
    (held : after.world.held = address :: fleet.world.held) : Tenancy others after := by
  obtain ⟨once, known, unique, apart⟩ := tenancy
  rw [known] at free
  obtain ⟨outside, unheld⟩ := not_or.mp free
  have nobody : ∀ server, ¬fleet.Holds server address := not_exists.mp unheld
  constructor
  · rw [held, List.nodup_cons, known]
    exact ⟨free, once⟩
  · intro other
    rw [held, List.mem_cons, known]
    simp only [holders]
    constructor
    · rintro (rfl | member | ⟨server, holds⟩)
      · exact .inr ⟨number, .inr ⟨rfl, rfl⟩⟩
      · exact .inl member
      · exact .inr ⟨server, .inl holds⟩
    · rintro (member | ⟨server, holds | ⟨_, rfl⟩⟩)
      · exact .inr (.inl member)
      · exact .inr (.inr ⟨server, holds⟩)
      · exact .inl rfl
  · intro server second other
    rw [holders, holders]
    rintro (first | ⟨rfl, rfl⟩) (last | ⟨rfl, same⟩)
    · exact unique _ _ _ first last
    · subst same
      exact absurd first (nobody server)
    · exact absurd last (nobody second)
    · rfl
  · intro server other
    rw [holders]
    rintro (holds | ⟨_, rfl⟩)
    · exact apart _ _ holds
    · exact outside

theorem Tenancy.ended (tenancy : Tenancy others fleet) (holder : fleet.Holds number address)
    (holders : ∀ server other, after.Holds server other ↔
      fleet.Holds server other ∧ server ≠ number)
    (held : after.world.held = fleet.world.held.erase address) : Tenancy others after := by
  obtain ⟨once, known, unique, apart⟩ := tenancy
  constructor
  · rw [held]
    exact once.erase address
  · intro other
    rw [held, once.mem_erase_iff, known]
    simp only [holders]
    constructor
    · rintro ⟨different, member | ⟨server, holds⟩⟩
      · exact .inl member
      · refine .inr ⟨server, holds, ?_⟩
        rintro rfl
        obtain ⟨next, found, _, rfl⟩ := holder
        obtain ⟨same, again, _, rfl⟩ := holds
        obtain rfl := Option.some.inj (found.symm.trans again)
        exact different rfl
    · rintro (member | ⟨server, holds, different⟩)
      · refine ⟨?_, .inl member⟩
        rintro rfl
        exact apart _ _ holder member
      · refine ⟨?_, .inr ⟨server, holds⟩⟩
        rintro rfl
        exact different (unique _ _ _ holds holder)
  · intro server second other
    rw [holders, holders]
    rintro ⟨first, _⟩ ⟨last, _⟩
    exact unique _ _ _ first last
  · intro server other
    rw [holders]
    rintro ⟨holds, _⟩
    exact apart _ _ holds

theorem Tenancy.shifts {event : Step × Answer} (tenancy : Tenancy others fleet)
    (shifts : Shifts fleet event after) : Tenancy others after := by
  cases shifts with
  | same _ holders held => exact tenancy.of_same holders held
  | begun _ free holders held => exact tenancy.begun free holders held
  | ended _ holder holders held => exact tenancy.ended holder holders held

theorem started_cons (number : Nat) (event : Step × Answer) (events : List (Step × Answer)) :
    started number (event :: events) = (mark? number event).getD (started number events) := by
  rw [started, List.findSome?_cons]
  cases mark? number event <;> rfl

/-- The marks follow the holders from step to step. -/
theorem Shifts.started {event : Step × Answer} (shifts : Shifts fleet event after)
    (follows : (∃ address, fleet.Holds number address) ↔ started number events = true) :
    (∃ address, after.Holds number address) ↔ started number (event :: events) = true := by
  rw [started_cons]
  cases shifts with
  | same marks holders =>
    simp only [holders]
    rcases marks number with silent | ⟨ended, nothing⟩
    · rwa [silent]
    · simp [ended, nothing]
  | @begun server address marks _ holders =>
    simp only [holders]
    by_cases here : server = number
    · subst here
      simp only [marks, if_true, Option.getD_some, iff_true]
      exact ⟨address, .inr ⟨trivial, rfl⟩⟩
    · simpa [marks, here, Ne.symm here] using follows
  | @ended server address marks _ holders =>
    simp only [holders]
    by_cases here : server = number
    · simp [marks, here]
    · simpa [marks, here, Ne.symm here] using follows

/-- What holds at every moment in the past of a fleet. -/
theorem Past.tenancy (past : Past directives first events fleet) (none : first.servers = [])
    (once : first.world.held.Nodup) :
    Tenancy first.world.held fleet ∧
      ∀ number, (∃ address, fleet.Holds number address) ↔ started number events = true := by
  induction past with
  | begun =>
    have nobody : ∀ number address, ¬first.Holds number address := by
      rintro number address ⟨next, found, _⟩
      simp [server?, none] at found
    refine ⟨⟨once, ?_, ?_, ?_⟩, ?_⟩
    · simp [nobody]
    · intro number other address holds
      exact absurd holds (nobody number address)
    · intro number address holds
      exact absurd holds (nobody number address)
    · simp [nobody, started]
  | @step _ fleet past step ih =>
    obtain ⟨tenancy, follows⟩ := ih
    have shifts := shifts_step directives fleet step
    exact ⟨tenancy.shifts shifts, fun number => shifts.started (follows number)⟩
  | meanwhile past held ih =>
    obtain ⟨tenancy, follows⟩ := ih
    exact ⟨tenancy.of_same (fun _ _ => .rfl) held, follows⟩

theorem server?_settle (found : fleet.server? number = some server) (effect : Server.Effect) :
    (fleet.settle number effect).server? number = some effect.server := by
  have inside := server?_lt found
  simp [server?, settle, inside]

theorem settle_same {effect : Server.Effect} (found : fleet.server? number = some server)
    (same : effect.server = server) (unchanged : effect.world = fleet.world) :
    fleet.settle number effect = fleet := by
  have held : fleet.servers[number]? = some (some server) := by
    rw [server?, Option.join_eq_some_iff] at found
    exact found
  have servers : fleet.servers.set number (some server) = fleet.servers := by
    obtain ⟨inside, here⟩ := List.getElem?_eq_some_iff.mp held
    rw [← here, List.set_getElem_self]
  rw [settle, same, unchanged, servers]

/-- How a server answers a start, whatever happened before. -/
structure Starts (directives : Option String) (fleet : Fleet) (number : Nat) (server : Server) :
    Prop where
  bound : (∃ address, (fleet.step directives (.start number)).1.answer =
    .failed (.bind address)) ↔ server.address ∈ fleet.world.held
  unchanged : server.address ∈ fleet.world.held →
    fleet.step directives (.start number) = (⟨.failed (.bind server.address), []⟩, fleet)
  released : ∀ fault, (fleet.step directives (.start number)).1.answer = .failed fault →
    (fleet.step directives (.start number)).2.world.held = fleet.world.held

/-- How a server answers a run, from the steps before. -/
structure Runs (directives : Option String) (fleet : Fleet) (number : Nat) (server : Server)
    (begun : Bool) : Prop where
  idle : (fleet.step directives (.run number)).1.answer = .failed .notStarted ↔ begun = false
  unchanged : begun = false →
    fleet.step directives (.run number) = (⟨.failed .notStarted, []⟩, fleet)
  ended : begun = true →
    (fleet.step directives (.run number)).2.server? number =
        some { server with listening := false } ∧
      (fleet.step directives (.run number)).2.world.held = fleet.world.held.erase server.address

theorem starts_of_server (found : fleet.server? number = some server) :
    Starts directives fleet number server := by
  have starts := Server.starts_start server fleet.world
  have bound : server.address ∈ fleet.world.held →
      fleet.step directives (.start number) =
        (⟨.failed (.bind server.address), []⟩, fleet) := by
    intro held
    have effect : server.start fleet.world =
        ⟨.error (.bind server.address), server, fleet.world, []⟩ := by
      rw [Server.start, if_pos held]
    simp only [step, found, effect, settle_same found]
    rfl
  refine ⟨?_, bound, ?_⟩
  · constructor
    · rintro ⟨address, answer⟩
      by_contra free
      simp only [step, found] at answer
      generalize server.start fleet.world = effect at starts answer
      cases starts with
      | bound held => exact free held
      | conflict => simp at answer
      | unwritten => simp at answer
      | started => simp at answer
    · intro held
      exact ⟨server.address, by rw [bound held]⟩
  · intro fault answer
    simp only [step, found] at answer ⊢
    generalize server.start fleet.world = effect at starts answer ⊢
    cases starts with
    | bound => rfl
    | conflict => rfl
    | unwritten => rfl
    | started => simp at answer

theorem runs_of_server {begun : Bool} (found : fleet.server? number = some server)
    (listening : server.listening = begun) : Runs directives fleet number server begun := by
  have idle : begun = false →
      fleet.step directives (.run number) = (⟨.failed .notStarted, []⟩, fleet) := by
    rintro rfl
    simp only [step, found, Server.runUntilTriggered_of_idle listening, settle_same found]
    rfl
  refine ⟨?_, idle, ?_⟩
  · constructor
    · intro answer
      by_contra begun
      rw [Bool.not_eq_false] at begun
      obtain ⟨now, _, _, stops⟩ :=
        Server.runUntilTriggered_of_listening fleet.world (listening.trans begun)
      have other := Server.stop_ne_notStarted server now
      simp only [step, found, stops] at answer
      split at answer
      · simp at answer
      · next failed =>
        obtain rfl := Answer.failed.inj answer
        exact other failed
    · intro begun
      rw [idle begun]
  · rintro rfl
    rw [step_run found]
    constructor
    · rw [server?_settle found, Server.runUntilTriggered_server]
    · exact Server.runUntilTriggered_held.trans (if_pos listening)

/-- Steps on several servers, with addresses that others hold and nobody gives back. At every moment
each address has one holder, and a server holds its own from a start that succeeded until it is run
or dropped. A start fails on an address exactly if that is held, by the server itself or anyone
else, and has changed nothing then; a start that fails later holds nothing more than before. A run
fails as not started exactly if the server is not between a start and the end of a run, and has
changed nothing then; every other run ends with the address free, also if it fails. -/
theorem listener_protocol (past : Past directives first events fleet) (none : first.servers = [])
    (once : first.world.held.Nodup) :
    Tenancy first.world.held fleet ∧
      ∀ number server, fleet.server? number = some server →
        (fleet.Holds number server.address ↔ started number events = true) ∧
        Starts directives fleet number server ∧
        Runs directives fleet number server (started number events) := by
  obtain ⟨tenancy, follows⟩ := past.tenancy none once
  refine ⟨tenancy, ?_⟩
  intro number server found
  have holds : ∀ address, fleet.Holds number address ↔
      server.listening = true ∧ server.address = address := by
    intro address
    simp [Holds, found]
  have listening : server.listening = started number events := by
    rw [Bool.eq_iff_iff, ← follows]
    simp [holds]
  refine ⟨?_, starts_of_server found, runs_of_server found listening⟩
  rw [holds, listening]
  simp

/-- A second start of a server that listens, next to an address of someone else. -/
theorem second_start_refused :
    let logger : Log.Logger := ⟨.json, .standard⟩
    let settings : Settings := ⟨7233, "127.0.0.1", .memory, ["new"], ∅, some logger, none⟩
    let address : SocketAddress := ⟨.four [127, 0, 0, 1], 7233⟩
    let elsewhere : SocketAddress := ⟨.four [127, 0, 0, 1], 80⟩
    let first : Fleet := ⟨[], [], ⟨.start, [elsewhere], .none⟩⟩
    let fleet := ((first.step none (.build settings)).2.step none (.start 0)).2
    fleet.world.held = [address, elsewhere] ∧
      fleet.step none (.start 0) = (⟨.failed (.bind address), []⟩, fleet) ∧
      (fleet.step none (.run 0)).2.world.held = [elsewhere] := by
  intro logger settings address elsewhere first fleet
  let server : Server := ⟨settings, address, ⟨none, ⟨["new"], ∅⟩⟩, logger, ⟨0⟩, true⟩
  have past : Past none first _ fleet := (Past.begun.step (.build settings)).step (.start 0)
  have once : first.world.held.Nodup := by decide
  have found : fleet.server? 0 = some server := by decide
  have held : fleet.world.held = [address, elsewhere] := by decide
  obtain ⟨_, servers⟩ := listener_protocol past rfl once
  obtain ⟨holder, starts, runs⟩ := servers 0 server found
  have begun := holder.mp ⟨server, found, rfl, rfl⟩
  refine ⟨held, starts.unchanged (by simp [held, server]), ?_⟩
  rw [(runs.ended begun).2, held]
  decide

end Fleet

end WorkflowLaunch
