import WorkflowLaunch.Proofs.Server.Deeds

set_option autoImplicit false

/-!
Which deed triggers whose hook, while servers and named hooks are used in any order. Servers that
were built with the same name share one hook, and a server that was built without a name has one
that nobody else can trigger.
-/

namespace WorkflowLaunch

namespace Fleet

/-- Where a server has its hook from. -/
inductive Source where
  | named (name : String)
  | own (number : Nat)
  deriving DecidableEq

def builds (events : List Event) : Nat := events.countP (·.1.isBuild)

/-- The source of the hook that a server was built with. -/
def source? (number : Nat) : List Event → Option Source
  | [] => none
  | (.build _ hook, _) :: earlier =>
    if builds earlier = number then some (hook.elim (.own number) .named)
    else source? number earlier
  | _ :: earlier => source? number earlier

/-- The source whose hook an event has triggered. -/
def pulled? (earlier : List Event) : Event → Option Source
  | (.interrupt name, _) => some (.named name)
  | (.trigger number, .done) => source? number earlier
  | _ => none

/-- Some event has triggered the hook of a source. -/
def Pulled (source : Source) : List Event → Prop
  | [] => False
  | event :: earlier => pulled? earlier event = some source ∨ Pulled source earlier

/-- The hook of a source, as long as its server is there. -/
def Denotes (events : List Event) (fleet : Fleet) (hook : Hook) : Source → Prop
  | .named name => fleet.hook? name = some hook
  | .own number => source? number events = some (.own number) ∧
      ∃ server, fleet.server? number = some server ∧ server.interrupt = hook

/-- Sources have different hooks, and a hook is triggered exactly if its source was. -/
structure Wired (interrupts : Interrupts) (denotes : Hook → Source → Prop)
    (pulled : Source → Prop) : Prop where
  injective : ∀ source other hook, denotes hook source → denotes hook other → source = other
  made : ∀ source hook, denotes hook source → hook.number < interrupts.made
  known : ∀ hook, interrupts.isTriggered hook = true → hook.number < interrupts.made
  follows : ∀ source hook, denotes hook source →
    (interrupts.isTriggered hook = true ↔ pulled source)

/-- The hooks of a fleet are as its past events say. -/
structure Tracks (events : List Event) (fleet : Fleet) : Prop where
  servers : fleet.servers.length = builds events
  built : ∀ number server, fleet.server? number = some server →
    ∃ source, source? number events = some source ∧ Denotes events fleet server.interrupt source
  wired : Wired fleet.world.interrupts (Denotes events fleet) (Pulled · events)
  unused : ∀ name, fleet.hook? name = none → ¬Pulled (.named name) events

namespace Wired

variable {interrupts : Interrupts} {denotes further : Hook → Source → Prop}
  {pulled : Source → Prop} {source : Source} {hook : Hook}

theorem restrict (wired : Wired interrupts denotes pulled)
    (fewer : ∀ hook source, further hook source → denotes hook source) :
    Wired interrupts further pulled where
  injective source other hook left right :=
    wired.injective source other hook (fewer _ _ left) (fewer _ _ right)
  made source hook held := wired.made source hook (fewer _ _ held)
  known := wired.known
  follows source hook held := wired.follows source hook (fewer _ _ held)

/-- The hook of one source is triggered. -/
theorem pull (wired : Wired interrupts denotes pulled) (held : denotes hook source)
    (functional : ∀ other, denotes other source → other = hook) :
    Wired (interrupts.trigger hook) denotes fun from' => source = from' ∨ pulled from' where
  injective := wired.injective
  made := wired.made
  known other triggered := by
    rw [Interrupts.isTriggered_trigger, Bool.or_eq_true, decide_eq_true_iff] at triggered
    rcases triggered with rfl | before
    · exact wired.made source other held
    · exact wired.known other before
  follows from' other same := by
    rw [Interrupts.isTriggered_trigger, Bool.or_eq_true, decide_eq_true_iff,
      wired.follows from' other same]
    apply or_congr_left
    constructor
    · rintro rfl
      exact wired.injective source from' other held same
    · rintro rfl
      exact functional other same

/-- A source comes in, with a hook that nobody had. -/
theorem gain (wired : Wired interrupts denotes pulled) (silent : ¬pulled source)
    (unheld : ∀ hook, ¬denotes hook source) :
    Wired interrupts.fresh.2
      (fun hook from' => denotes hook from' ∨ from' = source ∧ hook = interrupts.fresh.1)
      pulled where
  injective from' other hook left right := by
    rcases left with left | ⟨rfl, rfl⟩ <;> rcases right with right | ⟨rfl, same⟩
    · exact wired.injective from' other hook left right
    · subst same
      exact absurd (wired.made _ _ left) (by simp [Interrupts.fresh])
    · exact absurd (wired.made _ _ right) (by simp [Interrupts.fresh])
    · rfl
  made from' hook held := by
    rcases held with held | ⟨_, rfl⟩
    · exact (wired.made _ _ held).trans (Nat.lt_succ_self _)
    · exact Nat.lt_succ_self _
  known hook triggered := (wired.known hook triggered).trans (Nat.lt_succ_self _)
  follows from' hook held := by
    rw [Interrupts.isTriggered_fresh]
    rcases held with held | ⟨rfl, rfl⟩
    · exact wired.follows from' hook held
    · simp only [silent, iff_false]
      intro triggered
      exact absurd (wired.known _ triggered) (by simp [Interrupts.fresh])

end Wired

variable {directives : Option String} {first fleet after : Fleet} {events : List Event}
  {event : Event} {number other : Nat} {server : Server} {source : Source} {hook : Hook}
  {name : String}

theorem source?_cons (quiet : event.1.isBuild = false) (number : Nat) (events : List Event) :
    source? number (event :: events) = source? number events := by
  obtain ⟨deed, answer⟩ := event
  cases deed <;> simp_all [source?, Deed.isBuild]

theorem builds_cons (quiet : event.1.isBuild = false) (events : List Event) :
    builds (event :: events) = builds events := by
  simp [builds, quiet]

theorem builds_build (settings : Settings) (hook : Option String) (answer : Answer)
    (events : List Event) :
    builds ((.build settings hook, answer) :: events) = builds events + 1 := by
  simp [builds, Deed.isBuild]

/-- A source of its own is the server's that has it, and that server was built. -/
theorem eq_of_source?_own (found : source? number events = some (.own other)) :
    other = number ∧ number < builds events := by
  induction events with
  | nil => simp [source?] at found
  | cons event earlier ih =>
    obtain ⟨deed, answer⟩ := event
    by_cases quiet : deed.isBuild = false
    · rw [source?_cons quiet] at found
      rw [builds_cons quiet]
      exact ih found
    · cases deed with
      | build settings hook =>
        rw [builds_build]
        rw [source?] at found
        split at found
        · next here =>
          cases hook with
          | none =>
            obtain rfl : number = other := by simpa using found
            exact ⟨rfl, by omega⟩
          | some name => simp at found
        · obtain ⟨same, before⟩ := ih found
          exact ⟨same, by omega⟩
      | _ => simp [Deed.isBuild] at quiet

theorem builds_le_cons (event : Event) (events : List Event) :
    builds events ≤ builds (event :: events) :=
  (List.sublist_cons_self event events).countP_le

theorem pulled?_eq_own (pulled : pulled? events event = some (.own number)) :
    event = (.trigger number, .done) ∧ number < builds events := by
  rw [pulled?.eq_def] at pulled
  split at pulled
  · simp at pulled
  · obtain ⟨rfl, before⟩ := eq_of_source?_own pulled
    exact ⟨rfl, before⟩
  · simp at pulled

/-- Only through its own server a hook without a name is triggered. -/
theorem mem_of_pulled_own (pulled : Pulled (.own number) events) :
    number < builds events ∧ (.trigger number, .done) ∈ events := by
  induction events with
  | nil => exact absurd pulled id
  | cons event earlier ih =>
    rcases pulled with here | before
    · obtain ⟨rfl, built⟩ := pulled?_eq_own here
      exact ⟨built.trans_le (builds_le_cons _ _), List.mem_cons_self⟩
    · obtain ⟨built, member⟩ := ih before
      exact ⟨built.trans_le (builds_le_cons _ _), List.mem_cons_of_mem _ member⟩

theorem Denotes.functional {again : Hook} (denotes : Denotes events fleet hook source)
    (held : Denotes events fleet again source) : again = hook := by
  cases source with
  | named name => exact Option.some.inj (held.symm.trans denotes)
  | own number =>
    obtain ⟨_, server, found, rfl⟩ := denotes
    obtain ⟨_, same, held, rfl⟩ := held
    obtain rfl := Option.some.inj (found.symm.trans held)
    rfl

theorem denotes_cons (quiet : event.1.isBuild = false) :
    Denotes (event :: events) fleet = Denotes events fleet := by
  funext hook source
  cases source with
  | named name => rfl
  | own number => rw [Denotes, Denotes, source?_cons quiet]

/-- An event that triggers nothing. -/
theorem Tracks.silent (tracks : Tracks events fleet) (quiet : event.1.isBuild = false)
    (silent : pulled? events event = none) : Tracks (event :: events) fleet := by
  have pulled : (Pulled · (event :: events)) = (Pulled · events) := by
    funext source
    simp [Pulled, silent]
  obtain ⟨servers, built, wired, unused⟩ := tracks
  refine ⟨?_, ?_, ?_, ?_⟩
  · rw [builds_cons quiet, servers]
  · simpa only [source?_cons quiet, denotes_cons quiet] using built
  · rwa [pulled, denotes_cons quiet]
  · intro name absent
    exact (congrFun pulled (.named name)).mp.mt (unused name absent)

/-- An event that triggers the hook of a source. -/
theorem Tracks.pull (tracks : Tracks events fleet) (denotes : Denotes events fleet hook source)
    (quiet : event.1.isBuild = false) (pulls : pulled? events event = some source) :
    Tracks (event :: events) { fleet with world := fleet.world.trigger hook } := by
  have pulled : (Pulled · (event :: events)) =
      fun from' => source = from' ∨ Pulled from' events := by
    funext from'
    simp [Pulled, pulls]
  obtain ⟨servers, built, wired, unused⟩ := tracks
  refine ⟨?_, ?_, ?_, ?_⟩
  · rw [builds_cons quiet]
    exact servers
  · simp only [source?_cons quiet, denotes_cons quiet]
    exact built
  · rw [pulled, denotes_cons quiet]
    exact wired.pull denotes fun _ held => denotes.functional held
  · intro name absent
    rw [congrFun pulled (.named name)]
    rintro (rfl | before)
    · exact absurd (denotes.symm.trans absent) (by simp)
    · exact unused name absent before

theorem Kept.denotes (kept : Kept fleet after) (hook : Hook) (source : Source)
    (denotes : Denotes events after hook source) : Denotes events fleet hook source := by
  cases source with
  | named name =>
    rw [Denotes, kept.hook?] at denotes
    exact denotes
  | own number =>
    obtain ⟨own, server, found, rfl⟩ := denotes
    exact ⟨own, kept.servers number server found⟩

theorem Tracks.keep (tracks : Tracks events fleet) (kept : Kept fleet after) :
    Tracks events after := by
  obtain ⟨servers, built, wired, unused⟩ := tracks
  refine ⟨kept.length.trans servers, ?_, ?_, ?_⟩
  · intro number server found
    obtain ⟨before, held, same⟩ := kept.servers number server found
    obtain ⟨source, from', denotes⟩ := built number before held
    refine ⟨source, from', ?_⟩
    cases source with
    | named name =>
      rw [Denotes, kept.hook?, ← same]
      exact denotes
    | own owner =>
      obtain ⟨rfl, _⟩ := eq_of_source?_own from'
      exact ⟨from', server, found, rfl⟩
  · rw [kept.interrupts]
    exact wired.restrict kept.denotes
  · intro name
    rw [kept.hook?]
    exact unused name

/-- A name has its hook from its first use on. -/
theorem Tracks.hookNamed (tracks : Tracks events fleet) (name : String) :
    Tracks events (fleet.hookNamed name).2 := by
  rw [Fleet.hookNamed]
  split
  · next entry hook found =>
    exact tracks
  · next absent =>
    have unnamed : fleet.hook? name = none := by simp [Fleet.hook?, absent]
    have pulls := tracks.wired.gain (tracks.unused name unnamed) fun hook (held : _ = _) => by
      simp [unnamed] at held
    refine ⟨tracks.servers, ?_, pulls.restrict ?_, ?_⟩
    · intro number server found
      obtain ⟨source, from', denotes⟩ := tracks.built number server found
      refine ⟨source, from', ?_⟩
      cases source with
      | named other =>
        have different : name ≠ other := by
          rintro rfl
          simp [Denotes, unnamed] at denotes
        rw [Denotes, hook?_cons, if_neg different]
        exact denotes
      | own _ => exact denotes
    · intro hook source held
      cases source with
      | named other =>
        rw [Denotes, hook?_cons] at held
        split at held
        · next same => exact .inr ⟨by rw [same], (Option.some.inj held).symm⟩
        · exact .inl held
      | own _ => exact .inl held
    · intro other absent
      rw [hook?_cons] at absent
      split at absent
      · simp at absent
      · exact tracks.unused other absent

/-- What a build says of the hook of its server. -/
def sourceOf (number : Nat) (hook : Option String) : Source := hook.elim (.own number) .named

theorem source?_build (settings : Settings) (hook : Option String) (answer : Answer) :
    source? number ((.build settings hook, answer) :: events) =
      if builds events = number then some (sourceOf number hook) else source? number events := rfl

section Build

variable {given : Option Server} {settings : Settings} {named : Option String} {answer : Answer}

theorem Built.denotes (built : Built fleet named given after.world.interrupts)
    (tracks : Tracks events fleet) (servers : after.servers = fleet.servers ++ [given])
    (hooks : after.hooks = fleet.hooks)
    (denotes : Denotes ((.build settings named, answer) :: events) after hook source) :
    Denotes events fleet hook source ∨
      named = none ∧ source = .own (builds events) ∧ ∃ server, given = some server ∧
        hook = server.interrupt := by
  cases source with
  | named name =>
    rw [Denotes, hook?, hooks] at denotes
    exact .inl denotes
  | own number =>
    obtain ⟨own, server, found, rfl⟩ := denotes
    rw [source?_build] at own
    rw [server?_append servers, tracks.servers] at found
    split at own
    · next here =>
      subst here
      rw [if_pos rfl] at found
      refine .inr ⟨?_, rfl, server, found, rfl⟩
      cases named with
      | none => rfl
      | some name => simp [sourceOf] at own
    · next other =>
      rw [if_neg (Ne.symm other)] at found
      exact .inl ⟨own, server, found, rfl⟩

theorem Built.wired (built : Built fleet named given after.world.interrupts)
    (tracks : Tracks events fleet) (servers : after.servers = fleet.servers ++ [given])
    (hooks : after.hooks = fleet.hooks) :
    Wired after.world.interrupts (Denotes ((.build settings named, answer) :: events) after)
      (Pulled · events) := by
  have fewer (hook : Hook) (source : Source)
      (held : Denotes ((.build settings named, answer) :: events) after hook source) :=
    built.denotes tracks servers hooks held
  generalize after.world.interrupts = interrupts at built ⊢
  cases built with
  | failed =>
    apply tracks.wired.restrict
    intro hook source held
    rcases fewer hook source held with before | ⟨_, _, server, given, _⟩
    · exact before
    · simp at given
  | shared =>
    apply tracks.wired.restrict
    intro hook source held
    rcases fewer hook source held with before | ⟨unnamed, _⟩
    · exact before
    · simp at unnamed
  | alone fresh =>
    have silent : ¬Pulled (.own (builds events)) events := fun pulled =>
      Nat.lt_irrefl _ (mem_of_pulled_own pulled).1
    have gains := tracks.wired.gain silent fun hook held =>
      Nat.lt_irrefl _ (eq_of_source?_own held.1).2
    apply gains.restrict
    intro hook source held
    rcases fewer hook source held with before | ⟨_, same, server, given, rfl⟩
    · exact .inl before
    · obtain rfl := Option.some.inj given
      exact .inr ⟨same, fresh⟩

/-- A server that was built has the hook that its source denotes. -/
theorem Built.fits (built : Built fleet named (some server) after.world.interrupts)
    (tracks : Tracks events fleet) (servers : after.servers = fleet.servers ++ [some server])
    (hooks : after.hooks = fleet.hooks) :
    Denotes ((.build settings named, answer) :: events) after server.interrupt
      (sourceOf (builds events) named) := by
  generalize after.world.interrupts = interrupts at built
  cases built with
  | shared named =>
    rw [sourceOf, Option.elim_some, Denotes, Fleet.hook?, hooks]
    exact named
  | alone fresh =>
    refine ⟨if_pos rfl, server, ?_, rfl⟩
    rw [server?_append servers, if_pos tracks.servers.symm]

theorem Tracks.build (tracks : Tracks events fleet)
    (servers : after.servers = fleet.servers ++ [given]) (hooks : after.hooks = fleet.hooks)
    (built : Built fleet named given after.world.interrupts) :
    Tracks ((.build settings named, answer) :: events) after := by
  have same (name : String) : after.hook? name = fleet.hook? name := by
    rw [Fleet.hook?, Fleet.hook?, hooks]
  have pulled : (Pulled · ((.build settings named, answer) :: events)) = (Pulled · events) := by
    funext source
    simp [Pulled, pulled?]
  refine ⟨?_, ?_, ?_, ?_⟩
  · rw [servers, builds_build, List.length_append, tracks.servers]
    rfl
  · intro number server found
    rw [server?_append servers, tracks.servers] at found
    rw [source?_build]
    split at found
    · next here =>
      subst here found
      rw [if_pos rfl]
      exact ⟨_, rfl, built.fits tracks servers hooks⟩
    · next other =>
      obtain ⟨source, from', denotes⟩ := tracks.built number server found
      rw [if_neg (Ne.symm other)]
      refine ⟨source, from', ?_⟩
      cases source with
      | named name =>
        rw [Denotes, same]
        exact denotes
      | own owner =>
        obtain ⟨rfl, _⟩ := eq_of_source?_own from'
        refine ⟨?_, server, ?_, rfl⟩
        · rw [source?_build, if_neg (Ne.symm other), from']
        · rw [server?_append servers, tracks.servers, if_neg other, found]
  · rw [pulled]
    exact built.wired tracks servers hooks
  · intro name absent
    rw [same] at absent
    exact (congrFun pulled (.named name)).mp.mt (tracks.unused name absent)

end Build

theorem Tracks.ready (tracks : Tracks events fleet) (deed : Deed) :
    Tracks events (fleet.ready deed) := by
  rw [Fleet.ready.eq_def]
  split
  · exact tracks.hookNamed _
  · exact tracks.hookNamed _
  · exact tracks

theorem pulled?_of_leavesHooks {deed : Deed} {answer : Answer}
    (leaves : deed.leavesHooks answer = true) (events : List Event) :
    deed.isBuild = false ∧ pulled? events (deed, answer) = none := by
  cases deed <;> cases answer <;> simp_all [pulled?, Deed.leavesHooks, Deed.isBuild]

/-- Whatever a deed does to the hooks, they stay as the past events say. -/
theorem Tracks.turns {deed : Deed} {answer : Answer} (tracks : Tracks events fleet)
    (turns : Turns fleet deed answer after) : Tracks ((deed, answer) :: events) after := by
  cases turns with
  | built servers hooks built => exact tracks.build servers hooks built
  | kept leaves kept =>
    obtain ⟨quiet, silent⟩ := pulled?_of_leavesHooks leaves events
    exact (tracks.keep kept).silent quiet silent
  | pulled found =>
    obtain ⟨source, from', denotes⟩ := tracks.built _ _ found
    exact tracks.pull denotes rfl from'
  | @named name hook known =>
    have denotes : Denotes events fleet hook (.named name) := known
    exact tracks.pull denotes rfl rfl

/-- The hooks are as the past events say, in every story that begins without servers and names. -/
theorem Story.tracks (story : Story directives first events fleet) (servers : first.servers = [])
    (hooks : first.hooks = [])
    (known : ∀ hook, first.world.interrupts.isTriggered hook = true →
      hook.number < first.world.interrupts.made) : Tracks events fleet := by
  induction story with
  | begun =>
    have nothing : ∀ hook source, ¬Denotes [] first hook source := by
      intro hook source
      cases source <;> simp [Denotes, hook?, hooks, source?]
    refine ⟨by rw [servers]; rfl, by simp [server?, servers], ⟨?_, ?_, known, ?_⟩, by simp [Pulled]⟩
    · exact fun source _ hook held => absurd held (nothing hook source)
    · exact fun source hook held => absurd held (nothing hook source)
    · exact fun source hook held => absurd held (nothing hook source)
  | deed story deed ends ih => exact (ih.ready deed).turns (turns_act deed ends)
  | meanwhile story same ih =>
    exact ih.keep ⟨rfl, same, rfl, fun _ server found => ⟨server, found, rfl⟩⟩

/-- What the hook of a server is to others and to its own run, in words of the events before. -/
structure Hooked (directives : Option String) (events : List Event) (fleet : Fleet) (number : Nat)
    (server : Server) (source : Source) : Prop where
  triggered : fleet.world.interrupts.isTriggered server.interrupt = true ↔ Pulled source events
  named : ∀ name, fleet.hook? name = some server.interrupt ↔ source = .named name
  shared : ∀ other next, fleet.server? other = some next →
    (next.interrupt = server.interrupt ↔ source? other events = some source)
  own : ∀ owner, source = .own owner → owner = number ∧
    (∀ other next, fleet.server? other = some next → next.interrupt = server.interrupt →
      other = number) ∧
    (fleet.world.interrupts.isTriggered server.interrupt = true →
      (.trigger number, .done) ∈ events)
  waits : fleet.Waits number ↔ server.listening = true ∧ ¬Pulled source events
  stops : ∀ waited, (fleet.act directives (.run number)).1.answer = .stopped waited →
    server.listening = true ∧ (waited = false ↔ Pulled source events) ∧
      (fleet.act directives (.run number)).2.world.interrupts.isTriggered server.interrupt = true
  ends : server.listening = true → Pulled source events →
    (fleet.act directives (.run number)).1.answer =
        .ofFlush (server.store.flush fleet.world.files).1 ∧
      (fleet.act directives (.run number)).2.world =
        { fleet.world.release server.address with
          files := (server.store.flush fleet.world.files).2 } ∧
      (fleet.act directives (.run number)).2.server? number =
        some { server with listening := false }
  stays : ∀ rest later next, Story directives fleet rest later →
    later.server? number = some next → next.interrupt = server.interrupt ∧
      (Pulled source events → later.world.interrupts.isTriggered next.interrupt = true ∧
        ¬later.Waits number)

theorem Tracks.hooked (directives : Option String) (tracks : Tracks events fleet)
    (found : fleet.server? number = some server) (from' : source? number events = some source)
    (denotes : Denotes events fleet server.interrupt source) :
    Hooked directives events fleet number server source := by
  have triggered := tracks.wired.follows source server.interrupt denotes
  have shared (other : Nat) (next : Server) (there : fleet.server? other = some next) :
      next.interrupt = server.interrupt ↔ source? other events = some source := by
    obtain ⟨second, other', held⟩ := tracks.built other next there
    constructor
    · intro same
      rw [same] at held
      rw [other', tracks.wired.injective second source _ held denotes]
    · intro same
      obtain rfl := Option.some.inj (other'.symm.trans same)
      exact denotes.functional held
  refine ⟨triggered, ?_, shared, ?_, ?_, ?_, ?_, ?_⟩
  · intro name
    constructor
    · intro known
      exact tracks.wired.injective source (.named name) _ denotes known
    · rintro rfl
      exact denotes
  · rintro owner rfl
    obtain ⟨rfl, _⟩ := eq_of_source?_own from'
    refine ⟨rfl, ?_, fun pulled => (mem_of_pulled_own (triggered.mp pulled)).2⟩
    intro other next there same
    exact (eq_of_source?_own ((shared other next there).mp same)).1.symm
  · rw [waits_iff found, ← triggered, Bool.not_eq_true]
  · intro waited stopped
    obtain ⟨listening, rfl, seen⟩ := stopped_run found stopped
    exact ⟨listening, by rw [← triggered, Bool.not_eq_false'], seen⟩
  · intro listening pulled
    exact triggered_run found listening (triggered.mpr pulled)
  · intro rest later next story still
    have same := story.interrupt found still
    refine ⟨same, fun pulled => ?_⟩
    have stays := story.triggered (triggered.mpr pulled)
    rw [← same] at stays
    exact ⟨stays, by simp [waits_iff still, stays]⟩

/-- Servers and named hooks are used in any order. At every moment the hook of a server is triggered
exactly if some deed before has triggered it: the name that the server was built with, or a server
with the same hook. Two servers have the same hook exactly if they were built with the same name, so
that a server built without a name has one that only a trigger of this server reaches. A hook stays
triggered. A run waits exactly as long as the hook of its server is not triggered, and a run that
ends well has seen it triggered. Once it is triggered, a run gives up the address, flushes the
catalog and ends with what the flush returned. -/
theorem hooks_sticky_and_isolated (story : Story directives first events fleet)
    (servers : first.servers = []) (hooks : first.hooks = [])
    (known : ∀ hook, first.world.interrupts.isTriggered hook = true →
      hook.number < first.world.interrupts.made)
    (found : fleet.server? number = some server) :
    ∃ source, source? number events = some source ∧
      Hooked directives events fleet number server source := by
  have tracks := story.tracks servers hooks known
  obtain ⟨source, from', denotes⟩ := tracks.built number server found
  exact ⟨source, from', tracks.hooked directives found from' denotes⟩

/-- Two servers have the hook of one name, and a third has its own. The name is triggered before the
first server is started, whose run then ends without waiting. -/
theorem hook_triggered_before_start :
    let logger : Log.Logger := ⟨.json, .standard⟩
    let settings (port : UInt16) : Settings :=
      ⟨port, "127.0.0.1", .memory, [], ∅, some logger, none⟩
    let first := ofFiles .start
    let shared := (first.act none (.build (settings 7233) (some "stop"))).2
    let both := (shared.act none (.build (settings 7234) (some "stop"))).2
    let built := (both.act none (.build (settings 7235) none)).2
    let fleet := ((built.act none (.interrupt "stop")).2.act none (.start 0)).2
    (fleet.server? 0).map (·.listening) = some true ∧ ¬fleet.Waits 0 ∧
      (fleet.act none (.run 0)).1.answer = .stopped false ∧
      ∀ third, fleet.server? 2 = some third →
        fleet.world.interrupts.isTriggered third.interrupt = false := by
  intro logger settings first shared both built fleet
  have story : Story none first _ fleet :=
    ((((Story.begun.deed (.build (settings 7233) (some "stop")) (by simp)).deed
      (.build (settings 7234) (some "stop")) (by simp)).deed
      (.build (settings 7235) none) (by simp)).deed (.interrupt "stop") (by simp)).deed
      (.start 0) (by simp)
  have known : ∀ hook, first.world.interrupts.isTriggered hook = true →
      hook.number < first.world.interrupts.made := by
    simp [first, ofFiles, Interrupts.none, Interrupts.isTriggered]
  have serving : (fleet.server? 0).map (·.listening) = some true := by decide
  obtain ⟨server, found, listening⟩ := Option.map_eq_some_iff.mp serving
  obtain ⟨source, from', hooked⟩ := hooks_sticky_and_isolated story rfl rfl known found
  obtain rfl : Source.named "stop" = source := Option.some.inj from'
  refine ⟨serving, ?_, ?_, ?_⟩
  · rw [hooked.waits]
    exact fun waits => waits.2 (.inr (.inl rfl))
  · obtain ⟨answer, _⟩ := hooked.ends listening (.inr (.inl rfl))
    have kept : (fleet.server? 0).map (·.store.path) = some none := by decide
    rw [found] at kept
    have memory : server.store.path = none := Option.some.inj kept
    rw [answer, Store.flush, memory]
    rfl
  · intro third there
    obtain ⟨source, from', hooked⟩ := hooks_sticky_and_isolated story rfl rfl known there
    obtain rfl : Source.own 2 = source := Option.some.inj from'
    rw [← Bool.not_eq_true, hooked.triggered]
    intro pulled
    simp [Pulled, pulled?] at pulled

end Fleet

end WorkflowLaunch
