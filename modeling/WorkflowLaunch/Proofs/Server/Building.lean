import WorkflowLaunch.Server.Basic

set_option autoImplicit false

/-!
Every end of building a server. The checks come in a fixed order; the last of them, opening the
store, is the only one that looks at the files.
-/

namespace WorkflowLaunch.Server

open Network (Ip SocketAddress)

/-- What is wrong with a port, an address and namespaces: the first of these that applies. -/
inductive Flawed (port : UInt16) (ip : String) (names : List String) : ServerFault → Prop where
  | port : port = 0 → Flawed port ip names (.invalidPort port)
  | address : port ≠ 0 → Ip.ofText? ip = none → Flawed port ip names (.invalidAddress ip)
  | blank {name : String} : port ≠ 0 → Ip.ofText? ip ≠ none → name ∈ names →
      Text.blank name = true → Flawed port ip names .blankNamespace

variable {settings : Settings} {directives : Option String} {world : World}

theorem addressOf_eq_error_iff {fault : ServerFault} :
    addressOf settings = .error fault ↔
      Flawed settings.port settings.ip settings.namespaces fault := by
  rw [addressOf]
  constructor
  · intro refused
    split at refused
    · next zero =>
      obtain rfl := Except.error.inj refused
      exact .port zero
    · next port =>
      split at refused
      · next unread =>
        obtain rfl := Except.error.inj refused
        exact .address port unread
      · next ip read =>
        split at refused
        · next found =>
          obtain rfl := Except.error.inj refused
          obtain ⟨name, member, blank⟩ := List.any_eq_true.mp found
          exact .blank port (by simp [read]) member blank
        · simp at refused
  · intro flawed
    cases flawed with
    | port zero => rw [if_pos zero]
    | address port unread => simp only [if_neg port, unread]
    | @blank name port read member blank =>
      obtain ⟨ip, read⟩ := Option.ne_none_iff_exists'.mp read
      simp only [if_neg port, read, if_pos (List.any_eq_true.mpr ⟨name, member, blank⟩)]

theorem not_flawed_of_addressOf {address : SocketAddress}
    (located : addressOf settings = .ok address) (flaw : ServerFault) :
    ¬Flawed settings.port settings.ip settings.namespaces flaw := by
  intro flawed
  rw [addressOf_eq_error_iff.mpr flawed] at located
  simp at located

/-- The ends of building a server, with the world after it. -/
inductive Builds (directives : Option String) (settings : Settings) (world : World) :
    Except ServerFault Server → World → Prop where
  | unaddressed {fault : ServerFault} : addressOf settings = .error fault →
      Builds directives settings world (.error fault) world
  | unlogged {address : SocketAddress} {fault : ServerFault} :
      addressOf settings = .ok address → loggerOf settings directives = .error fault →
      Builds directives settings world (.error fault) world
  | unopened {address : SocketAddress} {logger : Log.Logger} {fault : StoreFault}
      {files : FileSystem} : addressOf settings = .ok address →
      loggerOf settings directives = .ok logger →
      Store.openAt world.files settings.storage = (.error fault, files) →
      Builds directives settings world (.error (.store fault)) { world with files := files }
  | built {address : SocketAddress} {logger : Log.Logger} {store : Store} {files : FileSystem} :
      addressOf settings = .ok address → loggerOf settings directives = .ok logger →
      Store.openAt world.files settings.storage = (.ok store, files) →
      Builds directives settings world
        (.ok ⟨settings, address, store, logger, (hookOf settings world.interrupts).1, false⟩)
        { world with
          files := files
          interrupts := (hookOf settings world.interrupts).2 }

theorem builds_build (directives : Option String) (settings : Settings) (world : World) :
    Builds directives settings world (build directives settings world).1
      (build directives settings world).2 := by
  rw [build]
  cases located : addressOf settings with
  | error fault => exact .unaddressed located
  | ok address =>
    cases logs : loggerOf settings directives with
    | error fault => exact .unlogged located logs
    | ok logger =>
      simp only [bind, Except.bind, pure, Except.pure]
      split
      · next opened => exact .unopened located logs opened
      · next opened => exact .built located logs opened

theorem builds_of_eq {result : Except ServerFault Server} {after : World}
    (built : build directives settings world = (result, after)) :
    Builds directives settings world result after := by
  have builds := builds_build directives settings world
  rwa [built] at builds

end WorkflowLaunch.Server
