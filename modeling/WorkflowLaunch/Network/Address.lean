set_option autoImplicit false

/-!
Addresses that a server listens on, and their text. Of a long address the longest run of at least
two zero groups is left out, the first one of several.
-/

namespace WorkflowLaunch.Network

inductive Ip where
  | four (octets : List Nat)
  | six (groups : List Nat)
  deriving DecidableEq, Repr

structure SocketAddress where
  ip : Ip
  port : UInt16
  deriving DecidableEq, Repr

/-- The length of the run of zeros that each position begins. -/
def zeroRuns : List Nat → List Nat
  | [] => []
  | group :: rest =>
    let runs := zeroRuns rest
    (if group = 0 then runs.headD 0 + 1 else 0) :: runs

def groupsText (groups : List Nat) : String :=
  ":".intercalate (groups.map fun group => String.ofList (Nat.toDigits 16 group))

def octetsText (octets : List Nat) : String := ".".intercalate (octets.map toString)

def Ip.text : Ip → String
  | .four octets => octetsText octets
  | .six [0, 0, 0, 0, 0, 0xFFFF, high, low] =>
    "::ffff:" ++ octetsText [high / 256, high % 256, low / 256, low % 256]
  | .six groups =>
    let runs := zeroRuns groups
    let longest := runs.foldl max 0
    if longest < 2 then groupsText groups
    else
      let first := runs.takeWhile (· ≠ longest) |>.length
      groupsText (groups.take first) ++ "::" ++ groupsText (groups.drop (first + longest))

def SocketAddress.text (address : SocketAddress) : String :=
  match address.ip with
  | .four _ => s!"{address.ip.text}:{address.port}"
  | .six _ => s!"[{address.ip.text}]:{address.port}"

end WorkflowLaunch.Network
