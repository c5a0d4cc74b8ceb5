import WorkflowLaunch.Text.Octets
import WorkflowLaunch.Text.Pieces

set_option autoImplicit false

/-!
Paths: octets separated by slashes. Two paths with equal components denote the same entry of a
directory; repeated slashes, inner dots and trailing slashes make no component.
-/

namespace WorkflowLaunch

structure Path where
  octets : Octets
  deriving DecidableEq, Inhabited

namespace Path

abbrev Name := Octets

def slash : UInt8 := 47

def dot : UInt8 := 46

def ofString (text : String) : Path := ⟨Octets.ofString text⟩

/-- The path as messages show it. -/
def display (path : Path) : String := Octets.lossy path.octets

inductive Component where
  | root
  | current
  | up
  | normal (name : Name)
  deriving DecidableEq

/-- A root or a leading dot, and the octets behind it. -/
def lead (path : Path) : Octets × Octets :=
  match path.octets with
  | 47 :: rest => ([slash], rest)
  | [46] => ([dot], [])
  | 46 :: 47 :: rest => ([dot], slash :: rest)
  | octets => ([], octets)

/-- Pieces between slashes that make no component. -/
def vacuous (piece : Octets) : Bool := piece = [] || piece = [dot]

def ofPiece (piece : Octets) : Component := if piece = [dot, dot] then .up else .normal piece

/-- The pieces behind the lead, up to the last one that makes a component. -/
def body (path : Path) : List Octets :=
  ((Text.pieces slash path.lead.2).reverse.dropWhile vacuous).reverse

def leadComponents (path : Path) : List Component :=
  if path.lead.1 = [slash] then [.root] else if path.lead.1 = [dot] then [.current] else []

def components (path : Path) : List Component :=
  path.leadComponents ++ (path.body.filter fun piece => !vacuous piece).map ofPiece

def isAbsolute (path : Path) : Bool := path.lead.1 = [slash]

/-- The last component, if it is a name. -/
def fileName? (path : Path) : Option Name :=
  match path.body.getLast? with
  | some piece => if piece = [dot, dot] then none else some piece
  | none => none

/-- Pieces without those at the end that make no component. -/
def trimPieces (pieces : List Octets) : List Octets :=
  (pieces.reverse.dropWhile vacuous).reverse

/-- The path without its last component; the root and the empty path have none. -/
def parent? (path : Path) : Option Path :=
  if path.body = [] then
    if path.lead.1 = [dot] then some ⟨[]⟩ else none
  else some ⟨path.lead.1 ++ [slash].intercalate (trimPieces path.body.dropLast)⟩

/-- Another path as seen from this one. -/
def join (path other : Path) : Path :=
  if other.isAbsolute then other
  else if path.octets = [] || path.octets.getLast? = some slash then ⟨path.octets ++ other.octets⟩
  else ⟨path.octets ++ slash :: other.octets⟩

/-- The path with another file name, or with one more component if it has none. -/
def withFileName (path : Path) (name : Name) : Path :=
  match path.fileName? with
  | none => path.join ⟨name⟩
  | some _ => (path.parent?.getD ⟨[]⟩).join ⟨name⟩

/-- The path, its parent, the parent's parent and so on. -/
def ancestorsFrom : Nat → Path → List Path
  | 0, path => [path]
  | fuel + 1, path => match path.parent? with
    | none => [path]
    | some parent => path :: ancestorsFrom fuel parent

def ancestors (path : Path) : List Path := ancestorsFrom (path.octets.length + 1) path

end Path

end WorkflowLaunch
