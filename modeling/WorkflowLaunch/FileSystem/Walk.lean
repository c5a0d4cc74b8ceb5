import WorkflowLaunch.FileSystem.Basic

set_option autoImplicit false

/-!
Following a path from directory to directory, through symbolic links, to the entry that it denotes.
At most forty links are followed on one walk.
-/

namespace WorkflowLaunch

open WorkflowLaunch.Path (Name)

/-- One step of a walk. -/
inductive Path.Step where
  | here
  | up
  | down (name : Name)
  deriving DecidableEq

/-- The steps of a path. -/
def Path.steps (path : Path) : List Path.Step :=
  ((Text.pieces Path.slash path.octets).filter (· ≠ [])).map fun piece =>
    if piece = [Path.dot] then .here
    else if piece = [Path.dot, Path.dot] then .up
    else .down piece

/-- Whether the last step must lead to a directory, because a slash follows it. -/
def Path.endsInSlash (path : Path) : Bool := path.octets.getLast? = some Path.slash

namespace FileSystem

/-- Where a walk ends: at a directory that was reached without naming it last, or at a name in a
directory, behind which a slash may stand. -/
inductive Goal where
  | directory (location : Location)
  | entry (parent : Location) (name : Name) (slash : Bool)
  deriving DecidableEq

/-- Whether a link is followed that stands last on a walk: never, always, if a slash follows it, or
if none does. In the last case a name in front of a slash is not looked at. -/
inductive LastLink where
  | keep
  | follow
  | followSlashed
  | followBare
  deriving DecidableEq

def LastLink.follows : LastLink → (slash : Bool) → Bool
  | keep, _ => false
  | follow, _ => true
  | followSlashed, slash => slash
  | followBare, slash => !slash

/-- The limit on the octets of one name. -/
def nameLimit : Nat := 255

/-- The limit on the octets of a path, which it must stay below. -/
def pathLimit : Nat := 4096

/-- Goes down a list of steps. `jump` goes on through a link that stands in a directory. -/
def descend (files : FileSystem) (last : LastLink) (slash : Bool)
    (jump : Location → Path → List Path.Step → Except FileFault Goal) :
    Location → List Path.Step → Except FileFault Goal
  | here, [] => .ok (.directory here)
  | here, .here :: rest => descend files last slash jump here rest
  | here, .up :: rest => descend files last slash jump here.dropLast rest
  | here, .down name :: rest =>
    if last = .followBare && slash && rest.isEmpty then .ok (.entry here name slash)
    else if nameLimit < name.length then .error .nameTooLong
    else match files.node? (here ++ [name]), rest with
      | some (.link target), [] =>
        if last.follows slash then jump here target [] else .ok (.entry here name slash)
      | _, [] => .ok (.entry here name slash)
      | none, _ => .error .notFound
      | some .directory, rest => descend files last slash jump (here ++ [name]) rest
      | some (.file _), _ => .error .notDirectory
      | some (.link target), rest => jump here target rest

/-- A walk that may still follow some links. -/
def walkFrom (files : FileSystem) (last : LastLink) :
    Nat → (slash : Bool) → Location → List Path.Step → Except FileFault Goal
  | 0, slash => descend files last slash fun _ _ _ => .error .tooManyLinks
  | links + 1, slash => descend files last slash fun here target rest =>
    walkFrom files last links (slash || (rest.isEmpty && target.endsInSlash))
      (if target.isAbsolute then [] else here) (target.steps ++ rest)

/-- What is wrong with a path before any walk. -/
def pathFault? (path : Path) : Option FileFault :=
  if path.octets.contains 0 then some .nulInName
  else if pathLimit ≤ path.octets.length then some .nameTooLong
  else if path.octets.isEmpty then some .notFound
  else none

def walk (files : FileSystem) (last : LastLink) (path : Path) : Except FileFault Goal :=
  match pathFault? path with
  | some fault => .error fault
  | none => walkFrom files last 40 path.endsInSlash
      (if path.isAbsolute then [] else files.workingDirectory) path.steps

end FileSystem

end WorkflowLaunch
