import WorkflowLaunch.FileSystem.Walk

set_option autoImplicit false

/-!
The part of a file system that an operation on a path concerns, and what differs between two
states of it.
-/

namespace WorkflowLaunch

/-- The locations that steps lead by, links left aside. -/
def Path.locations : Location → List Path.Step → List Location
  | _, [] => []
  | here, .here :: rest => locations here rest
  | here, .up :: rest => locations here.dropLast rest
  | here, .down name :: rest => (here ++ [name]) :: locations (here ++ [name]) rest

namespace FileSystem

/-- The locations that only the earlier of two states has something at. -/
def removed (before after : FileSystem) : List Location :=
  (before.entries.map Prod.fst).filter fun location => after.node? location = none

/-- What only the later of two states has, each directory in front of what stands in it. -/
def added (before after : FileSystem) : List (Location × Node) :=
  let fresh := after.entries.filter fun (location, node) => before.node? location ≠ some node
  fresh.mergeSort fun left right => decide (left.1.length ≤ right.1.length)

end FileSystem

end WorkflowLaunch
