import WorkflowLaunch.Path

set_option autoImplicit false

/-!
A file system: what stands at each location. A location is the list of names from the root down;
the root itself is always a directory.
-/

namespace WorkflowLaunch

open WorkflowLaunch.Path (Name)

abbrev Location := List Name

inductive Node where
  | directory
  | file (content : Octets)
  | link (target : Path)
  deriving DecidableEq

/-- Why an operation on files fails. -/
inductive FileFault where
  | notFound
  | busy
  | alreadyExists
  | notDirectory
  | isDirectory
  | invalidArgument
  | nameTooLong
  | notEmpty
  | tooManyLinks
  | nulInName
  | notText
  deriving DecidableEq, Repr

def FileFault.message : FileFault → String
  | notFound => "No such file or directory (os error 2)"
  | busy => "Device or resource busy (os error 16)"
  | alreadyExists => "File exists (os error 17)"
  | notDirectory => "Not a directory (os error 20)"
  | isDirectory => "Is a directory (os error 21)"
  | invalidArgument => "Invalid argument (os error 22)"
  | nameTooLong => "File name too long (os error 36)"
  | notEmpty => "Directory not empty (os error 39)"
  | tooManyLinks => "Too many levels of symbolic links (os error 40)"
  | nulInName => "file name contained an unexpected NUL byte"
  | notText => "stream did not contain valid UTF-8"

structure FileSystem where
  entries : List (Location × Node)
  workingDirectory : Location

namespace FileSystem

def lookup (location : Location) : List (Location × Node) → Option Node
  | [] => none
  | (held, node) :: rest => if held = location then some node else lookup location rest

def node? (files : FileSystem) (location : Location) : Option Node :=
  if location = [] then some .directory else lookup location files.entries

/-- Puts a node at a location, whatever stands there. -/
def put (files : FileSystem) (location : Location) (node : Node) : FileSystem :=
  { files with
    entries := (location, node) :: files.entries.filter fun entry => entry.1 ≠ location }

def erase (files : FileSystem) (location : Location) : FileSystem :=
  { files with entries := files.entries.filter fun entry => entry.1 ≠ location }

/-- Removes everything below a location. -/
def eraseBelow (files : FileSystem) (location : Location) : FileSystem :=
  { files with
    entries := files.entries.filter fun entry =>
      entry.1 = location || !location.isPrefixOf entry.1 }

theorem lookup_filter_ne (location other : Location) (entries : List (Location × Node)) :
    lookup other (entries.filter fun entry => entry.1 ≠ location) =
      if location = other then none else lookup other entries := by
  induction entries with
  | nil => simp [lookup]
  | cons entry rest ih =>
    obtain ⟨held, node⟩ := entry
    by_cases same : held = location
    · subst same
      simp only [ne_eq, not_true_eq_false, decide_false, List.filter_cons, Bool.false_eq_true,
        if_false, ih, lookup]
      split <;> rfl
    · simp only [ne_eq, same, not_false_eq_true, decide_true, List.filter_cons, if_true, lookup, ih]
      split
      · next h => subst h; rw [if_neg (Ne.symm same)]
      · rfl

theorem node?_put (files : FileSystem) {location : Location} (node : Node) (other : Location)
    (inside : location ≠ []) :
    (files.put location node).node? other =
      if location = other then some node else files.node? other := by
  by_cases root : other = []
  · subst root; simp [node?, inside]
  · simp only [node?, root, if_false, put, lookup, lookup_filter_ne]
    split <;> rfl

theorem node?_erase (files : FileSystem) {location : Location} (other : Location)
    (inside : location ≠ []) :
    (files.erase location).node? other = if location = other then none else files.node? other := by
  by_cases root : other = []
  · subst root; simp [node?, inside]
  · simp only [node?, root, if_false, erase, lookup_filter_ne]

/-- Nothing but an empty working directory below the root. -/
def start : FileSystem :=
  let here : Location := [Octets.ofString "work"]
  ⟨[(here, .directory)], here⟩

end FileSystem

end WorkflowLaunch
