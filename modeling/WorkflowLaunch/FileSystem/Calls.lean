import WorkflowLaunch.FileSystem.Walk

set_option autoImplicit false

/-!
The operations on files. Reading and writing follow links, also through one that stands last;
renaming and removing treat a link as what it is, unless a slash follows it. An operation that
fails changes nothing; only removing may have emptied a directory before it fails.
-/

namespace WorkflowLaunch.FileSystem

open WorkflowLaunch.Path (Name)

/-- What an operation gives: its result and the files after it. -/
abbrev Outcome := Except FileFault Unit × FileSystem

def read (files : FileSystem) (path : Path) : Except FileFault Octets := do
  match ← files.walk .follow path with
  | .directory _ => .error .isDirectory
  | .entry parent name slash => match files.node? (parent ++ [name]) with
    | some .directory => .error .isDirectory
    | some (.file content) => if slash then .error .notDirectory else .ok content
    | _ => .error .notFound

def readText (files : FileSystem) (path : Path) : Except FileFault String := do
  match Octets.text? (← files.read path) with
  | some text => .ok text
  | none => .error .notText

def isDirectory (files : FileSystem) (path : Path) : Bool :=
  match files.walk .follow path with
  | .ok (.directory _) => true
  | .ok (.entry parent name _) => files.node? (parent ++ [name]) = some .directory
  | .error _ => false

/-- Where writing to a path puts the content. -/
def writeLocation (files : FileSystem) (path : Path) : Except FileFault Location := do
  match ← files.walk .followBare path with
  | .directory _ => .error .isDirectory
  | .entry parent name slash =>
    if slash || files.node? (parent ++ [name]) = some .directory then .error .isDirectory
    else .ok (parent ++ [name])

/-- Creates a file or replaces its content. -/
def write (files : FileSystem) (path : Path) (content : Octets) : Outcome :=
  match files.writeLocation path with
  | .ok location => (.ok (), files.put location (.file content))
  | .error fault => (.error fault, files)

/-- Where a new entry may be made. A slash is allowed behind a directory only. -/
def newLocation (files : FileSystem) (path : Path) (slashAllowed : Bool) :
    Except FileFault Location := do
  match ← files.walk .keep path with
  | .directory _ => .error .alreadyExists
  | .entry parent name slash => match files.node? (parent ++ [name]) with
    | some _ => .error .alreadyExists
    | none => if slash && !slashAllowed then .error .notFound else .ok (parent ++ [name])

def makeDirectory (files : FileSystem) (path : Path) : Outcome :=
  match files.newLocation path true with
  | .ok location => (.ok (), files.put location .directory)
  | .error fault => (.error fault, files)

/-- Makes missing directories, from the deepest existing one down. -/
def makeAll (files : FileSystem) : List Path → Outcome
  | [] => (.ok (), files)
  | path :: rest => match files.makeDirectory path with
    | (.ok (), files) => makeAll files rest
    | (.error fault, files) =>
      if fault = .alreadyExists && files.isDirectory path then makeAll files rest
      else (.error fault, files)

/-- Goes up a list of ancestors until a directory exists or can be made, and comes down again
through those in `missing`. -/
def makeFrom (files : FileSystem) (missing : List Path) : List Path → Outcome
  | [] => files.makeAll missing
  | path :: ancestors =>
    if path.octets = [] then files.makeAll missing
    else match files.makeDirectory path with
      | (.ok (), files) => files.makeAll missing
      | (.error fault, files) =>
        if fault = .notFound then makeFrom files (path :: missing) ancestors
        else if fault = .alreadyExists && files.isDirectory path then files.makeAll missing
        else (.error fault, files)

/-- Makes a directory and those above it that are missing. -/
def makeDirectories (files : FileSystem) (path : Path) : Outcome :=
  files.makeFrom [] path.ancestors

/-- Makes a symbolic link. -/
def makeLink (files : FileSystem) (target path : Path) : Outcome :=
  match pathFault? target with
  | some fault => (.error fault, files)
  | none => match files.newLocation path false with
    | .ok location => (.ok (), files.put location (.link target))
    | .error fault => (.error fault, files)

/-- The file or link at `source` and the location it moves to. -/
def renameEnds (files : FileSystem) (source target : Path) :
    Except FileFault (Location × Node × Location) := do
  match ← files.walk .keep source, ← files.walk .keep target with
  | .entry parent name slash, .entry parent' name' slash' =>
    match files.node? (parent ++ [name]) with
    | none => .error .notFound
    | some .directory => .error .isDirectory
    | some node =>
      if slash || slash' then .error .notDirectory
      else if files.node? (parent' ++ [name']) = some .directory then .error .isDirectory
      else .ok (parent ++ [name], node, parent' ++ [name'])
  | _, _ => .error .busy

/-- Moves a file or a link, replacing what stands at the target unless that is a directory. -/
def rename (files : FileSystem) (source target : Path) : Outcome :=
  match files.renameEnds source target with
  | .ok (old, node, new) => (.ok (), (files.erase old).put new node)
  | .error fault => (.error fault, files)

/-- Removes a directory that has been emptied. Where the path no longer leads anywhere, because it
leads through what stood in the directory, nothing is left to do. -/
def removeEmptied (files : FileSystem) (path : Path) : Outcome :=
  match files.walk .keep path with
  | .error .notFound => (.ok (), files)
  | .error fault => (.error fault, files)
  | .ok (.directory _) => match path.steps.getLast? with
    | some .here => (.error .invalidArgument, files)
    | some .up => (.error .notEmpty, files)
    | _ => (.error .busy, files)
  | .ok (.entry parent name _) => match files.node? (parent ++ [name]) with
    | none => (.ok (), files)
    | some .directory => (.ok (), files.erase (parent ++ [name]))
    | some _ => (.error .notDirectory, files)

/-- Removes an entry. A directory is emptied first, also one that then cannot be removed itself. -/
def remove (files : FileSystem) (path : Path) : Outcome :=
  match files.walk .followSlashed path with
  | .error fault => (.error fault, files)
  | .ok (.directory location) => (files.eraseBelow location).removeEmptied path
  | .ok (.entry parent name slash) => match files.node? (parent ++ [name]) with
    | none => (.error .notFound, files)
    | some .directory => (files.eraseBelow (parent ++ [name])).removeEmptied path
    | some _ =>
      if slash then (.error .notDirectory, files) else (.ok (), files.erase (parent ++ [name]))

/-- The entries below the working directory with their paths from there, in the order of the paths'
octets. -/
def listing (files : FileSystem) : List (Path × Node) :=
  let depth := files.workingDirectory.length
  let below := files.entries.filter fun entry =>
    files.workingDirectory.isPrefixOf entry.1 && depth < entry.1.length
  let named := below.map fun (location, node) =>
    ((⟨[Path.slash].intercalate (location.drop depth)⟩ : Path), node)
  named.mergeSort fun (left, _) (right, _) => decide (left.octets ≤ right.octets)

end WorkflowLaunch.FileSystem
