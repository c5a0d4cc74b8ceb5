import WorkflowLaunch.Catalog.Decoding
import WorkflowLaunch.FileSystem.Calls
import WorkflowLaunch.Text.Blank

set_option autoImplicit false

/-!
A catalog and the file it is kept in, if any. Opening only reads, apart from making missing parent
directories. Flushing writes a sibling file and moves it over the catalog, so that the file always
holds one whole catalog.
-/

namespace WorkflowLaunch

/-- Where a server keeps its state. -/
inductive Storage where
  | memory
  | file (path : Path)
  deriving DecidableEq

inductive StoreFault where
  | access (path : Path) (cause : FileFault)
  | corrupt (path : Path) (rejection : Json.Rejection)
  | conflict (details : AttributeConflict)
  deriving DecidableEq

def StoreFault.message : StoreFault → String
  | access path cause => s!"unable to access database file {path.display}: {cause.message}"
  | corrupt path rejection => s!"database file {path.display} is corrupt: {rejection.message}"
  | conflict details => details.message

structure Store where
  path : Option Path
  catalog : Catalog
  deriving DecidableEq

namespace Store

def isEphemeral (store : Store) : Bool := store.path.isNone

/-- The catalog that a file's text stands for; a blank one stands for an empty catalog. -/
def catalogOf (path : Path) (text : String) : Except StoreFault Catalog :=
  if Text.blank text then .ok ∅ else (Catalog.decode text).mapError (.corrupt path)

/-- The catalog at a path; a missing file stands for an empty catalog. -/
def load (files : FileSystem) (path : Path) : Except StoreFault Catalog :=
  match files.readText path with
  | .ok text => catalogOf path text
  | .error .notFound => .ok ∅
  | .error fault => .error (.access path fault)

/-- Makes the directories above a path, if it names any. -/
def makeParents (files : FileSystem) (path : Path) : FileSystem.Outcome :=
  match path.parent? with
  | some parent => if parent.octets = [] then (.ok (), files) else files.makeDirectories parent
  | none => (.ok (), files)

def openFile (files : FileSystem) (path : Path) : Except StoreFault Store × FileSystem :=
  match makeParents files path with
  | (.error fault, files) => (.error (.access path fault), files)
  | (.ok (), files) => match load files path with
    | .ok catalog => (.ok ⟨some path, catalog⟩, files)
    | .error fault => (.error fault, files)

def openAt (files : FileSystem) : Storage → Except StoreFault Store × FileSystem
  | .memory => (.ok ⟨none, ∅⟩, files)
  | .file path => openFile files path

/-- The path's whole file name with `.tmp` behind it, in the same directory, so that two catalogs
never share one. -/
def temporaryPath (path : Path) : Path :=
  path.withFileName (path.fileName?.getD [] ++ Octets.ofString ".tmp")

/-- Writes a catalog to a path through its temporary sibling. -/
def save (files : FileSystem) (path : Path) (catalog : Catalog) :
    Except StoreFault Unit × FileSystem :=
  match files.write (temporaryPath path) (Octets.ofString catalog.encodePretty) with
  | (.error fault, files) => (.error (.access path fault), files)
  | (.ok (), files) => match files.rename (temporaryPath path) path with
    | (.error fault, files) => (.error (.access path fault), files)
    | (.ok (), files) => (.ok (), files)

/-- Writes the catalog to its file. A store without a file has nothing to write. -/
def flush (files : FileSystem) (store : Store) : Except StoreFault Unit × FileSystem :=
  match store.path with
  | none => (.ok (), files)
  | some path => save files path store.catalog

end Store

end WorkflowLaunch
