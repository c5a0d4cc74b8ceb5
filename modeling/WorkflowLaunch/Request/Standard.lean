import WorkflowLaunch.Path

set_option autoImplicit false

/-!
The values that hold where a request gives none. The database file stands in the user's cache
directory.
-/

namespace WorkflowLaunch

structure Standard where
  ephemeral : Bool
  databaseFile : Path
  port : UInt16
  ip : String
  logFormat : String
  deriving DecidableEq

namespace Standard

/-- The cache directory: the one that is named, if its path is absolute, or else the one in the
home directory. -/
def cacheDirectory? (home cache : Option Path) : Option Path :=
  match cache.filter Path.isAbsolute with
  | some path => some path
  | none => home.map (·.join (.ofString ".cache"))

def databaseFileIn (home cache : Option Path) : Path :=
  match cacheDirectory? home cache with
  | some directory =>
    ((directory.join (.ofString "workflow-lite")).join (.ofString "db")).join
      (.ofString "default.db")
  | none => .ofString "workflow-lite.db"

def ofEnvironment (home cache : Option Path) : Standard :=
  ⟨false, databaseFileIn home cache, 7233, "127.0.0.1", "json"⟩

end Standard

end WorkflowLaunch
