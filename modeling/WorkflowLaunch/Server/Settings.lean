import WorkflowLaunch.Interrupt
import WorkflowLaunch.Log.Logger
import WorkflowLaunch.Request.Standard
import WorkflowLaunch.Store

set_option autoImplicit false

/-!
What a server is built from, and the directives that the settings are folded from. Directives apply
in order: most overwrite one setting, namespaces are appended, attributes are merged.
-/

namespace WorkflowLaunch

open Attribute (Table)

/-- Settings of a server. Without a logger it writes JSON, without a hook it makes its own. -/
structure Settings where
  port : UInt16
  ip : String
  storage : Storage
  namespaces : List String
  attributes : Table
  logger : Option Log.Logger
  interrupt : Option Hook
  deriving DecidableEq

inductive Directive where
  | port (port : UInt16)
  | ip (text : String)
  | databaseFile (path : Path)
  | namespaces (names : List String)
  | persistenceDisabled
  | attributes (table : Table)
  | logger (logger : Log.Logger)
  | interrupt (hook : Hook)
  deriving DecidableEq

namespace Settings

/-- The settings of a server for which no directive was given. -/
def standard (standard : Standard) : Settings :=
  ⟨standard.port, standard.ip, .file standard.databaseFile, [], ∅, none, none⟩

def apply (settings : Settings) : Directive → Settings
  | .port port => { settings with port := port }
  | .ip text => { settings with ip := text }
  | .databaseFile path => { settings with storage := .file path }
  | .namespaces names => { settings with namespaces := settings.namespaces ++ names }
  | .persistenceDisabled => { settings with storage := .memory }
  | .attributes table =>
    { settings with attributes := settings.attributes.insertAll table.entries }
  | .logger logger => { settings with logger := some logger }
  | .interrupt hook => { settings with interrupt := some hook }

end Settings

/-- Directives in the order in which they apply. -/
structure DirectiveSet where
  toList : List Directive
  deriving DecidableEq

namespace DirectiveSet

def empty : DirectiveSet := ⟨[]⟩

def push (set : DirectiveSet) (directive : Directive) : DirectiveSet := ⟨set.toList ++ [directive]⟩

def ofList (directives : List Directive) : DirectiveSet := ⟨directives⟩

def size (set : DirectiveSet) : Nat := set.toList.length

def isEmpty (set : DirectiveSet) : Bool := set.toList.isEmpty

/-- The settings after each directive. -/
def course (settings : Settings) : List Directive → List Settings
  | [] => []
  | directive :: rest => settings.apply directive :: course (settings.apply directive) rest

def settings (set : DirectiveSet) (standard : Settings) : Settings :=
  set.toList.foldl Settings.apply standard

end DirectiveSet

end WorkflowLaunch
