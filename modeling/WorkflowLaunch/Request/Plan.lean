import WorkflowLaunch.Attribute.Declaration
import WorkflowLaunch.Log.Logger
import WorkflowLaunch.Request.Basic

set_option autoImplicit false

/-!
Checking a request. The rules are tried in a fixed order and the first violated one is reported;
the types of attributes are not resolved here.
-/

namespace WorkflowLaunch

open Attribute (Declaration Table)

/-- Where the state of a planned server lives. An ephemeral one carries the path that it does not
use. -/
inductive Persistence where
  | ephemeral (path : Path)
  | file (path : Path)
  deriving DecidableEq

namespace Persistence

def isEphemeral : Persistence → Bool
  | ephemeral _ => true
  | file _ => false

def path : Persistence → Path
  | ephemeral path => path
  | file path => path

end Persistence

structure Plan where
  persistence : Persistence
  port : UInt16
  ip : String
  logFormat : Log.Format
  namespaces : List String
  attributes : Option Table
  deriving DecidableEq

/-- A plan and the declaration that is still to be resolved for it. -/
structure Checked where
  plan : Plan
  declaration : Option Declaration
  deriving DecidableEq

inductive RequestFault where
  | unexpectedWords (words : List String)
  | ephemeralWithFilename
  | unpairedAttributes
  | attributeCountMismatch (names types : Nat)
  | badLogFormat (name : String)
  deriving DecidableEq

def RequestFault.message : RequestFault → String
  | unexpectedWords _ => "ERROR: start command doesn't support arguments."
  | ephemeralWithFilename =>
    "ERROR: only one of \"ephemeral\" or \"filename\" flags may be passed at a time"
  | unpairedAttributes =>
    "ERROR: both \"search-attributes-type\" and \"search-attributes-key\" must be set at the " ++
      "same time, or omitted completely"
  | attributeCountMismatch _ _ =>
    "ERROR: number of search attributes (type/key) in \"search-attributes-type\" and " ++
      "\"search-attributes-key\" must be the same"
  | badLogFormat name => s!"bad value \"{name}\" passed for flag \"log-format\""

def formatNamed (name : String) : Except RequestFault Log.Format :=
  match Log.Format.ofName? name with
  | some format => .ok format
  | none => .error (.badLogFormat name)

namespace Request

/-- The declaration in a request: both lists, of equal length, or neither. -/
def declaration (request : Request) : Except RequestFault (Option Declaration) :=
  let names := request.attributeNames
  let types := request.attributeTypes
  match names.explicit, types.explicit with
  | false, false => .ok none
  | true, true =>
    if names.value.length = types.value.length then .ok (some ⟨names.value, types.value⟩)
    else .error (.attributeCountMismatch names.value.length types.value.length)
  | _, _ => .error .unpairedAttributes

def persistence (request : Request) : Persistence :=
  if request.ephemeral.value then .ephemeral request.filename.value
  else .file request.filename.value

def check (request : Request) : Except RequestFault Checked :=
  if request.words ≠ [] then .error (.unexpectedWords request.words)
  else if request.ephemeral.explicit && request.filename.explicit then
    .error .ephemeralWithFilename
  else do
    let declaration ← request.declaration
    let logFormat ← formatNamed request.logFormat.value
    return {
      plan := {
        persistence := request.persistence
        port := request.port.value
        ip := request.ip.value
        logFormat := logFormat
        namespaces := request.namespaces.value
        attributes := none }
      declaration := declaration }

end Request

end WorkflowLaunch
