import WorkflowLaunch.Catalog.Encoding
import WorkflowLaunch.Json.Reader

set_option autoImplicit false

/-!
Reading a catalog. Its two members may come in any order and may be missing; other members are
passed over; a repeated one of the two is refused. A list of up to two elements stands for the
members in their order.
-/

namespace WorkflowLaunch.Catalog

open Json
open Attribute (ValueType Table)

def readNamespaces (text : List Char) : Except Fault (Front (List String)) :=
  readList (readText "a string") text

def typeNamed (name : String) (rest : List Char) : Except Fault (Front ValueType) :=
  match ValueType.ofName? name with
  | some type => .ok (type, rest)
  | none => .error (.before (.unknownVariant name (ValueType.all.map ValueType.name)) rest)

/-- The null behind the name of a type in an object. -/
def readNull (text : List Char) : Except Fault (List Char) :=
  match skipBlanks text with
  | 'n' :: rest => readWord ['u', 'l', 'l'] rest
  | rest => .error (wrongKind "unit" rest)

/-- The one key of an object that stands for a type. -/
def readKey (text : List Char) : Except Fault (Front String) :=
  match skipBlanks text with
  | '"' :: rest => readString rest
  | [] => .error (.within .endInObject [])
  | '}' :: rest => .error (.within .expectedValue ('}' :: rest))
  | rest => .error (.within .keyNotString rest)

/-- A type: its name, or an object that sends its name to null. -/
def readType (text : List Char) : Except Fault (Front ValueType) :=
  match skipBlanks text with
  | [] => .error (.within .endInValue [])
  | '"' :: rest => do
    let (name, rest) ← readString rest
    typeNamed name rest
  | '{' :: rest => do
    let (name, rest) ← readKey rest
    let (type, rest) ← typeNamed name rest
    match skipBlanks (← readNull (← readColon rest)) with
    | '}' :: rest => return (type, rest)
    | [] => .error (.before .endInObject [])
    | rest => .error (.before .expectedValue rest)
  | rest => .error (.within .expectedValue rest)

/-- An attribute behind its name. Of one name, the last type counts. -/
def readAttribute (table : Table) (name : String) (text : List Char) :
    Except Fault (Front Table) := do
  let (type, rest) ← readType (← readColon text)
  return (table.insert name type, rest)

def readAttributes (text : List Char) : Except Fault (Front Table) :=
  match skipBlanks text with
  | '{' :: rest => readObject readAttribute ∅ rest
  | rest => .error (wrongKind "a map" rest)

/-- The members read so far. -/
structure Members where
  namespaces : Option (List String)
  attributes : Option Table

def Members.catalog (members : Members) : Catalog :=
  ⟨members.namespaces.getD [], members.attributes.getD ∅⟩

/-- A repeated member is reported behind its key, the blanks there and a closing brace. -/
def repeated (key : String) (rest : List Char) : Fault :=
  match skipBlanks rest with
  | '}' :: rest => .before (.duplicateMember key) rest
  | rest => .before (.duplicateMember key) rest

def readMember (members : Members) (key : String) (text : List Char) :
    Except Fault (Front Members) := do
  if key = namespacesKey then
    if members.namespaces.isSome then .error (repeated key text)
    else
      let (namespaces, rest) ← readNamespaces (← readColon text)
      return ({ members with namespaces := some namespaces }, rest)
  else if key = attributesKey then
    if members.attributes.isSome then .error (repeated key text)
    else
      let (attributes, rest) ← readAttributes (← readColon text)
      return ({ members with attributes := some attributes }, rest)
  else return (members, ← skipValue (← readColon text))

/-- The end of the list that stands for a catalog. -/
def readListEnd (text : List Char) : Except Fault (List Char) :=
  match skipBlanks text with
  | [] => .error (.within .endInList [])
  | ']' :: rest => .ok rest
  | ',' :: rest => match skipBlanks rest with
    | ']' :: rest => .error (.within .trailingComma (']' :: rest))
    | rest => .error (.within .trailingCharacters rest)
  | rest => .error (.within .trailingCharacters rest)

/-- Whether another element follows in the list, and the text it begins with. -/
def nextElement? (first : Bool) (text : List Char) : Except Fault (Option (List Char)) :=
  match skipBlanks text with
  | [] => .error (.within .endInList [])
  | ']' :: _ => .ok none
  | c :: rest =>
    if first then .ok (some (c :: rest))
    else if c = ',' then
      match skipBlanks rest with
      | [] => .error (.within .endInValue [])
      | ']' :: rest => .error (.within .trailingComma (']' :: rest))
      | rest => .ok (some rest)
    else .error (.within .expectedListSeparator (c :: rest))

/-- The elements of a list that stands for a catalog. -/
def readPositional (text : List Char) : Except Fault (Front Catalog) := do
  match ← nextElement? true text with
  | none => return (∅, ← readListEnd text)
  | some rest =>
    let (namespaces, rest) ← readNamespaces rest
    match ← nextElement? false rest with
    | none => return (⟨namespaces, ∅⟩, ← readListEnd rest)
    | some rest =>
      let (attributes, rest) ← readAttributes rest
      return (⟨namespaces, attributes⟩, ← readListEnd rest)

def readCatalog (text : List Char) : Except Fault (Front Catalog) :=
  match skipBlanks text with
  | '{' :: rest => do
    let (members, rest) ← readObject readMember ⟨none, none⟩ rest
    return (members.catalog, rest)
  | '[' :: rest => readPositional rest
  | rest => .error (wrongKind "struct Catalog" rest)

/-- A catalog and nothing but blanks around it. -/
def read (text : List Char) : Except Fault Catalog := do
  let (catalog, rest) ← readCatalog text
  match skipBlanks rest with
  | [] => return catalog
  | rest => .error (.within .trailingCharacters rest)

def decode (text : String) : Except Rejection Catalog :=
  (read text.toList).mapError (·.locate text)

end WorkflowLaunch.Catalog
