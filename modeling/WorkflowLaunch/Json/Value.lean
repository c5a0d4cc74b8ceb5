import WorkflowLaunch.Json.Literal

set_option autoImplicit false

/-!
JSON values and their two layouts: compact, without any blanks, and pretty, with each item on a
line of its own, two spaces deeper than what holds it. Members keep their order.
-/

namespace WorkflowLaunch.Json

inductive Value where
  | null
  | bool (value : Bool)
  | integer (value : Int)
  | string (text : String)
  | array (items : List Value)
  | object (members : List (String × Value))
  deriving Inhabited

namespace Value

def integerText (value : Int) : List Char :=
  if value < 0 then '-' :: Nat.toDigits 10 value.natAbs else Nat.toDigits 10 value.natAbs

mutual

def compact : Value → List Char
  | null => "null".toList
  | bool true => "true".toList
  | bool false => "false".toList
  | integer value => integerText value
  | string text => writeString text
  | array items => '[' :: compactItems items ++ [']']
  | object members => '{' :: compactMembers members ++ ['}']

def compactItems : List Value → List Char
  | [] => []
  | [item] => compact item
  | item :: rest => compact item ++ ',' :: compactItems rest

def compactMembers : List (String × Value) → List Char
  | [] => []
  | [(key, value)] => writeString key ++ ':' :: compact value
  | (key, value) :: rest => writeString key ++ ':' :: compact value ++ ',' :: compactMembers rest

end

/-- A line break and the indentation of a depth. -/
def newline (depth : Nat) : List Char := '\n' :: List.replicate (2 * depth) ' '

mutual

/-- A value inside `depth` lists and objects. -/
def pretty (depth : Nat) : Value → List Char
  | null => "null".toList
  | bool true => "true".toList
  | bool false => "false".toList
  | integer value => integerText value
  | string text => writeString text
  | array [] => ['[', ']']
  | array (item :: rest) =>
    '[' :: prettyItems (depth + 1) (item :: rest) ++ newline depth ++ [']']
  | object [] => ['{', '}']
  | object (member :: rest) =>
    '{' :: prettyMembers (depth + 1) (member :: rest) ++ newline depth ++ ['}']

def prettyItems (depth : Nat) : List Value → List Char
  | [] => []
  | [item] => newline depth ++ pretty depth item
  | item :: rest => newline depth ++ pretty depth item ++ ',' :: prettyItems depth rest

def prettyMembers (depth : Nat) : List (String × Value) → List Char
  | [] => []
  | [(key, value)] => newline depth ++ writeString key ++ ':' :: ' ' :: pretty depth value
  | (key, value) :: rest =>
    newline depth ++ writeString key ++ ':' :: ' ' :: pretty depth value ++
      ',' :: prettyMembers depth rest

end

end Value

end WorkflowLaunch.Json
