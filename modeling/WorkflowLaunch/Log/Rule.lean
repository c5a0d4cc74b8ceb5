import WorkflowLaunch.Decimal.Notation
import WorkflowLaunch.Log.Level
import WorkflowLaunch.Pattern.Basic

set_option autoImplicit false

/-!
A rule of a log filter: up to which level the events of a target, a span or a field are let
through. Rules are tried from the most specific to the least.
-/

namespace WorkflowLaunch.Log

/-- The value that a rule asks of a field. -/
inductive FieldValue where
  | flag (value : Bool)
  | real (value : Decimal.Real)
  | natural (value : Nat)
  | integer (value : Int)
  | pattern (text : String) (pattern : Pattern)
  deriving DecidableEq, Repr

def FieldValue.text : FieldValue → String
  | flag value => toString value
  | real value => value.text
  | natural value => toString value
  | integer value => toString value
  | pattern text _ => text

structure FieldTest where
  name : String
  value : Option FieldValue
  deriving DecidableEq, Repr

def FieldTest.text (test : FieldTest) : String :=
  match test.value with
  | none => test.name
  | some value => test.name ++ "=" ++ value.text

structure Rule where
  target : Option String
  span : Option String
  field : Option FieldTest
  limit : Limit
  deriving DecidableEq, Repr

namespace Rule

def text (rule : Rule) : String :=
  let field := match rule.field with
    | none => ""
    | some test => "\x7b" ++ test.text ++ "\x7d"
  let scope :=
    if rule.span.isSome || rule.field.isSome then "[" ++ rule.span.getD "" ++ field ++ "]" else ""
  let subject := rule.target.getD "" ++ scope
  if rule.target.isNone && scope.isEmpty then rule.limit.name
  else subject ++ "=" ++ rule.limit.name

/-- Whether the rule depends on the span that an event happens in. -/
def isScoped (rule : Rule) : Bool := rule.span.isSome || rule.field.isSome

def hasValue (rule : Rule) : Bool := (rule.field.bind FieldTest.value).isSome

/-- The rule as one on events alone, if it asks for no span and no value. -/
def unscoped? (rule : Rule) : Option Rule :=
  if rule.span.isNone && !rule.hasValue then some rule else none

/-- How much two values differ in order, the magnitude of a finite number being a quotient. -/
def compareMagnitudes : Decimal.Binary64 → Decimal.Binary64 → Ordering
  | .infinite, .infinite => .eq
  | .infinite, _ => .gt
  | _, .infinite => .lt
  | .finite m q, .finite n r =>
    let (a, b) := Decimal.Binary64.fraction m q
    let (c, d) := Decimal.Binary64.fraction n r
    compare (a * d) (c * b)

def compareReals : Decimal.Real → Decimal.Real → Ordering
  | .nan, .nan => .eq
  | .nan, _ => .gt
  | _, .nan => .lt
  | .signed true left, .signed true right => compareMagnitudes right left
  | .signed false left, .signed false right => compareMagnitudes left right
  | .signed true left, .signed false right =>
    if left = .zero && right = .zero then .eq else .lt
  | .signed false left, .signed true right =>
    if left = .zero && right = .zero then .eq else .gt

def kindRank : FieldValue → Nat
  | .flag _ => 0
  | .real _ => 1
  | .natural _ => 2
  | .integer _ => 3
  | .pattern .. => 4

def compareValues : FieldValue → FieldValue → Ordering
  | .flag left, .flag right => compare left.toNat right.toNat
  | .real left, .real right => compareReals left right
  | .natural left, .natural right => compare left right
  | .integer left, .integer right => compare left right
  | .pattern left _, .pattern right _ => compare left right
  | left, right => compare (kindRank left) (kindRank right)

def compareOptions {α : Type} (order : α → α → Ordering) : Option α → Option α → Ordering
  | none, none => .eq
  | none, some _ => .lt
  | some _, none => .gt
  | some left, some right => order left right

/-- Tests with a value come after those without; then the name and the value decide. -/
def compareTests (left right : FieldTest) : Ordering :=
  (compare left.value.isSome.toNat right.value.isSome.toNat).then
    ((compare left.name right.name).then (compareOptions compareValues left.value right.value))

/-- How specific a rule is: the length of its target in octets, a span, a field; then the texts. -/
def specificity (left right : Rule) : Ordering :=
  (compareOptions compare (left.target.map String.utf8ByteSize)
      (right.target.map String.utf8ByteSize)).then <|
    (compare left.span.isSome.toNat right.span.isSome.toNat).then <|
    (compare left.field.isSome.toNat right.field.isSome.toNat).then <|
    (compareOptions compare left.target right.target).then <|
    (compareOptions compare left.span right.span).then <|
    compareOptions compareTests left.field right.field

/-- Puts a rule in its place, the most specific first, replacing one that asks for the same. -/
def place (rule : Rule) : List Rule → List Rule
  | [] => [rule]
  | head :: rest => match specificity rule head with
    | .gt => rule :: head :: rest
    | .eq => rule :: rest
    | .lt => head :: place rule rest

/-- Places rules from left to right. -/
def ordered (rules : List Rule) : List Rule := rules.foldl (fun placed rule => rule.place placed) []

end Rule

end WorkflowLaunch.Log
