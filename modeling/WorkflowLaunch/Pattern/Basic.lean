import WorkflowLaunch.Pattern.CharClass

set_option autoImplicit false

/-!
Patterns of text. A pattern says which texts match and, where several matches are possible, which
one is preferred: of two branches the first, of a repetition more rounds or, if it is a lazy one,
fewer.
-/

namespace WorkflowLaunch

/-- Whether a place is the edge of a word: either edge, none, the start, the end. -/
inductive WordEdge where
  | either
  | neither
  | start
  | finish
  deriving DecidableEq, Repr

/-- What a pattern asks of a place in a text. Lines end in front of a line feed or, if `carriage`
holds, of a carriage return too, of which a line feed behind it is a part. -/
inductive Assertion where
  | textStart
  | textEnd
  | lineStart (carriage : Bool)
  | lineEnd (carriage : Bool)
  | word (edge : WordEdge)
  deriving DecidableEq, Repr

/-- Which rounds of a repetition are meant: any number, at least one, or any number behind one that
was made. -/
inductive Rounds where
  | any
  | atLeastOne
  | further
  deriving DecidableEq, Repr

inductive Pattern where
  | empty
  | oneOf (characters : CharClass)
  | assert (assertion : Assertion)
  | seq (first second : Pattern)
  | branch (preferred other : Pattern)
  | group (number : Nat) (inner : Pattern)
  | optional (greedy : Bool) (inner : Pattern)
  | repeated (rounds : Rounds) (greedy : Bool) (inner : Pattern)
  deriving DecidableEq, Repr

namespace Pattern

/-- Whether every match reads a character. -/
def alwaysReads : Pattern → Bool
  | empty | assert _ | optional .. => false
  | oneOf _ => true
  | seq first second => first.alwaysReads || second.alwaysReads
  | branch preferred other => preferred.alwaysReads && other.alwaysReads
  | group _ inner => inner.alwaysReads
  | repeated rounds _ inner => rounds = .atLeastOne && inner.alwaysReads

/-- The number of parts of a pattern. -/
def size : Pattern → Nat
  | empty | oneOf _ | assert _ => 1
  | seq first second => first.size + second.size + 1
  | branch preferred other => preferred.size + other.size + 1
  | group _ inner | optional _ inner | repeated _ _ inner => inner.size + 1

/-- The parts of a row. A row of nothing has none. -/
def row : Pattern → List Pattern
  | empty => []
  | seq first second => first.row ++ second.row
  | pattern => [pattern]

/-- Patterns in a row. -/
def ofRow : List Pattern → Pattern
  | [] => empty
  | [pattern] => pattern
  | pattern :: rest => seq pattern (ofRow rest)

/-- The branches of a pattern, branches within a branch included. -/
def branches : Pattern → List Pattern
  | branch preferred other => preferred.branches ++ other.branches
  | pattern => [pattern]

/-- What two lists begin with in common. -/
def commonFront {α : Type} [DecidableEq α] : List α → List α → List α
  | a :: as, b :: bs => if a = b then a :: commonFront as bs else []
  | _, _ => []

/-- What all rows begin with, if every branch is a row of several parts. -/
def sharedFront : List Pattern → List Pattern
  | [] => []
  | first :: others =>
    if (first :: others).all (2 ≤ ·.row.length) then
      others.foldl (fun front branch => commonFront front branch.row) first.row
    else []

/-- Branches side by side. -/
def ofBranches : List Pattern → Pattern
  | [] => empty
  | [pattern] => pattern
  | pattern :: rest => branch pattern (ofBranches rest)

/-- Branches side by side, behind what all of them begin with. Which branch is taken is then decided
behind the common front, and what the front prefers counts first. -/
def factored (patterns : List Pattern) : Pattern :=
  match patterns with
  | [pattern] => pattern
  | patterns =>
    let front := sharedFront patterns
    if front = [] then ofBranches patterns
    else ofRow (front ++ (ofBranches (patterns.map fun pattern =>
      ofRow (pattern.row.drop front.length))).row)

end Pattern

/-- A place in a text, by the characters before and behind it. -/
structure Place where
  before : Option Char
  behind : Option Char
  deriving DecidableEq, Repr

def WordEdge.holds (edge : WordEdge) (place : Place) : Bool :=
  let left := place.before.any CharClass.word.contains
  let right := place.behind.any CharClass.word.contains
  match edge with
  | either => left != right
  | neither => left == right
  | start => !left && right
  | finish => left && !right

def Assertion.holds (assertion : Assertion) (place : Place) : Bool :=
  match assertion with
  | textStart => place.before.isNone
  | textEnd => place.behind.isNone
  | lineStart false => place.before.all (· == '\n')
  | lineStart true =>
    place.before.all (· == '\n') || (place.before == some '\r' && place.behind != some '\n')
  | lineEnd false => place.behind.all (· == '\n')
  | lineEnd true =>
    place.behind.all (· == '\r') || (place.behind == some '\n' && place.before != some '\r')
  | word edge => edge.holds place

end WorkflowLaunch
