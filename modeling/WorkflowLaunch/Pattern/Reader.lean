import WorkflowLaunch.Pattern.Bracket
import WorkflowLaunch.Pattern.Matching
import WorkflowLaunch.Text.Alphanumeric

set_option autoImplicit false

/-!
Written patterns: branches between bars, each a row of parts; a part may be repeated. Groups stand
in parentheses and may have a name, which must be new, or flags, which hold up to their end. Only
characters below 128 have cases, named sets and edges of words, so that what asks for them needs
the flag `unicode` to be off.
-/

namespace WorkflowLaunch

/-- Why a written pattern is refused. -/
inductive PatternFault where
  | malformed
  | unicodeWordEdge
  deriving DecidableEq, Repr

def PatternFault.message : PatternFault → String
  | malformed => "error building NFA"
  | unicodeWordEdge =>
    "unsupported regex feature for DFAs: cannot build DFAs for regexes with Unicode word " ++
      "boundaries; switch to ASCII word boundaries, or heuristically enable Unicode word " ++
      "boundaries or use a different regex engine"

namespace Pattern

/-- A part of a row, with the depth to which it is nested. Flags that are set on the way match
nothing and cannot be repeated. -/
structure Part where
  pattern : Pattern
  depth : Nat
  repeatable : Bool
  deriving DecidableEq, Repr

/-- What has been met in a pattern: the flags that hold, the number and the names of groups, and
whether an edge of words was asked for with `unicode`. -/
structure Scope where
  flags : Flags
  groups : Nat
  names : List String
  unicodeWordEdge : Bool
  deriving DecidableEq, Repr

/-- Several things are nested one deeper than the deepest of them, a single one is not. -/
def nestedDepth : List Nat → Nat
  | [] => 0
  | [depth] => depth
  | depths => depths.foldl max 0 + 1

/-- Parts in a row, the last one first. -/
def joinRow (parts : List Part) : Pattern × Nat :=
  (ofRow (parts.reverse.flatMap (·.pattern.row)), nestedDepth (parts.map Part.depth))

/-- Branches, the last one first. -/
def joinBranches (joined : List (Pattern × Nat)) : Pattern × Nat :=
  (factored (joined.reverse.flatMap (·.1.branches)), nestedDepth (joined.map Prod.snd))

/-- A character that stands for itself, in either case where cases do not matter. -/
def ofChar? (flags : Flags) (c : Char) (octet : Bool) : Option CharClass :=
  if flags.unicode then if flags.ignoreCase then none else some (.single c)
  else if octet && 128 ≤ c.toNat then none
  else if flags.ignoreCase then some (.caseless (.single c))
  else some (.single c)

def dot? (flags : Flags) : Option CharClass :=
  if !flags.unicode then none
  else if flags.dotMatchesAll then some .all
  else if flags.carriage then some (.complement (.ranges [('\n', '\n'), ('\r', '\r')]))
  else some (.complement (.single '\n'))

def Token.pattern? (flags : Flags) : Token → Option Pattern
  | literal c octet => (ofChar? flags c octet).map .oneOf
  | named characters negated => (shorthand? flags characters negated).map .oneOf
  | dot => (dot? flags).map .oneOf
  | lineStart =>
    some (.assert (if flags.multiLine then .lineStart flags.carriage else .textStart))
  | lineEnd => some (.assert (if flags.multiLine then .lineEnd flags.carriage else .textEnd))
  | textStart => some (.assert .textStart)
  | textEnd => some (.assert .textEnd)
  | word edge => some (.assert (.word edge))

/-- A token as a part of a row. -/
def Token.part? (scope : Scope) (token : Token) : Option (Part × Scope) := do
  let pattern ← token.pattern? scope.flags
  let asked := match token with
    | word _ => scope.flags.unicode
    | _ => false
  return (⟨pattern, 0, true⟩,
    { scope with unicodeWordEdge := scope.unicodeWordEdge || asked })

/-- Flags up to a colon or a closing parenthesis, of which the answer tells the former. No flag
stands twice, a dash turns off those behind it and is not the last. -/
def readFlags? (flags : Flags) (on : Bool) (seen : List Char) :
    List Char → Option (Flags × Bool × List Char)
  | [] => none
  | c :: rest =>
    if c = ':' || c = ')' then
      if seen.head? = some '-' || (c = ')' && seen.isEmpty) then none
      else some (flags, c == ':', rest)
    else if seen.contains c then none
    else if c = '-' then readFlags? flags false (c :: seen) rest
    else do readFlags? (← flags.set? on c) on (c :: seen) rest

def isNameChar (c : Char) : Bool :=
  c == '_' || c == '.' || c == '[' || c == ']' || Text.isAlphanumeric c

/-- The name of a group, up to the bracket behind it. -/
def readGroupName? (scope : Scope) (text : List Char) : Option (Scope × List Char) :=
  let name := text.takeWhile (· ≠ '>')
  match name, text.drop name.length with
  | first :: others, '>' :: rest =>
    if (first = '_' || Text.isAlphabetic first) && others.all isNameChar &&
        !scope.names.contains (String.ofList name) then
      some ({ scope with names := String.ofList name :: scope.names }, rest)
    else none
  | _, _ => none

/-- What an opening parenthesis begins: a group with a number, one without, or flags for the rest
of the group around. -/
inductive Opening where
  | numbered
  | plain
  | flags
  deriving DecidableEq, Repr

/-- What stands behind an opening parenthesis. -/
def readOpening? (scope : Scope) (text : List Char) : Option (Opening × Scope × List Char) :=
  match skipSpace scope.flags.verbose text with
  | '?' :: 'P' :: '<' :: rest => (readGroupName? scope rest).map fun named => (.numbered, named)
  | '?' :: '<' :: rest => (readGroupName? scope rest).map fun named => (.numbered, named)
  | '?' :: rest =>
    (readFlags? scope.flags true [] rest).map fun (flags, opens, rest) =>
      (if opens then .plain else .flags, { scope with flags := flags }, rest)
  | rest => some (.numbered, scope, rest)

/-- Whether a sign repeats the part before it. -/
def isRepetition (c : Char) : Bool := c == '?' || c == '*' || c == '+'

/-- The last part repeated by a sign, behind which a question mark asks for few rounds. -/
def repeatLast? (flags : Flags) (sign : Char) (parts : List Part) (text : List Char) :
    Option (List Part × List Char) :=
  let (lazy, rest) := match text with
    | '?' :: rest => (true, rest)
    | rest => (false, rest)
  let greedy := lazy == flags.swapGreed
  match parts with
  | [] => none
  | part :: others =>
    let pattern :=
      if sign = '?' then .optional greedy part.pattern
      else .repeated (if sign = '+' then .atLeastOne else .any) greedy part.pattern
    if part.repeatable then some (⟨pattern, part.depth + 1, true⟩ :: others, rest) else none

/-- The branches of a group up to its closing parenthesis, which is not read, or the end. The
branches before and the parts of the present one are kept the last one first. -/
def readGroup? : Nat → Scope → List (Pattern × Nat) → List Part → List Char →
    Option ((Pattern × Nat) × Scope × List Char)
  | 0, _, _, _, _ => none
  | fuel + 1, scope, branches, parts, text =>
    let done (rest : List Char) : Option ((Pattern × Nat) × Scope × List Char) :=
      some (joinBranches (joinRow parts :: branches), scope, rest)
    let token (token : Token) (rest : List Char) :
        Option ((Pattern × Nat) × Scope × List Char) := do
      let (part, scope) ← token.part? scope
      readGroup? fuel scope branches (part :: parts) rest
    match skipSpace scope.flags.verbose text with
    | [] => done []
    | c :: rest => match c with
      | ')' => done (c :: rest)
      | '|' => readGroup? fuel scope (joinRow parts :: branches) [] rest
      | '(' => do
        let (opening, inner, rest) ← readOpening? scope rest
        if opening = .flags then
          readGroup? fuel inner branches (⟨.empty, 0, false⟩ :: parts) rest
        else
          let number := scope.groups + 1
          let inner := if opening = .numbered then { inner with groups := number } else inner
          match ← readGroup? fuel inner [] [] rest with
          | ((pattern, depth), inner, ')' :: rest) =>
            let pattern := if opening = .numbered then .group number pattern else pattern
            readGroup? fuel { inner with flags := scope.flags } branches
              (⟨pattern, depth + 1, true⟩ :: parts) rest
          | _ => none
      | '[' => do
        let (negated, bracket, rest) := readFront scope.flags rest
        let (bracket, rest) ←
          readBracket? scope.flags (rest.length + 1) negated bracket rest
        readGroup? fuel scope branches
          (⟨.oneOf bracket.characters, bracket.depth, true⟩ :: parts) rest
      | '\x7b' => none
      | '\\' => do
        let (escaped, rest) ← readEscape? scope.flags.verbose rest
        token escaped rest
      | '.' => token .dot rest
      | '^' => token .lineStart rest
      | '$' => token .lineEnd rest
      | c =>
        if isRepetition c then do
          let (parts, rest) ← repeatLast? scope.flags c parts rest
          readGroup? fuel scope branches parts rest
        else token (.literal c false) rest

/-- The greatest depth to which the parts of a pattern may be nested. -/
def depthLimit : Nat := 250

def ofText (text : String) : Except PatternFault Pattern :=
  let text := text.toList
  match readGroup? (text.length + 1) ⟨.standard, 0, [], false⟩ [] [] text with
  | some ((pattern, depth), scope, []) =>
    if depthLimit < depth then .error .malformed
    else if scope.unicodeWordEdge then .error .unicodeWordEdge
    else .ok pattern
  | _ => .error .malformed

end Pattern

end WorkflowLaunch
