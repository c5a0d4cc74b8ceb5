import WorkflowLaunch.Pattern.Escape

set_option autoImplicit false

/-!
Sets of characters in square brackets: characters, ranges, named sets and sets in brackets of their
own, joined, and the joined sets combined from left to right by `&&`, `--` and `~~`.
-/

namespace WorkflowLaunch.Pattern

/-- A set as it was written, with the depth to which it is nested. -/
structure Bracket where
  characters : CharClass
  depth : Nat
  deriving DecidableEq, Repr

inductive SetOperation where
  | intersection
  | difference
  | symmetricDifference
  deriving DecidableEq, Repr

def SetOperation.apply : SetOperation → CharClass → CharClass → CharClass
  | intersection => .intersection
  | difference => .difference
  | symmetricDifference => .symmetricDifference

/-- What was read of a set: the items since the last operation, their number and greatest depth,
and what that operation is to be applied to. -/
structure OpenBracket where
  items : CharClass
  count : Nat
  depth : Nat
  operand : Option (SetOperation × Bracket)
  deriving DecidableEq, Repr

namespace OpenBracket

def start : OpenBracket := ⟨.empty, 0, 0, none⟩

def add (bracket : OpenBracket) (item : Bracket) : OpenBracket :=
  { bracket with
    items := .union bracket.items item.characters
    count := bracket.count + 1
    depth := max bracket.depth item.depth }

def addChar (bracket : OpenBracket) (c : Char) : OpenBracket := bracket.add ⟨.single c, 0⟩

/-- The set that was read. Cases are joined in every operand. -/
def joined (bracket : OpenBracket) (ignoreCase : Bool) : Bracket :=
  let items := if ignoreCase then .caseless bracket.items else bracket.items
  let depth := if bracket.count ≤ 1 then bracket.depth else bracket.depth + 1
  match bracket.operand with
  | none => ⟨items, depth⟩
  | some (operation, left) => ⟨operation.apply left.characters items, max left.depth depth + 1⟩

/-- Goes on behind an operation. -/
def operate (bracket : OpenBracket) (ignoreCase : Bool) (operation : SetOperation) : OpenBracket :=
  { start with operand := some (operation, bracket.joined ignoreCase) }

end OpenBracket

/-- The character that a token stands for in a set. Cases are known below 128 only, and so are
characters without `unicode`. -/
def Token.member? (flags : Flags) : Token → Option Char
  | literal c _ =>
    if flags.unicode then if flags.ignoreCase then none else some c
    else if c.toNat < 128 then some c
    else none
  | _ => none

/-- What is left out of a set: without `unicode` nothing can be. -/
def negate? (flags : Flags) (negated : Bool) (characters : CharClass) : Option CharClass :=
  if !negated then some characters
  else if flags.unicode then some (.complement characters)
  else none

/-- A set that a backslash and a letter name. With `unicode` there is none. -/
def shorthand? (flags : Flags) (characters : CharClass) (negated : Bool) : Option CharClass :=
  if flags.unicode then none else negate? flags negated characters

/-- The name of a set between `[:` and `:]`, and whether a caret in front negates it. -/
def readName? (text : List Char) : Option (CharClass × Bool × List Char) :=
  match text with
  | ':' :: text =>
    let (negated, text) := match text with
      | '^' :: rest => (true, rest)
      | rest => (false, rest)
    let name := text.takeWhile (· ≠ ':')
    match text.drop name.length with
    | ':' :: ']' :: rest =>
      (CharClass.ofName? (String.ofList name)).map fun characters => (characters, negated, rest)
    | _ => none
  | _ => none

/-- A character of a set or what a backslash makes of it. -/
def readToken? (flags : Flags) : List Char → Option (Token × List Char)
  | [] => none
  | '\\' :: rest => readEscape? flags.verbose rest
  | c :: rest => some (.literal c false, rest)

/-- What a dash is followed by, for the question whether it makes a range. A mark of a comment is
passed over, the comment behind it is not. -/
def behindDash (flags : Flags) (text : List Char) : Option Char :=
  if flags.verbose then
    match text.dropWhile Text.isBlank with
    | '#' :: rest => (rest.dropWhile Text.isBlank).head?
    | rest => rest.head?
  else text.head?

/-- A character, a range or a named set. -/
def readItem? (flags : Flags) (text : List Char) : Option (CharClass × List Char) := do
  let (first, rest) ← readToken? flags text
  let alone : Option (CharClass × List Char) := match first with
    | .named characters negated => do return (← shorthand? flags characters negated, rest)
    | token => do return (.single (← token.member? flags), rest)
  match skipSpace flags.verbose rest with
  | [] => none
  | '-' :: behind =>
    if behindDash flags behind = some ']' || behindDash flags behind = some '-' then alone
    else do
      let (last, rest) ← readToken? flags (skipSpace flags.verbose behind)
      let first ← first.member? flags
      let last ← last.member? flags
      if first ≤ last then some (.ranges [(first, last)], rest) else none
  | _ => alone

/-- Dashes in front of a set stand for themselves. -/
def readDashes (flags : Flags) : Nat → OpenBracket → List Char → OpenBracket × List Char
  | fuel + 1, bracket, '-' :: rest =>
    readDashes flags fuel (bracket.addChar '-') (skipSpace flags.verbose rest)
  | _, bracket, text => (bracket, text)

/-- What may stand behind an opening bracket only: a caret, dashes, a closing bracket that stands
for itself. -/
def readFront (flags : Flags) (text : List Char) : Bool × OpenBracket × List Char :=
  let text := skipSpace flags.verbose text
  let (negated, text) := match text with
    | '^' :: rest => (true, skipSpace flags.verbose rest)
    | text => (false, text)
  let (bracket, text) := readDashes flags text.length .start text
  match bracket.count, text with
  | 0, ']' :: rest => (negated, bracket.addChar ']', skipSpace flags.verbose rest)
  | _, text => (negated, bracket, text)

/-- The rest of a set up to its closing bracket, which is read. -/
def readBracket? (flags : Flags) :
    Nat → (negated : Bool) → OpenBracket → List Char → Option (Bracket × List Char)
  | 0, _, _, _ => none
  | fuel + 1, negated, bracket, text =>
    let operate (operation : SetOperation) (rest : List Char) : Option (Bracket × List Char) :=
      readBracket? flags fuel negated (bracket.operate flags.ignoreCase operation) rest
    match skipSpace flags.verbose text with
    | [] => none
    | ']' :: rest => do
      let joined := bracket.joined flags.ignoreCase
      return (⟨← negate? flags negated joined.characters, joined.depth + 1⟩, rest)
    | '[' :: rest => match readName? rest with
      | some (characters, inverted, rest) =>
        if flags.unicode && flags.ignoreCase then none
        else do
          let characters ← negate? flags inverted characters
          readBracket? flags fuel negated (bracket.add ⟨characters, 0⟩) rest
      | none => do
        let (inverted, inner, rest) := readFront flags rest
        let (inner, rest) ← readBracket? flags fuel inverted inner rest
        readBracket? flags fuel negated (bracket.add inner) rest
    | '&' :: '&' :: rest => operate .intersection rest
    | '-' :: '-' :: rest => operate .difference rest
    | '~' :: '~' :: rest => operate .symmetricDifference rest
    | text => do
      let (item, rest) ← readItem? flags text
      readBracket? flags fuel negated (bracket.add ⟨item, 0⟩) rest

end WorkflowLaunch.Pattern
