set_option autoImplicit false

/-!
Sets of characters, built from ranges by the operations on sets. The named ones hold characters
below 128 only.
-/

namespace WorkflowLaunch

inductive CharClass where
  | ranges (bounds : List (Char × Char))
  | union (left right : CharClass)
  | intersection (left right : CharClass)
  | difference (left right : CharClass)
  | symmetricDifference (left right : CharClass)
  | complement (inner : CharClass)
  | caseless (inner : CharClass)
  deriving DecidableEq, Repr

namespace CharClass

/-- The other case of a letter below 128; any other character as it is. -/
def otherCase (c : Char) : Char := if c.isUpper then c.toLower else c.toUpper

def contains : CharClass → Char → Bool
  | ranges bounds, c => bounds.any fun (first, last) => first ≤ c && c ≤ last
  | union left right, c => left.contains c || right.contains c
  | intersection left right, c => left.contains c && right.contains c
  | difference left right, c => left.contains c && !right.contains c
  | symmetricDifference left right, c => left.contains c != right.contains c
  | complement inner, c => !inner.contains c
  | caseless inner, c => inner.contains c || inner.contains (otherCase c)

def empty : CharClass := ranges []

def single (c : Char) : CharClass := ranges [(c, c)]

def all : CharClass := complement empty

def digit : CharClass := ranges [('0', '9')]

def space : CharClass := ranges [('\t', '\r'), (' ', ' ')]

/-- Characters of words, between which and all others words begin and end. -/
def word : CharClass := ranges [('0', '9'), ('A', 'Z'), ('_', '_'), ('a', 'z')]

/-- A set by the name that stands between colons. -/
def ofName? (name : String) : Option CharClass :=
  match name with
  | "alnum" => some (ranges [('0', '9'), ('A', 'Z'), ('a', 'z')])
  | "alpha" => some (ranges [('A', 'Z'), ('a', 'z')])
  | "ascii" => some (ranges [('\x00', '\x7f')])
  | "blank" => some (ranges [('\t', '\t'), (' ', ' ')])
  | "cntrl" => some (ranges [('\x00', '\x1f'), ('\x7f', '\x7f')])
  | "digit" => some digit
  | "graph" => some (ranges [('!', '~')])
  | "lower" => some (ranges [('a', 'z')])
  | "print" => some (ranges [(' ', '~')])
  | "punct" => some (ranges [('!', '/'), (':', '@'), ('[', Char.ofNat 96), ('\x7b', '~')])
  | "space" => some space
  | "upper" => some (ranges [('A', 'Z')])
  | "word" => some word
  | "xdigit" => some (ranges [('0', '9'), ('A', 'F'), ('a', 'f')])
  | _ => none

end CharClass

end WorkflowLaunch
