import WorkflowLaunch.Pattern.Basic

set_option autoImplicit false

/-!
Searching a text for a pattern. A search keeps rows of patterns that may still match what follows,
in the order of preference: an earlier start comes first, then what the pattern prefers. A row of
nothing is a match, and ends the rows behind it. A text is accepted if there is a match at the end
of the text, so the preferred match has to be the last thing in it.
-/

namespace WorkflowLaunch.Pattern

/-- What a row may stand for without a character being read, the preferred row first. A repetition
whose rounds always read goes on as it began. -/
def alternatives (place : Place) (row : List Pattern) : List (List Pattern) :=
  let choose (greedy : Bool) (more less : List Pattern) : List (List Pattern) :=
    if greedy then [more, less] else [less, more]
  match row with
  | [] => []
  | oneOf _ :: _ => []
  | empty :: rest => [rest]
  | assert assertion :: rest => if assertion.holds place then [rest] else []
  | seq first second :: rest => [first :: second :: rest]
  | branch preferred other :: rest => [preferred :: rest, other :: rest]
  | group _ inner :: rest => [inner :: rest]
  | optional greedy inner :: rest => choose greedy (inner :: rest) rest
  | repeated rounds greedy inner :: rest =>
    let further := repeated .further greedy inner :: rest
    if rounds = .atLeastOne then [inner :: further]
    else if rounds = .any && inner.alwaysReads then [further]
    else choose greedy (inner :: further) rest

/-- Adds a row and all that it may stand for to the rows met before, which are not looked at again.
The last one met comes first. -/
def meet (place : Place) : Nat → List (List Pattern) → List Pattern → List (List Pattern)
  | 0, met, _ => met
  | fuel + 1, met, row =>
    if row ∈ met then met else (alternatives place row).foldl (meet place fuel) (row :: met)

/-- No more rows than this can be met, as each part of a pattern begins at most two. -/
def meetingLimit (rows : List (List Pattern)) : Nat :=
  rows.foldl (fun limit row => row.foldl (fun limit pattern => limit + 2 * pattern.size) limit) 2

/-- All that some rows may stand for, in the order of preference. -/
def meetAll (place : Place) (rows : List (List Pattern)) : List (List Pattern) :=
  (rows.foldl (meet place (meetingLimit rows)) []).reverse

/-- The row behind a character, if a row reads that. -/
def behind? (c : Char) : List Pattern → Option (List Pattern)
  | oneOf characters :: rest => if characters.contains c then some rest else none
  | _ => none

/-- A search with some rows begun. A new one begins at each place, behind the others, until there
is a match. -/
def search (pattern : Pattern) (searching : Bool) (before : Option Char)
    (begun : List (List Pattern)) (text : List Char) : Bool :=
  let begun := if searching then begun ++ [[pattern]] else begun
  let rows := meetAll ⟨before, text.head?⟩ begun
  match text with
  | [] => rows.contains []
  | c :: rest =>
    search pattern (searching && !rows.contains []) (some c)
      ((rows.takeWhile (· ≠ [])).filterMap (behind? c)) rest

def accepts (pattern : Pattern) (text : String) : Bool := search pattern true none [] text.toList

end WorkflowLaunch.Pattern
