import WorkflowLaunch.Proofs.Json.Grammar
import WorkflowLaunch.Proofs.Json.Layouts

set_option autoImplicit false

/-!
What is written is in the format. The induction follows a value; the lists and objects inside it are
parts of the same format.
-/

namespace WorkflowLaunch.Json

theorem Writes.content {piece : List Char} {c : Char} (writes : Writes piece c)
    {rest : List Char} (behind : Content rest) : Content (piece ++ rest) := by
  cases writes with
  | plain notQuote notBackslash visible =>
    exact .cons (.plain notQuote notBackslash visible) behind
  | short listed => exact .cons (.short listed) behind
  | unit unit => exact .cons (.unit unit) behind
  | pair _ first second =>
    have pieces := Content.cons (.unit first) (.cons (.unit second) behind)
    simpa using pieces

theorem Spells.content {literal characters : List Char} (spells : Spells literal characters) :
    Content literal := by
  induction spells with
  | nil => exact .nil
  | cons writes _ ih => exact writes.content ih

theorem bare_writeString (text : String) : Bare (writeString text) := by
  have content := (spells_written text.toList).content
  simpa [writeString] using Bare.string content

/-- The digits of a number other than zero do not begin with a zero. -/
theorem toDigits_nonzero {n : Nat} (positive : 0 < n) :
    ∃ first rest, Nat.toDigits 10 n = first :: rest ∧ first ≠ '0' := by
  induction n using Nat.strongRecOn with
  | ind n ih =>
    have digit : ∀ m < 10, 0 < m → Nat.digitChar m ≠ '0' := by decide
    by_cases small : n < 10
    · exact ⟨_, [], Nat.toDigits_of_lt_base small, digit n small positive⟩
    · obtain ⟨first, rest, digits, nonzero⟩ := ih (n / 10) (by omega) (by omega)
      refine ⟨first, rest ++ [(n % 10).digitChar], ?_, nonzero⟩
      rw [Nat.toDigits_of_base_le (by decide) (by omega), digits, List.cons_append]

theorem isDigit_of_mem_toDigits {n : Nat} {c : Char} (member : c ∈ Nat.toDigits 10 n) :
    isDigit c = true := by
  have digit := Nat.isDigit_of_mem_toDigits (by decide) (by decide) member
  simpa [Char.isDigit, isDigit, Char.le_def] using digit

theorem whole_toDigits (n : Nat) : Whole (Nat.toDigits 10 n) := by
  rcases Nat.eq_zero_or_pos n with rfl | positive
  · exact .zero
  · obtain ⟨first, rest, digits, nonzero⟩ := toDigits_nonzero positive
    have all : ∀ c ∈ first :: rest, isDigit c = true :=
      fun c member => isDigit_of_mem_toDigits (n := n) (digits ▸ member)
    rw [digits]
    exact .nonzero (all first List.mem_cons_self) nonzero
      fun c member => all c (List.mem_cons_of_mem first member)

theorem numeral_integerText (value : Int) : Numeral (Value.integerText value) := by
  have digits := whole_toDigits value.natAbs
  unfold Value.integerText
  split
  · have numeral := Numeral.number (by simp : ['-'] ∈ [[], ['-']]) digits .none .none
    simpa using numeral
  · have numeral := Numeral.number (by simp : [] ∈ [[], ['-']]) digits .none .none
    simpa using numeral

theorem keyed_written (key : String) : Keyed .object (writeString key ++ [':']) := by
  have content := (spells_written key.toList).content
  simpa [writeString] using Keyed.member blank_nil content blank_nil

namespace Value

mutual

/-- Every value is written in the format. -/
theorem bare : ∀ value : Value, Bare value.compact
  | null => .word (by simp [compact])
  | bool true => .word (by simp [compact])
  | bool false => .word (by simp [compact])
  | integer value => .number (numeral_integerText value)
  | string text => by
    rw [compact]
    exact bare_writeString text
  | array items => by
    rw [compact]
    rcases parts_items items with rfl | parts
    · exact @Bare.empty .list [] blank_nil
    · exact .filled parts
  | object members => by
    rw [compact]
    rcases parts_members members with rfl | parts
    · exact @Bare.empty .object [] blank_nil
    · exact .filled parts

theorem parts_items : ∀ items : List Value, items = [] ∨ Parts .list (compactItems items)
  | [] => .inl rfl
  | [item] => by
    have last := Parts.last .item blank_nil item.bare blank_nil
    exact .inr (by simpa [compactItems] using last)
  | item :: next :: rest => by
    have parts := (parts_items (next :: rest)).resolve_left (by simp)
    have more := Parts.more .item blank_nil item.bare blank_nil parts
    exact .inr (by simpa [compactItems] using more)

theorem parts_members : ∀ members : List (String × Value),
    members = [] ∨ Parts .object (compactMembers members)
  | [] => .inl rfl
  | [(key, value)] => by
    have last := Parts.last (keyed_written key) blank_nil value.bare blank_nil
    exact .inr (by simpa [compactMembers] using last)
  | (key, value) :: next :: rest => by
    have parts := (parts_members (next :: rest)).resolve_left (by simp)
    have more := Parts.more (keyed_written key) blank_nil value.bare blank_nil parts
    exact .inr (by simpa [compactMembers] using more)

end

theorem wellFormed (value : Value) : WellFormed value.compact := by
  simpa using WellFormed.value blank_nil value.bare blank_nil

end Value

end WorkflowLaunch.Json
