import WorkflowLaunch.Json.Reader
import WorkflowLaunch.Proofs.Checks
import WorkflowLaunch.Proofs.Json.Layouts
import WorkflowLaunch.Proofs.Json.Skipping

set_option autoImplicit false

/-!
How much of a text a reader takes. A reader that expects a certain value and finds it stops where
passing over the value stops, so the end of a value does not depend on what reads it.
-/

namespace WorkflowLaunch.Json

variable {text rest : List Char}

section Strings

theorem readUnit_shorter {code : Nat} (read : readUnit text = .ok (code, rest)) :
    rest.length < text.length := by
  simp only [readUnit] at read
  split at read
  · split at read
    · obtain ⟨_, rfl⟩ := Prod.mk.inj (Except.ok.inj read)
      simp only [List.length_cons]
      omega
    · simp at read
  · simp at read

theorem skipEscape_shorter (skipped : skipEscape text = .ok rest) : rest.length < text.length := by
  unfold skipEscape at skipped
  split at skipped
  · simp at skipped
  · next digits =>
    cases read : readUnit digits with
    | error fault => simp [read, Except.map] at skipped
    | ok front =>
      obtain rfl : front.2 = rest := by simpa [read, Except.map] using skipped
      have shorter := readUnit_shorter read
      simp only [List.length_cons]
      omega
  · split at skipped
    · obtain rfl := Except.ok.inj skipped
      simp
    · simp at skipped

/-- Each step over a string shortens the text, so as many steps as it has characters suffice. -/
theorem skipString_enough {fuel more : Nat} (skipped : skipString fuel text = .ok rest)
    (enough : text.length ≤ more) : skipString more text = .ok rest := by
  induction fuel generalizing more text with
  | zero => cases text <;> simp [skipString] at skipped
  | succ fuel ih =>
    cases text with
    | nil => simp [skipString] at skipped
    | cons c text =>
      rw [List.length_cons] at enough
      obtain ⟨more, rfl⟩ : ∃ less, more = less + 1 := ⟨more - 1, by omega⟩
      rw [skipString] at skipped ⊢
      split_ifs at skipped ⊢ with quote escapes control
      · exact skipped
      · obtain ⟨behind, escape, skipped⟩ := bind_eq_ok.mp skipped
        have shorter := skipEscape_shorter escape
        exact bind_eq_ok.mpr ⟨behind, escape, ih skipped (by omega)⟩
      · exact ih skipped (by omega)

/-- The second half of a surrogate pair has a backslash of its own. -/
theorem skipEscape_of_readLowSurrogate {high : Nat} {c : Char}
    (read : readLowSurrogate high text = .ok (c, rest)) :
    ∃ letters, text = '\\' :: letters ∧ skipEscape letters = .ok rest := by
  unfold readLowSurrogate at read
  split at read
  · simp at read
  · simp at read
  · next digits =>
    obtain ⟨⟨low, behind⟩, unit, read⟩ := bind_eq_ok.mp read
    dsimp only at read
    split_ifs at read
    · obtain ⟨_, rfl⟩ := Prod.mk.inj (Except.ok.inj read)
      exact ⟨'u' :: digits, rfl, by simp [skipEscape, unit, Except.map]⟩
  · simp at read
  · simp at read

/-- Passing over a string takes a surrogate pair in two steps. -/
theorem skipEscape_of_readEscape {c : Char} (read : readEscape text = .ok (c, rest)) :
    skipEscape text = .ok rest ∨
      ∃ letters, skipEscape text = .ok ('\\' :: letters) ∧ skipEscape letters = .ok rest := by
  unfold readEscape at read
  split at read
  · simp at read
  · next digits =>
    obtain ⟨⟨code, behind⟩, unit, read⟩ := bind_eq_ok.mp read
    dsimp only at read
    have skipped : skipEscape ('u' :: digits) = .ok behind := by
      simp [skipEscape, unit, Except.map]
    split_ifs at read
    · obtain ⟨letters, rfl, second⟩ := skipEscape_of_readLowSurrogate read
      exact .inr ⟨letters, skipped, second⟩
    · obtain ⟨_, rfl⟩ := Prod.mk.inj (Except.ok.inj read)
      exact .inl skipped
  · next notUnit =>
    split at read
    · next stands =>
      obtain ⟨_, rfl⟩ := Prod.mk.inj (Except.ok.inj read)
      exact .inl (by simp [skipEscape, stands])
    · simp at read

theorem skipString_of_readCharacters {fuel : Nat} {characters : List Char}
    (read : readCharacters fuel text = .ok (characters, rest)) :
    ∃ steps, skipString steps text = .ok rest := by
  induction fuel generalizing text characters with
  | zero => cases text <;> simp [readCharacters] at read
  | succ fuel ih =>
    cases text with
    | nil => simp [readCharacters] at read
    | cons c text =>
      rw [readCharacters] at read
      split_ifs at read with quote escapes control
      · obtain ⟨_, rfl⟩ := Prod.mk.inj (Except.ok.inj read)
        exact ⟨1, by simp [skipString, quote]⟩
      · obtain ⟨⟨character, behind⟩, escape, read⟩ := bind_eq_ok.mp read
        obtain ⟨⟨others, behind'⟩, tail, same⟩ := bind_eq_ok.mp read
        obtain ⟨_, rfl⟩ := Prod.mk.inj (Except.ok.inj same)
        obtain ⟨steps, skipped⟩ := ih tail
        subst escapes
        rcases skipEscape_of_readEscape escape with once | ⟨letters, first, second⟩
        · exact ⟨steps + 1, by rw [skipString_escape once, skipped]⟩
        · exact ⟨steps + 2, by rw [skipString_escape first, skipString_escape second, skipped]⟩
      · obtain ⟨⟨others, behind⟩, tail, same⟩ := bind_eq_ok.mp read
        obtain ⟨_, rfl⟩ := Prod.mk.inj (Except.ok.inj same)
        obtain ⟨steps, skipped⟩ := ih tail
        exact ⟨steps + 1, by simp [skipString, quote, escapes, control, skipped]⟩

theorem skipString_of_readString {name : String} (read : readString text = .ok (name, rest)) :
    skipString text.length text = .ok rest := by
  obtain ⟨⟨characters, behind⟩, taken, same⟩ := bind_eq_ok.mp read
  obtain ⟨_, rfl⟩ := Prod.mk.inj (Except.ok.inj same)
  obtain ⟨steps, skipped⟩ := skipString_of_readCharacters taken
  exact skipString_enough skipped le_rfl

end Strings

section Lists

/-- A reader of values stops where passing over the value stops. -/
def Spans {α : Type} (read : List Char → Except Fault (Front α)) : Prop :=
  ∀ text value rest, read text = .ok (value, rest) → ∃ limit, Passes limit text rest

theorem spans_readText (expected : String) : Spans (readText expected) := by
  intro text value rest read
  unfold readText at read
  split at read
  · next behind found =>
    refine ⟨1, .scalar ?_⟩
    rw [found, skipScalar_string (skipString_of_readString read)]
  · simp at read

/-- What is expected where an item may begin. -/
def expecting (first : Bool) : Expecting := if first then .firstItem else .separator

theorem expecting_ne_value (first : Bool) : expecting first ≠ .value := by
  cases first <;> decide

theorem Finishes.item {limit : Nat} {frame : Frame} {first : Bool} {start value : List Char}
    (next : NextItem frame first text start) (key : skipKey frame start = .ok value)
    (onward : Finishes limit frame .value value rest) :
    Finishes (limit + 1) frame (expecting first) text rest := by
  cases next with
  | first found inside => exact .first found inside key onward
  | later found => exact .comma found key onward

variable {α : Type} {element : List Char → Except Fault (Front α)}

/-- A list is closed, or an element of it is read and then the others. -/
theorem readElements_eq_ok {fuel : Nat} {first : Bool} {values : List α}
    (read : readElements element (fuel + 1) first text = .ok (values, rest)) :
    skipBlanks text = ']' :: rest ∨ ∃ start head behind tail, NextItem .list first text start ∧
      element (skipBlanks start) = .ok (head, behind) ∧
      readElements element fuel false behind = .ok (tail, rest) := by
  -- wherever the element begins, it is read before the others
  have item {start : List Char} (read : (element start >>= fun taken =>
      readElements element fuel false taken.2 >>= fun others =>
        pure (taken.1 :: others.1, others.2)) = .ok (values, rest)) :
      ∃ head behind tail, element start = .ok (head, behind) ∧
        readElements element fuel false behind = .ok (tail, rest) := by
    obtain ⟨⟨head, behind⟩, taken, read⟩ := bind_eq_ok.mp read
    obtain ⟨⟨tail, behind'⟩, others, same⟩ := bind_eq_ok.mp read
    obtain ⟨_, rfl⟩ := Prod.mk.inj (Except.ok.inj same)
    exact ⟨head, behind, tail, taken, others⟩
  unfold readElements at read
  dsimp only at read
  split at read
  · simp at read
  · next found =>
    obtain ⟨_, rfl⟩ := Prod.mk.inj (Except.ok.inj read)
    exact .inl found
  · next c after open' found =>
    right
    split_ifs at read with isFirst comma
    · obtain ⟨head, behind, tail, taken, others⟩ := item read
      subst isFirst
      refine ⟨text, head, behind, tail, .first found ?_, by rw [found, taken], others⟩
      rintro rfl
      exact open' rfl
    · subst comma
      split at read
      · simp at read
      · simp at read
      · obtain ⟨head, behind, tail, taken, others⟩ := item read
        obtain rfl : first = false := by simpa using isFirst
        exact ⟨after, head, behind, tail, .later found, taken, others⟩

theorem finishes_readElements (spans : Spans element) {fuel : Nat} {first : Bool}
    {values : List α} (read : readElements element fuel first text = .ok (values, rest)) :
    ∃ limit, Finishes limit .list (expecting first) text rest := by
  induction fuel generalizing text first values with
  | zero => simp [readElements] at read
  | succ fuel ih =>
    rcases readElements_eq_ok read with closed | ⟨start, head, behind, tail, next, taken, others⟩
    · exact ⟨1, .close (expecting_ne_value first) closed⟩
    · obtain ⟨limit, passes⟩ := spans _ _ _ taken
      obtain ⟨more, finishes⟩ := ih others
      exact ⟨limit + more + 1, .item next rfl (.value passes.blanks finishes)⟩

theorem spans_readList (spans : Spans element) : Spans (readList element) := by
  intro text values rest read
  unfold readList at read
  split at read
  · next behind found =>
    have opened : skipBlanks text = Frame.list.opening :: behind := found
    obtain ⟨limit, finishes⟩ := finishes_readElements spans read
    exact ⟨limit + 1, .whole opened finishes⟩
  · simp at read

end Lists

section Objects

variable {σ : Type} {member : σ → String → List Char → Except Fault (Front σ)}

/-- A reader of members stops where the value behind the colon stops. -/
def SpansMember (member : σ → String → List Char → Except Fault (Front σ)) : Prop :=
  ∀ state key text next rest, member state key text = .ok (next, rest) →
    ∃ value limit, readColon text = .ok value ∧ Passes limit value rest

theorem skipKey_of_read {key : String} {inner behind value : List Char}
    (quote : skipBlanks text = '"' :: inner) (read : readString inner = .ok (key, behind))
    (colon : readColon behind = .ok value) : skipKey .object text = .ok value := by
  unfold readColon at colon
  rw [skipKey, quote]
  simp only [skipString_of_readString read, bind, Except.bind]
  split at colon
  · next found => simpa [found] using colon
  · simp at colon
  · simp at colon

/-- An object is closed, or a member of it is read and then the others. -/
theorem readMembers_eq_ok {fuel : Nat} {first : Bool} {state final : σ}
    (read : readMembers member (fuel + 1) first state text = .ok (final, rest)) :
    skipBlanks text = '}' :: rest ∨ ∃ start inner,
      NextItem .object first text start ∧ skipBlanks start = '"' :: inner ∧
      ∃ key behind next behind', readString inner = .ok (key, behind) ∧
        member state key behind = .ok (next, behind') ∧
        readMembers member fuel false next behind' = .ok (final, rest) := by
  have item {inner : List Char} (read : (readString inner >>= fun name =>
      member state name.1 name.2 >>= fun taken =>
        readMembers member fuel false taken.1 taken.2) = .ok (final, rest)) :
      ∃ key behind next behind', readString inner = .ok (key, behind) ∧
        member state key behind = .ok (next, behind') ∧
        readMembers member fuel false next behind' = .ok (final, rest) := by
    obtain ⟨⟨key, behind⟩, name, read⟩ := bind_eq_ok.mp read
    obtain ⟨⟨next, behind'⟩, taken, others⟩ := bind_eq_ok.mp read
    exact ⟨key, behind, next, behind', name, taken, others⟩
  unfold readMembers at read
  dsimp only at read
  split at read
  · simp at read
  · next found =>
    obtain ⟨_, rfl⟩ := Prod.mk.inj (Except.ok.inj read)
    exact .inl found
  · next c after open' found =>
    right
    split_ifs at read with isFirst quote comma
    · subst isFirst quote
      exact ⟨text, after, .first found (by decide), found, item read⟩
    · obtain rfl : first = false := by simpa using isFirst
      subst comma
      split at read
      · simp at read
      · next inner quote =>
        exact ⟨after, inner, .later found, quote, item read⟩
      · simp at read
      · simp at read

theorem finishes_readMembers (spans : SpansMember member) {fuel : Nat} {first : Bool}
    {state final : σ} (read : readMembers member fuel first state text = .ok (final, rest)) :
    ∃ limit, Finishes limit .object (expecting first) text rest := by
  induction fuel generalizing text first state with
  | zero => simp [readMembers] at read
  | succ fuel ih =>
    rcases readMembers_eq_ok read with
      closed | ⟨start, inner, begins, quote, key, behind, next, behind', name, taken, others⟩
    · exact ⟨1, .close (expecting_ne_value first) closed⟩
    · obtain ⟨value, limit, colon, passes⟩ := spans _ _ _ _ _ taken
      obtain ⟨more, finishes⟩ := ih others
      exact ⟨limit + more + 1,
        .item begins (skipKey_of_read quote name colon) (.value passes finishes)⟩

end Objects

end WorkflowLaunch.Json
