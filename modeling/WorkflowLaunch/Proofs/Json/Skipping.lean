import Mathlib.Data.List.DropRight
import WorkflowLaunch.Proofs.Json.Grammar

set_option autoImplicit false

/-!
Passing over a value ends where the value ends. How often the frames change does not depend on what
surrounds the value, and is bounded by its length, so that the steps that are allotted suffice.
-/

namespace WorkflowLaunch.Json

section Strings

theorem Piece.ne_nil {piece : List Char} (part : Piece piece) : piece ≠ [] := by
  cases part <;> simp

theorem skipEscape_short {letter c : Char} (listed : (letter, c) ∈ shortEscapes)
    (rest : List Char) : skipEscape (letter :: rest) = .ok rest := by
  obtain ⟨notUnit, stands⟩ := shortEscape?_of_mem _ listed
  simp [skipEscape, stands]

/-- A backslash and what it escapes are one step. -/
theorem skipString_escape {letters rest : List Char} (skipped : skipEscape letters = .ok rest)
    (fuel : Nat) : skipString (fuel + 1) ('\\' :: letters) = skipString fuel rest := by
  simp only [skipString, (by decide : '\\' ≠ '"'), if_false, if_true, skipped, bind, Except.bind]

theorem Piece.skip {piece : List Char} (part : Piece piece) (fuel : Nat) (rest : List Char) :
    skipString (fuel + 1) (piece ++ rest) = skipString fuel rest := by
  cases part with
  | plain notQuote notBackslash visible => simp [skipString, notQuote, notBackslash, visible]
  | short listed => exact skipString_escape (skipEscape_short listed rest) fuel
  | unit unit =>
    apply skipString_escape
    simp [skipEscape, unit.read, Except.map]

theorem Content.skip {content : List Char} (inside : Content content) (rest : List Char)
    {fuel : Nat} (enough : content.length < fuel) :
    skipString fuel (content ++ '"' :: rest) = .ok rest := by
  induction inside generalizing fuel with
  | nil =>
    obtain ⟨fuel, rfl⟩ := Nat.exists_eq_add_of_lt enough
    simp [skipString]
  | @cons piece content part _ ih =>
    obtain ⟨fuel, rfl⟩ : ∃ less, fuel = less + 1 := ⟨fuel - 1, by omega⟩
    have solid := List.length_pos_iff.mpr part.ne_nil
    rw [List.length_append] at enough
    rw [List.append_assoc, part.skip, ih (by omega)]

end Strings

section Numbers

/-- What may stand behind a number without belonging to it. -/
def Delimited (rest : List Char) : Prop :=
  ∀ c ∈ rest.head?, isDigit c = false ∧ c ≠ '.' ∧ isExponentMark c = false

variable {rest : List Char}

theorem splitDigits_append {digits : List Char} (all : ∀ c ∈ digits, isDigit c = true)
    (ends : ∀ c ∈ rest.head?, isDigit c = false) :
    splitDigits (digits ++ rest) = (digits, rest) := by
  have taken : rest.takeWhile isDigit = [] ∧ rest.dropWhile isDigit = rest := by
    cases rest with
    | nil => simp
    | cons c rest => simp [ends c rfl]
  rw [splitDigits, List.takeWhile_append_of_pos all, List.dropWhile_append_of_pos all, taken.1,
    taken.2, List.append_nil]

theorem ne_of_isDigit {c other : Char} (digit : isDigit c = true) (odd : isDigit other = false) :
    c ≠ other := by
  rintro rfl
  simp [digit] at odd

theorem DigitRun.split {digits : List Char} (run : DigitRun digits)
    (ends : ∀ c ∈ rest.head?, isDigit c = false) :
    ∃ first others, digits = first :: others ∧ isDigit first = true ∧
      splitDigits (digits ++ rest) = (first :: others, rest) := by
  obtain ⟨first, others, rfl⟩ := List.exists_cons_of_ne_nil run.nonempty
  exact ⟨first, others, rfl, run.digits first List.mem_cons_self,
    splitDigits_append run.digits ends⟩

theorem DigitRun.skipExponent {sign digits : List Char} (signed : sign ∈ [[], ['+'], ['-']])
    (run : DigitRun digits) (ends : ∀ c ∈ rest.head?, isDigit c = false) :
    skipExponent (sign ++ (digits ++ rest)) = .ok rest := by
  obtain ⟨first, others, rfl, digit, split⟩ := run.split ends
  have plus : first ≠ '+' := ne_of_isDigit digit (by decide)
  have minus : first ≠ '-' := ne_of_isDigit digit (by decide)
  simp only [List.mem_cons, List.not_mem_nil, or_false] at signed
  rcases signed with rfl | rfl | rfl <;>
    simp [Json.skipExponent, plus, minus] at split ⊢ <;> rw [split]

theorem Exponent.head {exponent : List Char} (shaped : Exponent exponent)
    (delimited : Delimited rest) :
    ∀ c ∈ (exponent ++ rest).head?, isDigit c = false ∧ c ≠ '.' := by
  intro c first
  cases shaped with
  | none => exact ⟨(delimited c first).1, (delimited c first).2.1⟩
  | some mark =>
    obtain rfl := Option.some.inj first
    simp only [List.mem_cons, List.not_mem_nil, or_false] at mark
    rcases mark with rfl | rfl <;> decide

theorem Exponent.skip {exponent : List Char} (shaped : Exponent exponent)
    (delimited : Delimited rest) : skipFraction (exponent ++ rest) = .ok rest := by
  cases shaped with
  | none =>
    cases rest with
    | nil => rfl
    | cons c rest =>
      obtain ⟨_, notPoint, notMark⟩ := delimited c rfl
      simp [skipFraction, notPoint, notMark]
  | @some mark sign digits letter signed run =>
    have skipped := run.skipExponent signed fun c first => (delimited c first).1
    simp only [List.mem_cons, List.not_mem_nil, or_false] at letter
    rcases letter with rfl | rfl <;> simp [skipFraction, isExponentMark, skipped]

theorem Fraction.skip {fraction exponent : List Char} (shaped : Fraction fraction)
    (raised : Exponent exponent) (delimited : Delimited rest) :
    skipFraction (fraction ++ (exponent ++ rest)) = .ok rest := by
  cases shaped with
  | none => exact raised.skip delimited
  | some run =>
    have ends := raised.head delimited
    obtain ⟨first, others, rfl, _, parted⟩ := run.split fun c head => (ends c head).1
    have pointless (behind : List Char) : exponent ++ rest ≠ '.' :: behind := by
      intro point
      rw [point] at ends
      exact (ends '.' rfl).2 rfl
    have skipped := raised.skip delimited
    rw [skipFraction.eq_2 _ pointless] at skipped
    simp only [List.cons_append] at parted
    simpa [skipFraction, parted] using skipped

theorem Fraction.head {fraction exponent : List Char} (shaped : Fraction fraction)
    (raised : Exponent exponent) (delimited : Delimited rest) :
    ∀ c ∈ (fraction ++ (exponent ++ rest)).head?, isDigit c = false := by
  intro c first
  cases shaped with
  | none => exact (raised.head delimited c first).1
  | some =>
    obtain rfl := Option.some.inj first
    decide

theorem Whole.digits {whole : List Char} (shaped : Whole whole) :
    ∀ c ∈ whole, isDigit c = true := by
  cases shaped with
  | zero => simp [isDigit]
  | nonzero digit _ others => simpa [digit] using others

theorem Whole.skip {whole fraction exponent : List Char} (shaped : Whole whole)
    (broken : Fraction fraction) (raised : Exponent exponent) (delimited : Delimited rest) :
    skipNumber (whole ++ (fraction ++ (exponent ++ rest))) = .ok rest := by
  have parted := splitDigits_append shaped.digits (broken.head raised delimited)
  rw [skipNumber, parted]
  cases shaped with
  | zero => exact broken.skip raised delimited
  | nonzero _ notZero =>
    split
    · next none => simp at none
    · next zero => exact absurd (List.cons.inj (Prod.mk.inj zero).1).1 notZero
    · next same =>
      rw [← (Prod.mk.inj same).2]
      exact broken.skip raised delimited

end Numbers

section Scalars

theorem skipScalar_opening (frame : Frame) (rest : List Char) :
    skipScalar (frame.opening :: rest) = .ok (some frame, rest) := by
  cases frame <;> rfl

theorem skipScalar_word {word : List Char}
    (listed : word ∈ ["null".toList, "true".toList, "false".toList]) (rest : List Char) :
    skipScalar (word ++ rest) = .ok (none, rest) := by
  simp only [List.mem_cons, List.not_mem_nil, or_false] at listed
  rcases listed with rfl | rfl | rfl <;> simp [skipScalar, readWord, Except.map]

theorem skipScalar_string {rest behind : List Char}
    (skipped : skipString rest.length rest = .ok behind) :
    skipScalar ('"' :: rest) = .ok (none, behind) := by
  simp [skipScalar, skipped, Except.map]

theorem skipScalar_digit {c : Char} (digit : isDigit c = true) {rest behind : List Char}
    (skipped : skipNumber (c :: rest) = .ok behind) :
    skipScalar (c :: rest) = .ok (none, behind) := by
  rw [skipScalar.eq_9, if_pos digit, skipped]
  · rfl
  all_goals exact ne_of_isDigit digit (by decide)

theorem Whole.head {whole : List Char} (shaped : Whole whole) :
    ∃ first others, whole = first :: others ∧ isDigit first = true := by
  cases shaped with
  | zero => exact ⟨'0', [], rfl, by decide⟩
  | @nonzero first others digit => exact ⟨first, others, rfl, digit⟩

theorem Numeral.skip {text rest : List Char} (numeral : Numeral text)
    (delimited : Delimited rest) : skipScalar (text ++ rest) = .ok (none, rest) := by
  obtain @⟨sign, whole, fraction, exponent, signed, shaped, broken, raised⟩ := numeral
  have skipped := shaped.skip broken raised delimited
  simp only [List.append_assoc]
  simp only [List.mem_cons, List.not_mem_nil, or_false] at signed
  rcases signed with rfl | rfl
  · obtain ⟨first, others, rfl, digit⟩ := shaped.head
    exact skipScalar_digit digit skipped
  · simp [skipScalar, skipped, Except.map]

/-- What a value begins with. It is neither a blank nor the end of a list. -/
def Solid (text : List Char) : Prop :=
  ∃ c rest, text = c :: rest ∧ isBlank c = false ∧ c ≠ ']'

theorem solid_of_isDigit {c : Char} (digit : isDigit c = true) (rest : List Char) :
    Solid (c :: rest) := by
  have space := ne_of_isDigit digit (by decide : isDigit ' ' = false)
  have tab := ne_of_isDigit digit (by decide : isDigit '\t' = false)
  have newline := ne_of_isDigit digit (by decide : isDigit '\n' = false)
  have return' := ne_of_isDigit digit (by decide : isDigit '\r' = false)
  exact ⟨c, rest, rfl, by simp [isBlank, space, tab, newline, return'],
    ne_of_isDigit digit (by decide)⟩

theorem Numeral.solid {text : List Char} (numeral : Numeral text) : Solid text := by
  obtain @⟨sign, whole, fraction, exponent, signed, shaped, broken, raised⟩ := numeral
  simp only [List.mem_cons, List.not_mem_nil, or_false] at signed
  rcases signed with rfl | rfl
  · obtain ⟨first, others, rfl, digit⟩ := shaped.head
    exact solid_of_isDigit digit _
  · exact ⟨'-', _, rfl, by decide, by decide⟩

theorem Bare.solid {text : List Char} (bare : Bare text) : Solid text := by
  cases bare with
  | word listed =>
    simp only [List.mem_cons, List.not_mem_nil, or_false] at listed
    rcases listed with rfl | rfl | rfl <;> exact ⟨_, _, rfl, by decide, by decide⟩
  | string => exact ⟨'"', _, rfl, by decide, by decide⟩
  | number numeral => exact numeral.solid
  | @empty frame | @filled frame => cases frame <;> exact ⟨_, _, rfl, by decide, by decide⟩

end Scalars

section Frames

theorem Frame.closing_mem (frame : Frame) : frame.closing ∈ [',', ']', '}'] := by
  cases frame <;> decide

theorem Frame.closing_ne_comma (frame : Frame) : frame.closing ≠ ',' := by
  cases frame <;> decide

theorem Frame.isBlank_closing (frame : Frame) : isBlank frame.closing = false := by
  cases frame <;> rfl

theorem Frame.isBlank_opening (frame : Frame) : isBlank frame.opening = false := by
  cases frame <;> rfl

theorem skipBlanks_skipBlanks (text : List Char) : skipBlanks (skipBlanks text) = skipBlanks text :=
  List.dropWhile_idempotent _ _

/-- Blanks in front of an item do not matter, whether or not a key comes first. -/
theorem skipKey_skipBlanks {frame : Frame} {text start : List Char}
    (key : skipKey frame text = .ok start) :
    ∃ start', skipKey frame (skipBlanks text) = .ok start' ∧
      skipBlanks start' = skipBlanks start := by
  cases frame with
  | list =>
    obtain rfl := Except.ok.inj key
    exact ⟨skipBlanks text, rfl, skipBlanks_skipBlanks text⟩
  | object =>
    refine ⟨start, ?_, rfl⟩
    rw [← key]
    simp only [skipKey, skipBlanks_skipBlanks]

/-- Passing over the value in front of `rest` takes a fixed number of steps below the limit,
whatever frames are open around it. -/
def Passes (limit : Nat) (text rest : List Char) : Prop :=
  ∃ steps < limit, ∀ fuel frames,
    skipFrom (fuel + steps + 1) .value frames text = skipFrom fuel .separator frames rest

/-- Passing over what is left of a list or an object in front of `rest`, likewise. -/
def Finishes (limit : Nat) (frame : Frame) (expecting : Expecting) (text rest : List Char) : Prop :=
  ∃ steps < limit, ∀ fuel frames,
    skipFrom (fuel + steps + 1) expecting (frame :: frames) text =
      skipFrom fuel .separator frames rest

variable {limit : Nat} {frame : Frame} {text start behind rest : List Char}

namespace Finishes

theorem close {expecting : Expecting} (inside : expecting ≠ .value)
    (closed : skipBlanks text = frame.closing :: rest) : Finishes 1 frame expecting text rest := by
  refine ⟨0, by decide, fun fuel frames => ?_⟩
  cases expecting with
  | value => exact absurd rfl inside
  | firstItem | separator => simp [skipFrom, closed, frame.closing_ne_comma]

theorem value {more : Nat} (item : Passes limit text behind)
    (onward : Finishes more frame .separator behind rest) :
    Finishes (limit + more) frame .value text rest := by
  obtain ⟨steps, bound, same⟩ := item
  obtain ⟨steps', bound', same'⟩ := onward
  refine ⟨steps + steps' + 1, by omega, fun fuel frames => ?_⟩
  rw [show fuel + (steps + steps' + 1) + 1 = fuel + steps' + 1 + steps + 1 by omega, same, same']

theorem comma (found : skipBlanks text = ',' :: behind) (key : skipKey frame behind = .ok start)
    (onward : Finishes limit frame .value start rest) :
    Finishes (limit + 1) frame .separator text rest := by
  obtain ⟨steps, bound, same⟩ := onward
  refine ⟨steps + 1, by omega, fun fuel frames => ?_⟩
  rw [← Nat.add_assoc, ← same]
  simp [skipFrom, found, key, bind, Except.bind]

theorem first {c : Char} (found : skipBlanks text = c :: behind) (inside : c ≠ frame.closing)
    (key : skipKey frame text = .ok start) (onward : Finishes limit frame .value start rest) :
    Finishes (limit + 1) frame .firstItem text rest := by
  obtain ⟨steps, bound, same⟩ := onward
  refine ⟨steps + 1, by omega, fun fuel frames => ?_⟩
  obtain ⟨start', key', blanks⟩ := skipKey_skipBlanks key
  rw [found] at key'
  rw [← Nat.add_assoc, ← same]
  simp [skipFrom, found, inside, key', blanks, bind, Except.bind]

theorem weaken {expecting : Expecting} (finishes : Finishes limit frame expecting text rest)
    {higher : Nat} (less : limit ≤ higher) : Finishes higher frame expecting text rest := by
  obtain ⟨steps, bound, same⟩ := finishes
  exact ⟨steps, Nat.lt_of_lt_of_le bound less, same⟩

end Finishes

namespace Passes

theorem whole (opened : skipBlanks text = frame.opening :: behind)
    (onward : Finishes limit frame .firstItem behind rest) : Passes (limit + 1) text rest := by
  obtain ⟨steps, bound, same⟩ := onward
  refine ⟨steps + 1, by omega, fun fuel frames => ?_⟩
  rw [← Nat.add_assoc, ← same]
  simp [skipFrom, opened, skipScalar_opening, bind, Except.bind]

theorem scalar (skipped : skipScalar (skipBlanks text) = .ok (none, rest)) : Passes 1 text rest :=
  ⟨0, by decide, fun fuel frames => by simp [skipFrom, skipped, bind, Except.bind]⟩

theorem blanks (passes : Passes limit (skipBlanks text) rest) : Passes limit text rest := by
  obtain ⟨steps, bound, same⟩ := passes
  refine ⟨steps, bound, fun fuel frames => ?_⟩
  rw [← same]
  simp [skipFrom, skipBlanks_skipBlanks]

theorem behindBlanks {gap : List Char} (blank : Blank gap) (passes : Passes limit text rest) :
    Passes limit (gap ++ text) rest := by
  obtain ⟨steps, bound, same⟩ := passes
  refine ⟨steps, bound, fun fuel frames => ?_⟩
  rw [← same]
  simp [skipFrom, skipBlanks_append blank]

theorem weaken (passes : Passes limit text rest) {higher : Nat} (less : limit ≤ higher) :
    Passes higher text rest := by
  obtain ⟨steps, bound, same⟩ := passes
  exact ⟨steps, Nat.lt_of_lt_of_le bound less, same⟩

/-- A value ends in one place. -/
theorem unique {other : Nat} {rest' : List Char} (passes : Passes limit text rest)
    (passes' : Passes other text rest') : rest = rest' := by
  obtain ⟨steps, _, same⟩ := passes
  obtain ⟨steps', _, same'⟩ := passes'
  -- each of the two is given the steps of the other one, so that they start alike
  have left := same (steps' + 1) []
  have right := same' (steps + 1) []
  rw [show steps' + 1 + steps + 1 = steps + 1 + steps' + 1 by omega, right] at left
  simpa [skipFrom] using left.symm

theorem skipValue (passes : Passes limit text rest) (enough : limit ≤ 2 * text.length + 1) :
    skipValue text = .ok rest := by
  obtain ⟨steps, bound, same⟩ := passes
  have fuel : 2 * text.length + 2 = (2 * text.length - steps + 1) + steps + 1 := by omega
  rw [Json.skipValue, fuel, same]
  rfl

end Passes

end Frames

section Values

theorem delimited_cons {c : Char} (ends : c ∈ [',', ']', '}']) (rest : List Char) :
    Delimited (c :: rest) := by
  intro d first
  obtain rfl := Option.some.inj first
  simp only [List.mem_cons, List.not_mem_nil, or_false] at ends
  rcases ends with rfl | rfl | rfl <;> decide

theorem Delimited.blanks {gap rest : List Char} (delimited : Delimited rest) (blank : Blank gap) :
    Delimited (gap ++ rest) := by
  intro c first
  cases gap with
  | nil => exact delimited c first
  | cons d gap =>
    obtain rfl := Option.some.inj first
    have blankHead : isBlank d = true := blank d List.mem_cons_self
    simp only [isBlank, Bool.or_eq_true, beq_iff_eq] at blankHead
    rcases blankHead with ((rfl | rfl) | rfl) | rfl <;> decide

theorem Keyed.skip {frame : Frame} {key : List Char} (keyed : Keyed frame key)
    (rest : List Char) : skipKey frame (key ++ rest) = .ok rest := by
  cases keyed with
  | item => rfl
  | @member front key behind blankFront inside blankBehind =>
    have enough : key.length < (key ++ '"' :: (behind ++ ':' :: rest)).length := by simp
    have skipped := inside.skip (behind ++ ':' :: rest) enough
    simp only [List.append_assoc, List.cons_append, List.nil_append]
    rw [skipKey, skipBlanks_gap blankFront (by decide)]
    simp only [skipped, bind, Except.bind,
      skipBlanks_gap blankBehind (by decide : isBlank ':' = false)]

theorem Keyed.first {frame : Frame} {key front value behind : List Char}
    (keyed : Keyed frame key) (blank : Blank front) (bare : Bare value) :
    ∃ c rest, skipBlanks (key ++ (front ++ (value ++ behind))) = c :: rest ∧
      c ≠ frame.closing := by
  cases keyed with
  | item =>
    obtain ⟨c, rest, rfl, solid, inside⟩ := bare.solid
    exact ⟨c, rest ++ behind, skipBlanks_gap blank solid _, inside⟩
  | member blankFront =>
    simp only [List.append_assoc]
    exact ⟨'"', _, skipBlanks_gap blankFront (by decide) _, by decide⟩

theorem Parts.first {frame : Frame} {parts : List Char} (inside : Parts frame parts)
    (rest : List Char) :
    ∃ c behind, skipBlanks (parts ++ rest) = c :: behind ∧ c ≠ frame.closing := by
  cases inside with
  | last keyed blank bare | more keyed blank bare =>
    simp only [List.append_assoc]
    exact keyed.first blank bare

/-- A value without parts is passed over in one step. -/
theorem Bare.passes_scalar {text rest : List Char} (bare : Bare text)
    (skipped : skipScalar (text ++ rest) = .ok (none, rest)) :
    Passes (2 * text.length) (text ++ rest) rest := by
  obtain ⟨c, behind, rfl, visible, _⟩ := bare.solid
  refine (Passes.scalar ?_).weaken (by simp only [List.length_cons]; omega)
  rw [List.cons_append, skipBlanks_cons_of_not_isBlank visible, ← List.cons_append, skipped]

-- Both recurse on how the text was put together. A value that stands in parts is followed by a
-- comma or by the end of the frame, so that it is delimited.
mutual

theorem Bare.passes {text rest : List Char} (delimited : Delimited rest) :
    Bare text → Passes (2 * text.length) (text ++ rest) rest
  | .word listed => (Bare.word listed).passes_scalar (skipScalar_word listed rest)
  | .string inside => by
    refine (Bare.string inside).passes_scalar ?_
    simp only [List.cons_append, List.append_assoc, List.nil_append]
    exact skipScalar_string (inside.skip rest (by simp))
  | .number numeral => (Bare.number numeral).passes_scalar (numeral.skip delimited)
  | @Bare.empty frame gap blank => by
    have opened := skipBlanks_cons_of_not_isBlank frame.isBlank_opening
    have closed := skipBlanks_gap blank frame.isBlank_closing rest
    simp only [List.cons_append, List.append_assoc, List.nil_append]
    apply (Passes.whole (opened _) (Finishes.close (by decide) closed)).weaken
    simp only [List.length_cons]
    omega
  | @Bare.filled frame inside parts => by
    have opened := skipBlanks_cons_of_not_isBlank frame.isBlank_opening
    obtain ⟨c, behind, found, within⟩ := parts.first (frame.closing :: rest)
    obtain ⟨start, key, onward⟩ := parts.passes rest
    simp only [List.cons_append, List.append_assoc, List.nil_append]
    apply (Passes.whole (opened _) (Finishes.first found within key onward)).weaken
    simp only [List.length_cons, List.length_append, List.length_nil]
    omega

theorem Parts.passes {frame : Frame} {parts : List Char} (rest : List Char) : Parts frame parts →
    ∃ start, skipKey frame (parts ++ frame.closing :: rest) = .ok start ∧
      Finishes (2 * parts.length + 1) frame .value start rest
  | @Parts.last _ _ _ value behind keyed blankFront bare blankBehind => by
    have ends := (delimited_cons frame.closing_mem rest).blanks blankBehind
    have closed := skipBlanks_gap blankBehind frame.isBlank_closing rest
    have item := (bare.passes ends).behindBlanks blankFront
    refine ⟨_, by rw [List.append_assoc, keyed.skip], ?_⟩
    simp only [List.append_assoc]
    apply (Finishes.value item (Finishes.close (by decide) closed)).weaken
    simp only [List.length_append]
    omega
  | @Parts.more _ _ _ value behind others keyed blankFront bare blankBehind parts => by
    have ends := delimited_cons (by simp : ',' ∈ [',', ']', '}']) (others ++ frame.closing :: rest)
    have found := skipBlanks_gap blankBehind (by decide : isBlank ',' = false)
      (others ++ frame.closing :: rest)
    have item := (bare.passes (ends.blanks blankBehind)).behindBlanks blankFront
    obtain ⟨start, key, onward⟩ := parts.passes rest
    refine ⟨_, by rw [List.append_assoc, keyed.skip], ?_⟩
    simp only [List.append_assoc, List.cons_append]
    apply (Finishes.value item (Finishes.comma found key onward)).weaken
    simp only [List.length_append, List.length_cons]
    omega

end

/-- A value is passed over up to the blanks behind it. -/
theorem WellFormed.passes {value rest : List Char} (shaped : WellFormed value)
    (delimited : Delimited rest) :
    ∃ gap, Blank gap ∧ Passes (2 * value.length) (value ++ rest) (gap ++ rest) := by
  obtain @⟨front, text, behind, blankFront, bare, blankBehind⟩ := shaped
  refine ⟨behind, blankBehind, ?_⟩
  simp only [List.append_assoc]
  apply ((bare.passes (delimited.blanks blankBehind)).behindBlanks blankFront).weaken
  simp only [List.length_append]
  omega

end Values

end WorkflowLaunch.Json
