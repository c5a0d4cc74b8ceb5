import WorkflowLaunch.Json.Reader

set_option autoImplicit false

/-!
What strings are read as. A character may stand for itself or be escaped in several ways; writing
takes one of these, and a reader takes all of them for the character they stand for.
-/

namespace WorkflowLaunch.Json

/-- Characters that are passed over before a value, a separator or a closing bracket. -/
def Blank (gap : List Char) : Prop := ∀ c ∈ gap, isBlank c = true

theorem blank_nil : Blank [] := by simp [Blank]

@[simp] theorem skipBlanks_cons_of_not_isBlank {c : Char} (solid : isBlank c = false)
    (rest : List Char) : skipBlanks (c :: rest) = c :: rest := by
  simp [skipBlanks, solid]

theorem skipBlanks_append {gap : List Char} (blank : Blank gap) (rest : List Char) :
    skipBlanks (gap ++ rest) = skipBlanks rest := by
  induction gap with
  | nil => rfl
  | cons c gap ih =>
    have head : isBlank c = true := blank c List.mem_cons_self
    have tail : Blank gap := fun d member => blank d (List.mem_cons_of_mem c member)
    simpa [skipBlanks, head] using ih tail

theorem skipBlanks_gap {gap : List Char} (blank : Blank gap) {c : Char}
    (solid : isBlank c = false) (rest : List Char) :
    skipBlanks (gap ++ c :: rest) = c :: rest := by
  rw [skipBlanks_append blank, skipBlanks_cons_of_not_isBlank solid]

/-- A hexadecimal digit of either case, and its value. -/
inductive HexDigit : Char → Nat → Prop where
  | lower {value : Nat} : value < 16 → HexDigit (Text.hexDigit value) value
  | upper {value : Nat} : value < 16 → HexDigit (Text.hexDigit value).toUpper value

theorem HexDigit.value {c : Char} {value : Nat} (digit : HexDigit c value) :
    Text.hexValue? c = some value := by
  have upper : ∀ n < 16, Text.hexValue? (Text.hexDigit n).toUpper = some n := by decide
  cases digit with
  | lower small => exact Text.hexValue?_hexDigit value small
  | upper small => exact upper value small

/-- Four hexadecimal digits, and the number that they make. -/
inductive CodeUnit : List Char → Nat → Prop where
  | digits {a b c d : Char} {w x y z : Nat} :
      HexDigit a w → HexDigit b x → HexDigit c y → HexDigit d z →
      CodeUnit [a, b, c, d] (((w * 16 + x) * 16 + y) * 16 + z)

theorem CodeUnit.read {digits : List Char} {code : Nat} (unit : CodeUnit digits code)
    (rest : List Char) : readUnit (digits ++ rest) = .ok (code, rest) := by
  cases unit with
  | digits first second third fourth =>
    simp [readUnit, fourDigits?, first.value, second.value, third.value, fourth.value]

/-- Letters behind a backslash, and the characters that they stand for. -/
def shortEscapes : List (Char × Char) :=
  [('"', '"'), ('\\', '\\'), ('/', '/'), ('b', '\x08'), ('f', '\x0c'), ('n', '\n'), ('r', '\r'),
    ('t', '\t')]

/-- The ways to write a character in a string. One that does not fit a code unit is written as two
of them, with ten bits each. -/
inductive Writes : List Char → Char → Prop where
  | plain {c : Char} : c ≠ '"' → c ≠ '\\' → ¬c < ' ' → Writes [c] c
  | short {letter c : Char} : (letter, c) ∈ shortEscapes → Writes ['\\', letter] c
  | unit {digits : List Char} {c : Char} : CodeUnit digits c.toNat →
      Writes ('\\' :: 'u' :: digits) c
  | pair {high low : List Char} {c : Char} : 0x10000 ≤ c.toNat →
      CodeUnit high (0xD800 + (c.toNat - 0x10000) / 0x400) →
      CodeUnit low (0xDC00 + (c.toNat - 0x10000) % 0x400) →
      Writes ('\\' :: 'u' :: (high ++ '\\' :: 'u' :: low)) c

/-- The ways to write a text in a string. -/
inductive Spells : List Char → List Char → Prop where
  | nil : Spells [] []
  | cons {piece rest : List Char} {c : Char} {characters : List Char} :
      Writes piece c → Spells rest characters → Spells (piece ++ rest) (c :: characters)

theorem shortEscape?_of_mem : ∀ entry ∈ shortEscapes,
    entry.1 ≠ 'u' ∧ shortEscape? entry.1 = some entry.2 := by
  decide

theorem readEscape_short {letter c : Char} (listed : (letter, c) ∈ shortEscapes)
    (rest : List Char) : readEscape (letter :: rest) = .ok (c, rest) := by
  obtain ⟨notUnit, stands⟩ := shortEscape?_of_mem _ listed
  simp [readEscape, stands]

/-- The code of a character is no half of a surrogate pair. -/
theorem readEscape_unit {digits : List Char} {c : Char} (unit : CodeUnit digits c.toNat)
    (rest : List Char) : readEscape ('u' :: (digits ++ rest)) = .ok (c, rest) := by
  have valid : c.toNat < 0xD800 ∨ 0xDFFF < c.toNat ∧ c.toNat < 0x110000 := c.valid
  have low : isLowSurrogate c.toNat = false := by simp [isLowSurrogate]; omega
  have high : isHighSurrogate c.toNat = false := by simp [isHighSurrogate]; omega
  simp [readEscape, unit.read, bind, Except.bind, pure, Except.pure, low, high]

theorem readEscape_pair {high low : List Char} {c : Char} (large : 0x10000 ≤ c.toNat)
    (first : CodeUnit high (0xD800 + (c.toNat - 0x10000) / 0x400))
    (second : CodeUnit low (0xDC00 + (c.toNat - 0x10000) % 0x400)) (rest : List Char) :
    readEscape ('u' :: (high ++ '\\' :: 'u' :: (low ++ rest))) = .ok (c, rest) := by
  have valid : c.toNat < 0xD800 ∨ 0xDFFF < c.toNat ∧ c.toNat < 0x110000 := c.valid
  generalize upper : 0xD800 + (c.toNat - 0x10000) / 0x400 = high' at first
  generalize lower : 0xDC00 + (c.toNat - 0x10000) % 0x400 = low' at second
  have notLow : isLowSurrogate high' = false := by simp [isLowSurrogate]; omega
  have isHigh : isHighSurrogate high' = true := by simp [isHighSurrogate]; omega
  have isLow : isLowSurrogate low' = true := by simp [isLowSurrogate]; omega
  have code : 0x10000 + (high' - 0xD800) * 0x400 + (low' - 0xDC00) = c.toNat := by omega
  simp [readEscape, readLowSurrogate, first.read, second.read, bind, Except.bind, pure,
    Except.pure, notLow, isHigh, isLow, code]

theorem Writes.ne_nil {piece : List Char} {c : Char} (writes : Writes piece c) : piece ≠ [] := by
  cases writes <;> simp

/-- An escape that is read as a character is read as it in a string. -/
theorem readCharacters_escape {letters rest : List Char} {c : Char}
    (read : readEscape letters = .ok (c, rest)) (fuel : Nat) :
    readCharacters (fuel + 1) ('\\' :: letters) =
      (readCharacters fuel rest).map fun (characters, rest) => (c :: characters, rest) := by
  simp only [readCharacters, (by decide : '\\' ≠ '"'), if_false, if_true, read, bind, Except.bind]
  cases readCharacters fuel rest <;> rfl

theorem Writes.read {piece : List Char} {c : Char} (writes : Writes piece c) (fuel : Nat)
    (rest : List Char) : readCharacters (fuel + 1) (piece ++ rest) =
      (readCharacters fuel rest).map fun (characters, rest) => (c :: characters, rest) := by
  cases writes with
  | plain notQuote notBackslash visible =>
    simp only [List.cons_append, List.nil_append, readCharacters, notQuote, notBackslash, visible,
      if_false]
    cases readCharacters fuel rest <;> rfl
  | short listed => exact readCharacters_escape (readEscape_short listed rest) fuel
  | unit unit => exact readCharacters_escape (readEscape_unit unit rest) fuel
  | pair large first second =>
    simp only [List.cons_append, List.append_assoc]
    exact readCharacters_escape (readEscape_pair large first second rest) fuel

theorem Spells.read {literal characters : List Char} (spells : Spells literal characters)
    (rest : List Char) {fuel : Nat} (enough : literal.length < fuel) :
    readCharacters fuel (literal ++ '"' :: rest) = .ok (characters, rest) := by
  induction spells generalizing fuel with
  | nil =>
    obtain ⟨fuel, rfl⟩ := Nat.exists_eq_add_of_lt enough
    simp [readCharacters]
  | @cons piece literal c characters writes _ ih =>
    obtain ⟨fuel, rfl⟩ : ∃ less, fuel = less + 1 := ⟨fuel - 1, by omega⟩
    have solid := List.length_pos_iff.mpr writes.ne_nil
    rw [List.length_append] at enough
    rw [List.append_assoc, writes.read, ih (by omega)]
    rfl

/-- A string is read behind its opening quote, however it is spelled and whatever follows it. -/
theorem readString_spelled {literal : List Char} {text : String}
    (spells : Spells literal text.toList) (rest : List Char) :
    readString (literal ++ '"' :: rest) = .ok (text, rest) := by
  rw [readString, spells.read rest (by simp)]
  simp [bind, Except.bind, pure, Except.pure]

/-- Writing takes one of the ways to write a character. -/
theorem writes_escape (c : Char) : Writes (escape c) c := by
  unfold escape
  split
  case h_8 notQuote notBackslash _ _ _ _ _ =>
    split
    · next control =>
      have small : c.toNat < 32 := control
      have zero : HexDigit '0' 0 := @HexDigit.lower 0 (by decide)
      have unit := CodeUnit.digits zero zero (.lower (by omega : c.toNat / 16 < 16))
        (.lower (by omega : c.toNat % 16 < 16))
      have code : ((0 * 16 + 0) * 16 + c.toNat / 16) * 16 + c.toNat % 16 = c.toNat := by omega
      rw [code] at unit
      exact .unit unit
    · next visible => exact .plain notQuote notBackslash visible
  all_goals exact .short (by decide)

theorem spells_written (characters : List Char) :
    Spells (characters.flatMap escape) characters := by
  induction characters with
  | nil => exact .nil
  | cons c characters ih => exact .cons (writes_escape c) ih

theorem readString_written (text : String) (rest : List Char) :
    readString (text.toList.flatMap escape ++ '"' :: rest) = .ok (text, rest) :=
  readString_spelled (spells_written text.toList) rest

theorem writeString_append (text : String) (rest : List Char) :
    writeString text ++ rest = '"' :: (text.toList.flatMap escape ++ '"' :: rest) := by
  simp [writeString]

theorem readText_written (expected text : String) {gap : List Char} (blank : Blank gap)
    (rest : List Char) :
    readText expected (gap ++ (writeString text ++ rest)) = .ok (text, rest) := by
  rw [writeString_append, readText, skipBlanks_gap blank (by decide)]
  exact readString_written text rest

end WorkflowLaunch.Json
