import WorkflowLaunch.CommandLine.Given
import WorkflowLaunch.Proofs.Path.Steps

set_option autoImplicit false

/-!
What the values of options are read as. A list is cut at its commas, and since a comma is no part of
any other character, it does not matter that the octets are cut and not the characters.
-/

namespace WorkflowLaunch

namespace Octets

theorem ofString_ofList (characters : List Char) :
    ofString (String.ofList characters) = characters.flatMap String.utf8EncodeChar := by
  rw [ofString, String.toByteArray_ofList, List.utf8Encode, List.toList_data_toByteArray]

theorem ofString_eq_flatMap (text : String) :
    ofString text = text.toList.flatMap String.utf8EncodeChar := by
  rw [← ofString_ofList, String.ofList_toList]

/-- An octet below 128 is a character of its own, or no part of a character. -/
theorem mem_utf8EncodeChar {character : Char} {octet : UInt8} (ascii : octet.toNat < 128)
    (member : octet ∈ String.utf8EncodeChar character) : character.toNat = octet.toNat := by
  have code : character.val.toNat = character.toNat := rfl
  simp only [String.utf8EncodeChar, code] at member
  split at member
  · next small =>
    obtain rfl := List.mem_singleton.mp member
    simp only [UInt8.toNat_ofNat']
    omega
  · split at member
    · simp only [List.mem_cons, List.not_mem_nil, or_false] at member
      rcases member with rfl | rfl <;> simp only [UInt8.toNat_ofNat'] at ascii <;> omega
    · split at member
      · simp only [List.mem_cons, List.not_mem_nil, or_false] at member
        rcases member with rfl | rfl | rfl <;> simp only [UInt8.toNat_ofNat'] at ascii <;> omega
      · simp only [List.mem_cons, List.not_mem_nil, or_false] at member
        rcases member with rfl | rfl | rfl | rfl <;> simp only [UInt8.toNat_ofNat'] at ascii <;>
          omega

theorem comma_not_mem {characters : List Char} (plain : ',' ∉ characters) :
    44 ∉ characters.flatMap String.utf8EncodeChar := by
  intro member
  obtain ⟨character, within, part⟩ := List.mem_flatMap.mp member
  have same : character.toNat = ','.toNat := mem_utf8EncodeChar (by decide) part
  have comma : character = ',' := Char.ext (UInt32.toNat_inj.mp same)
  exact plain (comma ▸ within)

theorem flatMap_intercalate {α β : Type} (f : α → List β) (separator : α) (lists : List (List α)) :
    ([separator].intercalate lists).flatMap f =
      (f separator).intercalate (lists.map (·.flatMap f)) := by
  induction lists with
  | nil => rfl
  | cons list rest ih =>
    cases rest with
    | nil => simp
    | cons next rest =>
      rw [List.intercalate_cons_cons, List.map_cons, List.map_cons, List.intercalate_cons_cons,
        ← List.map_cons, ← ih]
      simp

/-- Cutting the octets of a text at commas gives the octets of its pieces. -/
theorem pieces_ofString (text : String) :
    Text.pieces 44 (ofString text) =
      (text.toList.splitOn ',').map fun piece => ofString (String.ofList piece) := by
  have joined : ofString text =
      [44].intercalate ((text.toList.splitOn ',').map (·.flatMap String.utf8EncodeChar)) := by
    have cut := flatMap_intercalate String.utf8EncodeChar ',' (text.toList.splitOn ',')
    rw [List.intercalate_splitOn] at cut
    rw [ofString_eq_flatMap, cut]
    rfl
  rw [joined, Text.pieces_eq_splitOn, List.splitOn_intercalate]
  · apply List.map_congr_left
    intro piece _
    rw [ofString_ofList]
  · intro octets member
    obtain ⟨piece, within, rfl⟩ := List.mem_map.mp member
    exact comma_not_mem (not_mem_of_mem_splitOn within)
  · simp

end Octets

namespace Text

/-- A decimal number is read as what it is worth, unless that is out of range. -/
theorem magnitude_of_decimal {limit value : Nat} (overflow : IntegerFault) {digits : List Char}
    (decimal : ∀ digit ∈ digits, digit.isDigit = true)
    (within : Nat.ofDigitChars 10 digits value ≤ limit) :
    magnitude limit overflow value digits = .ok (Nat.ofDigitChars 10 digits value) := by
  induction digits generalizing value with
  | nil => simp [magnitude]
  | cons digit rest ih =>
    obtain ⟨here, others⟩ := List.forall_mem_cons.mp decimal
    rw [Nat.ofDigitChars_cons, Nat.mul_comm] at within ⊢
    have grows : value * 10 + (digit.toNat - 48) ≤
        Nat.ofDigitChars 10 rest (value * 10 + (digit.toNat - 48)) := by
      rw [Nat.ofDigitChars_eq_ofDigitChars_zero]
      exact (Nat.le_mul_of_pos_left _ (Nat.pow_pos (by decide))).trans (Nat.le_add_right _ _)
    have small : ¬limit < value * 10 + (digit.toNat - 48) := Nat.not_lt.mpr (grows.trans within)
    simp only [magnitude, digit?, here, if_true, if_neg small]
    exact ih others within

theorem signed64_of_decimal {digits : List Char} (some : digits ≠ [])
    (decimal : ∀ digit ∈ digits, digit.isDigit = true)
    (within : Nat.ofDigitChars 10 digits 0 ≤ half64 - 1) :
    signed64 digits = .ok (Nat.ofDigitChars 10 digits 0 : Int) := by
  cases digits with
  | nil => exact absurd rfl some
  | cons digit rest =>
    have here := decimal digit List.mem_cons_self
    have plus : digit ≠ '+' := by rintro rfl; simp at here
    have minus : digit ≠ '-' := by rintro rfl; simp at here
    have read := magnitude_of_decimal .tooLarge decimal within
    rw [signed64.eq_def]
    split <;> simp_all [Except.map]

end Text

namespace CommandLine

@[simp] theorem readText_ofString (text : String) : readText (Octets.ofString text) = .ok text := by
  simp [readText]

theorem readTexts_ofString (texts : List String) :
    readTexts (texts.map Octets.ofString) = .ok texts := by
  induction texts with
  | nil => rfl
  | cons text rest ih =>
    simp only [List.map_cons, readTexts, readText_ofString, ih]
    rfl

/-- The items of a list, between commas. There is one more than there are commas. -/
def listItems (text : String) : List String := (text.toList.splitOn ',').map String.ofList

theorem readItems_ofString (text : String) :
    readItems (Octets.ofString text) = .ok (listItems text) := by
  rw [readItems, Octets.pieces_ofString, listItems, ← readTexts_ofString, List.map_map]
  rfl

theorem readPort_of_decimal {digits : List Char} {port : UInt16} (some : digits ≠ [])
    (decimal : ∀ digit ∈ digits, digit.isDigit = true)
    (worth : Nat.ofDigitChars 10 digits 0 = port.toNat) :
    readPort (Octets.ofString (String.ofList digits)) = .ok port := by
  have small : port.toNat ≤ 65535 := Nat.le_of_lt_succ port.toNat_lt
  have read := Text.signed64_of_decimal some decimal (by rw [worth]; exact small.trans (by decide))
  simp [readPort, readText_ofString, read, worth, bind, Except.bind]
  omega

end CommandLine

end WorkflowLaunch
