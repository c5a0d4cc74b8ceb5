set_option autoImplicit false

/-!
Octets and the text they encode in UTF-8. File contents, paths and command-line words are octets,
since none of them has to be text. `Octets.text?` reads text strictly; `Octets.lossy` shows any
octets, with one replacement character for each longest run that begins a character but does not
complete it.
-/

namespace WorkflowLaunch

abbrev Octets := List UInt8

namespace Octets

def ofString (text : String) : Octets := text.toByteArray.data.toList

def text? (octets : Octets) : Option String := String.fromUTF8? ⟨octets.toArray⟩

@[simp] theorem text?_ofString (text : String) : text? (ofString text) = some text := by
  simp [text?, ofString, String.fromUTF8?, String.fromUTF8, text.isValidUTF8]

theorem ofString_injective {left right : String} (h : ofString left = ofString right) :
    left = right := by
  have := congrArg text? h
  simpa using this

theorem text?_eq_some_iff {octets : Octets} {text : String} :
    text? octets = some text ↔ octets = ofString text := by
  constructor
  · intro read
    unfold text? String.fromUTF8? at read
    split at read
    · obtain rfl := Option.some.inj read
      rfl
    · simp at read
  · rintro rfl
    exact text?_ofString text

/-- The octets that may stand second in a character, and how many octets follow the first. -/
def continuation? (first : UInt8) : Option ((UInt8 × UInt8) × Nat) :=
  if 0xC2 ≤ first && first ≤ 0xDF then some ((0x80, 0xBF), 1)
  else if first == 0xE0 then some ((0xA0, 0xBF), 2)
  else if first == 0xED then some ((0x80, 0x9F), 2)
  else if 0xE1 ≤ first && first ≤ 0xEF then some ((0x80, 0xBF), 2)
  else if first == 0xF0 then some ((0x90, 0xBF), 3)
  else if 0xF1 ≤ first && first ≤ 0xF3 then some ((0x80, 0xBF), 3)
  else if first == 0xF4 then some ((0x80, 0x8F), 3)
  else none

/-- Octets of a character whose first octet was read: those still expected, and the range of the
next one. -/
structure Unfinished where
  awaited : Nat
  range : UInt8 × UInt8

def replacement : Char := '\uFFFD'

/-- `code` is the code point read so far when a character is unfinished. -/
def lossyFrom (code : Nat) : Option Unfinished → Octets → List Char
  | none, [] => []
  | some _, [] => [replacement]
  | pending, octet :: rest =>
    let start (_ : Unit) : List Char :=
      if octet < 0x80 then Char.ofNat octet.toNat :: lossyFrom 0 none rest
      else match continuation? octet with
        | none => replacement :: lossyFrom 0 none rest
        | some (range, awaited) =>
          lossyFrom (octet.toNat % (64 >>> awaited)) (some ⟨awaited, range⟩) rest
    match pending with
    | none => start ()
    | some ⟨awaited, first, last⟩ =>
      if first ≤ octet && octet ≤ last then
        let code := code * 64 + octet.toNat % 64
        if awaited = 1 then Char.ofNat code :: lossyFrom 0 none rest
        else lossyFrom code (some ⟨awaited - 1, 0x80, 0xBF⟩) rest
      else replacement :: start ()

/-- The text of some octets, invalid ones shown as U+FFFD. -/
def lossy (octets : Octets) : String := String.ofList (lossyFrom 0 none octets)

end Octets

end WorkflowLaunch
