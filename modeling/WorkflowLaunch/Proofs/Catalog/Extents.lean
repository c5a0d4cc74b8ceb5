import WorkflowLaunch.Catalog.Decoding
import WorkflowLaunch.Proofs.Json.Extents

set_option autoImplicit false

/-!
How much the readers of a catalog take. Those of its two members stop where passing over the member
would stop, though they accept a type in two forms.
-/

namespace WorkflowLaunch.Catalog

open Json
open Attribute (ValueType Table)

variable {text rest : List Char}

theorem spans_readNamespaces : Spans readNamespaces :=
  spans_readList (spans_readText "a string")

theorem typeNamed_eq_ok {name : String} {type : ValueType}
    (read : typeNamed name text = .ok (type, rest)) : rest = text := by
  unfold typeNamed at read
  split at read
  · exact (Prod.mk.inj (Except.ok.inj read)).2.symm
  · simp at read

theorem readKey_eq_ok {name : String} (read : readKey text = .ok (name, rest)) :
    ∃ inner, skipBlanks text = '"' :: inner ∧ readString inner = .ok (name, rest) := by
  unfold readKey at read
  split at read
  · next inner quote => exact ⟨inner, quote, read⟩
  · simp at read
  · simp at read
  · simp at read

theorem passes_of_readNull (read : readNull text = .ok rest) : Passes 1 text rest := by
  unfold readNull at read
  split at read
  · next letters found =>
    refine .scalar ?_
    rw [found]
    simp [skipScalar, read, Except.map]
  · simp at read

theorem spans_readType : Spans readType := by
  intro text type rest read
  unfold readType at read
  split at read
  · simp at read
  · next inner quote =>
    obtain ⟨⟨name, behind⟩, taken, named⟩ := bind_eq_ok.mp read
    obtain rfl := typeNamed_eq_ok named
    refine ⟨1, .scalar ?_⟩
    rw [quote, skipScalar_string (skipString_of_readString taken)]
  · next inner brace =>
    have opened : skipBlanks text = Frame.object.opening :: inner := brace
    obtain ⟨⟨name, behind⟩, key, onward⟩ := bind_eq_ok.mp read
    obtain ⟨⟨type', behind'⟩, named, onward⟩ := bind_eq_ok.mp onward
    obtain ⟨value, colon, onward⟩ := bind_eq_ok.mp onward
    obtain ⟨close, null, onward⟩ := bind_eq_ok.mp onward
    obtain ⟨letters, quote, taken⟩ := readKey_eq_ok key
    rw [typeNamed_eq_ok named] at colon
    split at onward
    · next last found =>
      obtain ⟨_, rfl⟩ := Prod.mk.inj (Except.ok.inj onward)
      have closed : Finishes 1 .object .separator close last := .close (by decide) found
      have item := Finishes.value (passes_of_readNull null) closed
      exact ⟨_, .whole opened
        (.first quote (by decide) (skipKey_of_read quote taken colon) item)⟩
    · simp at onward
    · simp at onward
  · simp at read

theorem spansMember_readAttribute : SpansMember readAttribute := by
  intro table name text next rest read
  obtain ⟨value, colon, read⟩ := bind_eq_ok.mp read
  obtain ⟨⟨type, behind⟩, taken, same⟩ := bind_eq_ok.mp read
  obtain ⟨_, rfl⟩ := Prod.mk.inj (Except.ok.inj same)
  obtain ⟨limit, passes⟩ := spans_readType _ _ _ taken
  exact ⟨value, limit, colon, passes⟩

theorem spans_readAttributes : Spans readAttributes := by
  intro text table rest read
  unfold readAttributes at read
  split at read
  · next inner brace =>
    have opened : skipBlanks text = Frame.object.opening :: inner := brace
    obtain ⟨limit, finishes⟩ := finishes_readMembers spansMember_readAttribute read
    exact ⟨limit + 1, .whole opened finishes⟩
  · simp at read

end WorkflowLaunch.Catalog
