set_option autoImplicit false

/-!
Splitting a list at a separator. A list with `n` separators has `n + 1` pieces, empty ones
included, and joining the pieces gives the list back.
-/

namespace WorkflowLaunch.Text

variable {α : Type} [DecidableEq α]

def pieces (separator : α) : List α → List (List α)
  | [] => [[]]
  | item :: rest =>
    if item = separator then [] :: pieces separator rest
    else match pieces separator rest with
      | [] => [[item]]
      | piece :: others => (item :: piece) :: others

theorem pieces_ne_nil (separator : α) (items : List α) : pieces separator items ≠ [] := by
  induction items with
  | nil => simp [pieces]
  | cons item rest ih =>
    rw [pieces]
    split
    · simp
    · split <;> simp

theorem intercalate_pieces (separator : α) (items : List α) :
    [separator].intercalate (pieces separator items) = items := by
  induction items with
  | nil => rfl
  | cons item rest ih =>
    rw [pieces]
    split
    · next h =>
      subst h
      cases hp : pieces item rest with
      | nil => exact absurd hp (pieces_ne_nil _ _)
      | cons piece others => rw [hp] at ih; simp [List.intercalate, ← ih]
    · cases hp : pieces separator rest with
      | nil => exact absurd hp (pieces_ne_nil _ _)
      | cons piece others =>
        rw [hp] at ih
        cases others <;> simp_all [List.intercalate]

end WorkflowLaunch.Text
