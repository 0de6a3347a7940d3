import Mathlib.Data.List.TakeWhile

/-!
# Runs of characters

Readers take a run of characters of a class from the beginning of a text. The run is found again
when a text is put together from it and something that begins otherwise.
-/

namespace FormulaChain.Text

variable {p : Char → Bool} {run rest : List Char}

/-- A run of characters of a class ends where no such character follows. -/
theorem takeWhile_append_of_head (h : ∀ c ∈ run, p c = true)
    (hrest : ∀ c ∈ rest.head?, p c = false) : (run ++ rest).takeWhile p = run := by
  rw [List.takeWhile_append_of_pos h]
  cases rest with
  | nil => exact List.append_nil run
  | cons c rest => simp [hrest c rfl]

theorem dropWhile_append_of_head (h : ∀ c ∈ run, p c = true)
    (hrest : ∀ c ∈ rest.head?, p c = false) : (run ++ rest).dropWhile p = rest := by
  rw [List.dropWhile_append_of_pos h]
  cases rest with
  | nil => rfl
  | cons c rest => simp [hrest c rfl]

end FormulaChain.Text
