import Mathlib.Data.List.Basic

/-!
# The latest value in a log

A log is read by its last rows: `latest f` is what `f` finds in the last row in which it
finds anything.
-/

namespace DVoD.Log

variable {α β : Type} {f : α → Option β} {rows new : List α} {b : β}

def latest (f : α → Option β) (rows : List α) : Option β := rows.reverse.findSome? f

@[simp] theorem latest_nil : latest f [] = none := rfl

theorem latest_append : latest f (rows ++ new) = (latest f new).or (latest f rows) := by
  rw [latest, List.reverse_append, List.findSome?_append]
  rfl

theorem latest_concat (rows : List α) (a : α) :
    latest f (rows ++ [a]) = (f a).or (latest f rows) := by
  rw [latest_append]
  simp [latest]

theorem latest_eq_none : latest f rows = none ↔ ∀ a ∈ rows, f a = none := by
  simp [latest]

theorem exists_of_latest (h : latest f rows = some b) : ∃ a ∈ rows, f a = some b := by
  obtain ⟨a, ha, hfa⟩ := List.exists_of_findSome?_eq_some h
  exact ⟨a, List.mem_reverse.mp ha, hfa⟩

/-- Rows that all say the same, and are some rows. -/
theorem latest_of_forall (h : ∀ a ∈ rows, f a = some b) (hne : rows ≠ []) :
    latest f rows = some b := by
  rcases hlatest : latest f rows with _ | b'
  · obtain ⟨a, ha⟩ := List.exists_mem_of_ne_nil rows hne
    have hnone := latest_eq_none.mp hlatest a ha
    rw [h a ha] at hnone
    cases hnone
  · obtain ⟨a, ha, hfa⟩ := exists_of_latest hlatest
    rw [← hfa, h a ha]

/-- Rows that say nothing leave the latest value as it was. -/
theorem latest_append_of_none (h : ∀ a ∈ new, f a = none) :
    latest f (rows ++ new) = latest f rows := by
  rw [latest_append, latest_eq_none.mpr h, Option.none_or]

theorem latest_append_of_some (h : latest f new = some b) : latest f (rows ++ new) = some b := by
  rw [latest_append, h, Option.some_or]

end DVoD.Log
