import Mathlib.Data.List.Infix

/-!
# Cutting at a delimiter

`cutAt d s` is what stands before and behind the first occurrence of `d` in `s`.  What
comes later does not move it (`cutAt_append`), so that a reader that looks again at all it
has received finds the same cut however its input is chopped up.
-/

namespace DVoD.Text

variable {α : Type} [DecidableEq α] {d s t before after : List α}

/-- The delimiter is not empty. -/
def cutAt (d : List α) : List α → Option (List α × List α)
  | [] => none
  | a :: s =>
      if d <+: a :: s then some ([], (a :: s).drop d.length)
      else (cutAt d s).map fun cut => (a :: cut.1, cut.2)

/-- The cut is at the beginning, or it is the cut of what follows. -/
theorem cutAt_cons_eq_some_iff {a : α} : cutAt d (a :: s) = some (before, after) ↔
    (d <+: a :: s ∧ before = [] ∧ after = (a :: s).drop d.length) ∨
    (¬ d <+: a :: s ∧ ∃ before', before = a :: before' ∧ cutAt d s = some (before', after)) := by
  rw [cutAt]
  split
  · next hstart => simp [hstart, eq_comm]
  · next hstart =>
    simp only [hstart, false_and, not_false_eq_true, true_and, false_or, Option.map_eq_some_iff,
      Prod.exists, Prod.mk.injEq]
    constructor
    · rintro ⟨before', after', hcut, rfl, rfl⟩
      exact ⟨before', rfl, hcut⟩
    · rintro ⟨before', rfl, hcut⟩
      exact ⟨before', after, hcut, rfl, rfl⟩

theorem eq_append_of_cutAt (h : cutAt d s = some (before, after)) : s = before ++ (d ++ after) := by
  induction s generalizing before with
  | nil => cases h
  | cons a s ih =>
    rcases cutAt_cons_eq_some_iff.mp h with ⟨hstart, rfl, rfl⟩ | ⟨-, before', rfl, hcut⟩
    · exact (List.prefix_iff_eq_append.mp hstart).symm
    · exact congrArg (a :: ·) (ih hcut)

theorem cutAt_append (h : cutAt d s = some (before, after)) (t : List α) :
    cutAt d (s ++ t) = some (before, after ++ t) := by
  induction s generalizing before with
  | nil => cases h
  | cons a s ih =>
    rw [List.cons_append]
    rcases cutAt_cons_eq_some_iff.mp h with ⟨hstart, rfl, rfl⟩ | ⟨hstart, before', rfl, hcut⟩
    · have hlonger : d <+: a :: (s ++ t) := hstart.trans (List.prefix_append (a :: s) t)
      rw [cutAt, if_pos hlonger, ← List.cons_append, List.drop_append_of_le_length hstart.length_le]
    · have hlength : d.length ≤ (a :: s).length := by
        rw [eq_append_of_cutAt hcut]
        simp only [List.length_cons, List.length_append]
        omega
      have hnot : ¬ d <+: a :: (s ++ t) := by
        intro hlonger
        exact hstart (List.prefix_of_prefix_length_le hlonger (List.prefix_append (a :: s) t) hlength)
      exact cutAt_cons_eq_some_iff.mpr (Or.inr ⟨hnot, before', rfl, ih hcut⟩)

theorem cutAt_eq_none_iff (hd : d ≠ []) : cutAt d s = none ↔ ¬ d <:+: s := by
  induction s with
  | nil =>
    refine iff_of_true rfl ?_
    intro hinfix
    exact hd (List.infix_nil.mp hinfix)
  | cons a s ih =>
    rw [List.infix_cons_iff, not_or, ← ih, cutAt]
    split
    · next hstart => exact iff_of_false nofun (not_and_of_not_left _ (not_not.mpr hstart))
    · next hstart =>
      rw [Option.map_eq_none_iff]
      exact (and_iff_right hstart).symm

/-- It is the first occurrence. -/
theorem length_le_of_cutAt (h : cutAt d s = some (before, after)) {before' after' : List α}
    (hs : s = before' ++ (d ++ after')) : before.length ≤ before'.length := by
  induction s generalizing before before' with
  | nil => cases h
  | cons a s ih =>
    rcases cutAt_cons_eq_some_iff.mp h with ⟨-, rfl, -⟩ | ⟨hstart, first, rfl, hcut⟩
    · exact Nat.zero_le _
    · cases before' with
      | nil => exact absurd ⟨after', hs.symm⟩ hstart
      | cons a' before' => exact Nat.succ_le_succ (ih hcut (List.cons.inj hs).2)

theorem cutAt_eq_some_iff (hd : d ≠ []) : cutAt d s = some (before, after) ↔
    s = before ++ (d ++ after) ∧
      ∀ before' after', s = before' ++ (d ++ after') → before.length ≤ before'.length := by
  constructor
  · intro h
    refine ⟨eq_append_of_cutAt h, ?_⟩
    intro before' after' hs
    exact length_le_of_cutAt h hs
  · rintro ⟨hs, hfirst⟩
    cases hcut : cutAt d s with
    | none => exact absurd ⟨before, after, by rw [hs, List.append_assoc]⟩ ((cutAt_eq_none_iff hd).mp hcut)
    | some cut =>
      have hcut' := eq_append_of_cutAt hcut
      have hlength : before.length = cut.1.length :=
        Nat.le_antisymm (hfirst _ _ hcut') (length_le_of_cutAt hcut hs)
      have happend := List.append_inj (hs.symm.trans hcut') hlength
      rw [happend.1, List.append_cancel_left happend.2]

end DVoD.Text
