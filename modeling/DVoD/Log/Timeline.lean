import Mathlib.Data.List.Basic

/-!
# Timelines

The values that something has had, each with the time since which it had it.  `Held` says
that a value was there at some time of an interval; what happens later does not change
that (`Held.concat`).
-/

namespace DVoD.Log

variable {α : Type} {timeline : List (ℕ × α)} {a b a' b' time : ℕ} {x y : α}

/-- The value was there by `b`, and not replaced before `a`. -/
def Held (timeline : List (ℕ × α)) (a b : ℕ) (x : α) : Prop :=
  ∃ before since after, timeline = before ++ (since, x) :: after ∧ since ≤ b ∧
    ∀ next ∈ after.head?, a ≤ next.1

theorem Held.mono (h : Held timeline a b x) (ha : a' ≤ a) (hb : b ≤ b') : Held timeline a' b' x := by
  obtain ⟨before, since, after, heq, hsince, hnext⟩ := h
  refine ⟨before, since, after, heq, Nat.le_trans hsince hb, ?_⟩
  intro next hmem
  exact Nat.le_trans ha (hnext next hmem)

/-- The value that is there now. -/
theorem held_concat (h : time ≤ b) : Held (timeline ++ [(time, x)]) a b x := by
  refine ⟨timeline, time, [], rfl, h, ?_⟩
  intro next hmem
  cases hmem

theorem Held.concat (h : Held timeline a b x) (htime : a ≤ time) :
    Held (timeline ++ [(time, y)]) a b x := by
  obtain ⟨before, since, after, rfl, hsince, hnext⟩ := h
  refine ⟨before, since, after ++ [(time, y)], by simp, hsince, ?_⟩
  intro next hmem
  cases after with
  | nil =>
    obtain rfl := Option.some.inj hmem
    exact htime
  | cons first after => exact hnext next hmem

/-- In order of time, what was there after `time` is not older than what came at `time`. -/
theorem Held.eq_or_mem (h : Held timeline a b x) (hsorted : (timeline.map Prod.fst).Pairwise (· ≤ ·))
    {before after : List (ℕ × α)} (heq : timeline = before ++ (time, y) :: after) (htime : time < a) :
    x = y ∨ x ∈ after.map Prod.snd := by
  obtain ⟨before', since, after', heq', -, hnext⟩ := h
  rw [heq] at heq' hsorted
  rcases List.append_eq_append_iff.mp heq' with ⟨middle, hbefore', hafter⟩ | ⟨middle, hbefore, hafter⟩
  · cases middle with
    | nil =>
      obtain ⟨hsame, -⟩ := List.cons.inj hafter
      exact Or.inl (congrArg Prod.snd hsame).symm
    | cons first middle =>
      obtain ⟨-, hafter⟩ := List.cons.inj hafter
      rw [hafter]
      exact Or.inr (by simp)
  · cases middle with
    | nil =>
      obtain ⟨hsame, -⟩ := List.cons.inj hafter
      exact Or.inl (congrArg Prod.snd hsame)
    | cons first middle =>
      -- the value was replaced by `time`, which is before `a`
      obtain ⟨-, hafter⟩ := List.cons.inj hafter
      have hreplaced : ∃ next ∈ after'.head?, next.1 ≤ time := by
        rw [hbefore, List.append_assoc, List.map_append, List.map_append] at hsorted
        cases middle with
        | nil =>
          rw [hafter]
          exact ⟨(time, y), rfl, Nat.le_refl _⟩
        | cons next middle =>
          rw [hafter]
          refine ⟨next, rfl, ?_⟩
          have hpairs := (List.pairwise_append.mp (List.pairwise_append.mp hsorted).2.1).2.2
          exact hpairs next.1 (by simp) time (by simp)
      obtain ⟨next, hmem, hle⟩ := hreplaced
      exact absurd (hnext next hmem) (by omega)

end DVoD.Log
