import Mathlib.Data.List.Basic

/-!
# Choosing from a list

The first element of a kind, or else the first of one that will do:
`(l.find? (p ·)).or (l.find? (n ·))`.  Where two such choices look for different kinds, the
first element of either decides whether they come to the same (`choice_eq_choice_iff`).
-/

namespace DVoD.Log

variable {α : Type} {l : List α} {a : α} {p q n m u : α → Prop} [DecidablePred p] [DecidablePred q]
  [DecidablePred n] [DecidablePred m] [DecidablePred u]

theorem find?_eq_none_iff_forall : l.find? (p ·) = none ↔ ∀ b ∈ l, ¬ p b := by
  simp only [List.find?_eq_none, decide_eq_true_iff]

theorem of_find?_eq_some (h : l.find? (p ·) = some a) : p a := by
  have hdecide := List.find?_some h
  exact of_decide_eq_true hdecide

/-- The first of a kind is also the first of a narrower one, if it is of that at all. -/
theorem find?_eq_some_of_imp (h : l.find? (q ·) = some a) (hpq : ∀ b, p b → q b) (ha : p a) :
    l.find? (p ·) = some a := by
  obtain ⟨-, before, after, hl, hbefore⟩ := List.find?_eq_some_iff_append.mp h
  refine List.find?_eq_some_iff_append.mpr ⟨decide_eq_true ha, before, after, hl, ?_⟩
  intro b hb
  have hq := hbefore b hb
  rw [Bool.not_eq_true', decide_eq_false_iff_not] at hq ⊢
  exact mt (hpq b) hq

theorem find?_eq_head?_iff : l.find? (n ·) = l.head? ↔ ∀ a, l.head? = some a → n a := by
  constructor
  · intro h a ha
    rw [ha] at h
    exact of_find?_eq_some h
  · intro h
    cases l with
    | nil => rfl
    | cons a l => exact List.find?_cons_of_pos (decide_eq_true (h a rfl))

/-- What is not looked for is chosen where nothing that is looked for is there. -/
theorem choice_eq_some_iff (ha : ¬ p a) : (l.find? (p ·)).or (l.find? (n ·)) = some a ↔
    l.find? (n ·) = some a ∧ ∀ b ∈ l, ¬ p b := by
  rw [← find?_eq_none_iff_forall]
  cases hfind : l.find? (p ·) with
  | none => simp only [Option.none_or, and_true]
  | some b =>
    refine iff_of_false ?_ ?_
    · intro hb
      rw [Option.some_or, Option.some.injEq] at hb
      exact ha (hb ▸ of_find?_eq_some hfind)
    · rintro ⟨-, hnone⟩
      cases hnone

/-- When two choices come to the same: the first element that either looks for is looked for
    by both; or it is what one of them chooses for want of what it looks for.  Where there is
    none, the same must do for both. -/
theorem choice_eq_choice_iff :
    (l.find? (p ·)).or (l.find? (n ·)) = (l.find? (u ·)).or (l.find? (m ·)) ↔
      (∀ a, l.find? (fun b => u b ∨ p b) = some a → (u a ∧ p a) ∨
        (l.find? (m ·) = some a ∧ ∀ b ∈ l, ¬ u b) ∨ (l.find? (n ·) = some a ∧ ∀ b ∈ l, ¬ p b)) ∧
      (l.find? (fun b => u b ∨ p b) = none → l.find? (n ·) = l.find? (m ·)) := by
  cases hfirst : l.find? (fun b => u b ∨ p b) with
  | none =>
    have hnone := find?_eq_none_iff_forall.mp hfirst
    have hp : l.find? (p ·) = none :=
      find?_eq_none_iff_forall.mpr fun b hb hpb => hnone b hb (Or.inr hpb)
    have hu : l.find? (u ·) = none :=
      find?_eq_none_iff_forall.mpr fun b hb hub => hnone b hb (Or.inl hub)
    simp [hp, hu]
  | some a =>
    have hmem := List.mem_of_find?_eq_some hfirst
    have hor : u a ∨ p a := of_find?_eq_some (p := fun b => u b ∨ p b) hfirst
    have hfindu : u a → l.find? (u ·) = some a := find?_eq_some_of_imp hfirst fun _ => Or.inl
    have hfindp : p a → l.find? (p ·) = some a := find?_eq_some_of_imp hfirst fun _ => Or.inr
    by_cases hu : u a
    · have hsome : ¬ ∀ b ∈ l, ¬ u b := fun hnone => hnone a hmem hu
      rw [hfindu hu, Option.some_or]
      by_cases hp : p a
      · simp [hfindp hp, hu, hp]
      · rw [choice_eq_some_iff hp]
        simp [hp, hsome]
    · have hp := hor.resolve_left hu
      have hsome : ¬ ∀ b ∈ l, ¬ p b := fun hnone => hnone a hmem hp
      rw [hfindp hp, Option.some_or, eq_comm, choice_eq_some_iff hu]
      simp [hu, hsome]

end DVoD.Log
