import Mathlib.Data.List.Basic

/-!
# Runs of machines

A machine is a partial step function: `step s m` is the state after the move `m`, or
`none` where the move cannot happen.  `run_iff` is the rule for theorems that say exactly
which runs are good: a run is good where its start is and every move is.
-/

namespace DVoD.Machine

variable {σ μ : Type} {step : σ → μ → Option σ} {I P : σ → Prop} {p q : σ → μ → Prop}
  {s s' : σ} {m : μ} {ms ms' : List μ}

def run (step : σ → μ → Option σ) (s : σ) (ms : List μ) : Option σ := ms.foldlM step s

/-- Every move of a run satisfies `p`, in the state in which it is made. -/
def AllMoves (step : σ → μ → Option σ) (p : σ → μ → Prop) (s : σ) : List μ → Prop
  | [] => True
  | m :: ms => p s m ∧ ∀ s', step s m = some s' → AllMoves step p s' ms

@[simp] theorem run_nil : run step s [] = some s := rfl

theorem run_cons : run step s (m :: ms) = some s' ↔ ∃ s₁, step s m = some s₁ ∧ run step s₁ ms = some s' := by
  unfold run
  rw [List.foldlM_cons]
  exact Option.bind_eq_some_iff

theorem run_append : run step s (ms ++ ms') = some s' ↔
    ∃ s₁, run step s ms = some s₁ ∧ run step s₁ ms' = some s' := by
  unfold run
  rw [List.foldlM_append]
  exact Option.bind_eq_some_iff

/-- A run on fixed moves, from its evaluation. -/
theorem exists_run {Q : σ → Prop} [DecidablePred Q]
    (h : ((run step s ms).any fun s' => decide (Q s')) = true) : ∃ s', run step s ms = some s' ∧ Q s' := by
  obtain ⟨s', hrun, hs'⟩ := (Option.any_eq_true ..).mp h
  exact ⟨s', hrun, of_decide_eq_true hs'⟩

theorem allMoves_cons (h : step s m = some s') :
    AllMoves step p s (m :: ms) ↔ p s m ∧ AllMoves step p s' ms := by
  constructor
  · rintro ⟨hm, hms⟩
    exact ⟨hm, hms s' h⟩
  · rintro ⟨hm, hms⟩
    refine ⟨hm, ?_⟩
    intro s₁ h₁
    obtain rfl := Option.some.inj (h.symm.trans h₁)
    exact hms

/-- Runs on fixed moves can be checked. -/
instance decidableAllMoves [∀ s m, Decidable (p s m)] :
    (s : σ) → (ms : List μ) → Decidable (AllMoves step p s ms)
  | _, [] => .isTrue trivial
  | s, m :: ms =>
      match h : step s m with
      | none => decidable_of_iff (p s m) (by simp [AllMoves, h])
      | some s' =>
          have := decidableAllMoves s' ms
          decidable_of_iff (p s m ∧ AllMoves step p s' ms) (allMoves_cons h).symm

theorem allMoves_of_mem (h : ∀ m ∈ ms, ∀ s, p s m) : AllMoves step p s ms := by
  induction ms generalizing s with
  | nil => trivial
  | cons m ms ih =>
    have hall := List.forall_mem_cons.mp h
    exact ⟨hall.1 s, fun s' _ => ih hall.2⟩

theorem allMoves_iff_append : AllMoves step p s ms ↔
    ∀ ms₁ m ms₂ s₁, ms = ms₁ ++ m :: ms₂ → run step s ms₁ = some s₁ → p s₁ m := by
  induction ms generalizing s with
  | nil =>
    refine iff_of_true trivial fun ms₁ m ms₂ s₁ h => ?_
    exact absurd h.symm (by simp)
  | cons m ms ih =>
    constructor
    · rintro ⟨hm, hms⟩ ms₁ m' ms₂ s₁ heq hrun
      rcases ms₁ with _ | ⟨m₁, ms₁⟩
      · obtain ⟨rfl, rfl⟩ := List.cons.inj heq
        obtain rfl := Option.some.inj hrun
        exact hm
      · obtain ⟨rfl, htail⟩ := List.cons.inj heq
        obtain ⟨s', hstep, hrun⟩ := run_cons.mp hrun
        exact ih.mp (hms s' hstep) ms₁ m' ms₂ s₁ htail hrun
    · intro h
      refine ⟨h [] m ms s rfl rfl, fun s' hstep => ih.mpr ?_⟩
      intro ms₁ m' ms₂ s₁ heq hrun
      exact h (m :: ms₁) m' ms₂ s₁ (by rw [heq, List.cons_append]) (run_cons.mpr ⟨s', hstep, hrun⟩)

theorem allMoves_append_left (h : AllMoves step p s (ms ++ ms')) : AllMoves step p s ms := by
  rw [allMoves_iff_append] at h ⊢
  intro ms₁ m ms₂ s₁ heq
  exact h ms₁ m (ms₂ ++ ms') s₁ (by rw [heq, List.append_assoc, List.cons_append])

theorem allMoves_append_right {s₁ : σ} (hrun : run step s ms = some s₁)
    (h : AllMoves step p s (ms ++ ms')) : AllMoves step p s₁ ms' := by
  rw [allMoves_iff_append] at h ⊢
  intro ms₁ m ms₂ s₂ heq hrun₂
  refine h (ms ++ ms₁) m ms₂ s₂ ?_ (run_append.mpr ⟨s₁, hrun, hrun₂⟩)
  rw [heq, List.append_assoc]

theorem AllMoves.and (hp : AllMoves step p s ms) (hq : AllMoves step q s ms) :
    AllMoves step (fun s m => p s m ∧ q s m) s ms := by
  rw [allMoves_iff_append] at hp hq ⊢
  intro ms₁ m ms₂ s₁ heq hrun
  exact ⟨hp ms₁ m ms₂ s₁ heq hrun, hq ms₁ m ms₂ s₁ heq hrun⟩

/-- **The invariant rule**, for runs whose moves satisfy `q`. -/
theorem run_invariant (hstep : ∀ {s m s'}, I s → q s m → step s m = some s' → I s')
    (h : run step s ms = some s') (hq : AllMoves step q s ms) (hI : I s) : I s' := by
  induction ms generalizing s with
  | nil =>
    obtain rfl := Option.some.inj h
    exact hI
  | cons m ms ih =>
    obtain ⟨s₁, hm, hms⟩ := run_cons.mp h
    have hq' := (allMoves_cons hm).mp hq
    exact ih hms hq'.2 (hstep hI hq'.1 hm)

/-- **The rule for good runs.**  Where a move keeps the invariant, and is followed by a
    good state exactly if the state before was good and the move satisfies `p`, the states
    that a run reaches are good exactly if the first is and all moves satisfy `p`. -/
theorem run_iff (hI : ∀ {s m s'}, I s → q s m → step s m = some s' → I s')
    (hP : ∀ {s m s'}, I s → q s m → step s m = some s' → (P s' ↔ P s ∧ p s m))
    (h : run step s ms = some s') (hq : AllMoves step q s ms) (hs : I s) :
    P s' ↔ P s ∧ AllMoves step p s ms := by
  induction ms generalizing s with
  | nil =>
    obtain rfl := Option.some.inj h
    exact (and_iff_left trivial).symm
  | cons m ms ih =>
    obtain ⟨s₁, hm, hms⟩ := run_cons.mp h
    have hq' := (allMoves_cons hm).mp hq
    rw [allMoves_cons hm, ih hms hq'.2 (hI hs hq'.1 hm), hP hs hq'.1 hm, and_assoc]

/-- **The rule for runs that are good all along.**  `J` is the invariant of runs whose moves
    satisfy `p`, and a move that does not satisfy it is followed by a state that is not good. -/
theorem always_iff {J : σ → Prop} (hI : ∀ {s m s'}, I s → q s m → step s m = some s' → I s')
    (hJ : ∀ {s m s'}, I s → J s → q s m → p s m → step s m = some s' → J s')
    (hP : ∀ {s}, I s → J s → P s)
    (hbad : ∀ {s m}, I s → P s → q s m → ¬ p s m → ∃ s', step s m = some s' ∧ ¬ P s')
    (hq : AllMoves step q s ms) (hs : I s) (hs' : J s) :
    (∀ ms₁ ms₂ s₁, ms = ms₁ ++ ms₂ → run step s ms₁ = some s₁ → P s₁) ↔ AllMoves step p s ms := by
  constructor
  · intro hgood
    rw [allMoves_iff_append]
    intro ms₁ m ms₂ s₁ heq hrun
    by_contra hnot
    have hq₁ : AllMoves step q s (ms₁ ++ m :: ms₂) := heq ▸ hq
    obtain ⟨s₂, hstep, hbad₂⟩ := hbad (run_invariant hI hrun (allMoves_append_left hq₁) hs)
      (hgood ms₁ (m :: ms₂) s₁ heq hrun) (allMoves_iff_append.mp hq₁ ms₁ m ms₂ s₁ rfl hrun) hnot
    have hrun₂ : run step s (ms₁ ++ [m]) = some s₂ :=
      run_append.mpr ⟨s₁, hrun, run_cons.mpr ⟨s₂, hstep, rfl⟩⟩
    exact hbad₂ (hgood (ms₁ ++ [m]) ms₂ s₂ (by rw [heq, List.append_assoc]; rfl) hrun₂)
  · intro hp ms₁ ms₂ s₁ heq hrun
    have hall := hq.and hp
    rw [heq] at hall
    have hinv := run_invariant (I := fun s => I s ∧ J s)
      (fun h hm hstep => ⟨hI h.1 hm.1 hstep, hJ h.1 h.2 hm.1 hm.2 hstep⟩) hrun
      (allMoves_append_left hall) ⟨hs, hs'⟩
    exact hP hinv.1 hinv.2

/-! ### Runs of any moves -/

theorem allMoves_true : AllMoves step (fun _ _ => True) s ms := allMoves_of_mem fun _ _ _ => trivial

theorem run_keeps (hstep : ∀ {s m s'}, I s → step s m = some s' → I s')
    (h : run step s ms = some s') (hI : I s) : I s' :=
  run_invariant (fun hs _ hm => hstep hs hm) h allMoves_true hI

theorem run_good_iff (hI : ∀ {s m s'}, I s → step s m = some s' → I s')
    (hP : ∀ {s m s'}, I s → step s m = some s' → (P s' ↔ P s ∧ p s m))
    (h : run step s ms = some s') (hs : I s) : P s' ↔ P s ∧ AllMoves step p s ms :=
  run_iff (fun hs _ hm => hI hs hm) (fun hs _ hm => hP hs hm) h allMoves_true hs

theorem always_good_iff (hI : ∀ {s m s'}, I s → step s m = some s' → I s')
    (hP : ∀ {s m s'}, I s → P s → p s m → step s m = some s' → P s')
    (hbad : ∀ {s m}, I s → P s → ¬ p s m → ∃ s', step s m = some s' ∧ ¬ P s') (hs : I s) (hs' : P s) :
    (∀ ms₁ ms₂ s₁, ms = ms₁ ++ ms₂ → run step s ms₁ = some s₁ → P s₁) ↔ AllMoves step p s ms :=
  always_iff (fun hs _ hm => hI hs hm) (fun hs hs' _ hp hm => hP hs hs' hp hm) (fun _ hs' => hs')
    (fun hs hs' _ hnot => hbad hs hs' hnot) allMoves_true hs hs'

end DVoD.Machine
