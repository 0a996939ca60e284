import DVoD.Async.Rely

/-!
# Programs that throw

`ExceptT ε (Program M C R)` is a resumable program whose `throw` leaves the block it
stands in.  The rules of `Keeps`, `Guarded` and `Evaluates` for its sequencing and for
`tryCatch`.
-/

namespace DVoD.Async

variable {M E C ε : Type} {R : C → Type} {α β : Type}

namespace Program

variable {h : ExceptT ε (Program M C R) α} {f : α → ExceptT ε (Program M C R) β}
  {handler : ε → ExceptT ε (Program M C R) α}

/-! ### The programs behind the blocks -/

theorem run_bind (h : ExceptT ε (Program M C R) α) (f : α → ExceptT ε (Program M C R) β) :
    (h >>= f).run = Program.bind h.run fun
      | .ok a => (f a).run
      | .error e => done (.error e) := by
  change Program.bind h _ = Program.bind h _
  congr 1

theorem run_tryCatch (h : ExceptT ε (Program M C R) α)
    (handler : ε → ExceptT ε (Program M C R) α) :
    (tryCatch h handler).run = Program.bind h.run fun
      | .ok a => done (.ok a)
      | .error e => (handler e).run := by
  change Program.bind h _ = Program.bind h _
  congr 1

@[simp] theorem run_pure (a : α) : (pure a : ExceptT ε (Program M C R) α).run = done (.ok a) := rfl

@[simp] theorem run_throw (e : ε) :
    (throw e : ExceptT ε (Program M C R) α).run = done (.error e) := rfl

@[simp] theorem run_lift (p : Program M C R α) :
    (ExceptT.lift p : ExceptT ε (Program M C R) α).run = p.bind fun a => done (.ok a) := rfl

/-! ### Promises -/

section Keeps

variable {Γ : Protocol E C R} {e : E}

theorem keeps_bind (hh : h.run.Keeps Γ e) (hf : ∀ a e', Γ.rely e e' → (f a).run.Keeps Γ e') :
    (h >>= f).run.Keeps Γ e := by
  rw [run_bind]
  apply hh.bind
  intro a e' he
  cases a with
  | ok a => exact hf a e' he
  | error err => trivial

theorem keeps_tryCatch (hh : h.run.Keeps Γ e) (hf : ∀ err e', (handler err).run.Keeps Γ e') :
    (tryCatch h handler).run.Keeps Γ e := by
  rw [run_tryCatch]
  apply hh.bind
  intro a e' _
  cases a with
  | ok a => trivial
  | error err => exact hf err e'

theorem keeps_lift {p : Program M C R α} (hp : p.Keeps Γ e) :
    (ExceptT.lift p : ExceptT ε (Program M C R) α).run.Keeps Γ e :=
  hp.bind fun _ _ _ => trivial

end Keeps

/-! ### Guards -/

section Guarded

variable {G : (c : C) → R c → Prop}

def Returns (T : α → Prop) : Except ε α → Prop
  | .ok a => T a
  | .error _ => False

theorem guarded_bind_right {T : β → Prop} (hf : ∀ a, (f a).run.Guarded G (Returns T)) :
    (h >>= f).run.Guarded G (Returns T) := by
  rw [run_bind, guarded_bind]
  refine guarded_of_forall (fun a => not_not.mpr ?_) _
  cases a with
  | ok a => exact hf a
  | error err => exact id

theorem guarded_bind_left {T : β → Prop} (hh : h.run.Guarded G (Returns fun _ => True)) :
    (h >>= f).run.Guarded G (Returns T) := by
  rw [run_bind, guarded_bind]
  apply hh.mono
  intro a ha
  cases a with
  | ok a => trivial
  | error err => exact absurd id ha

/-- A sequence is guarded where each answer to its first command is in `G`, or what
    follows that answer is guarded. -/
theorem guarded_call_bind {T : β → Prop} {c : C} {f : R c → ExceptT ε (Program M C R) β}
    (hf : ∀ r, G c r ∨ (f r).run.Guarded G (Returns T)) :
    (ExceptT.lift (call c) >>= f).run.Guarded G (Returns T) := by
  rw [run_bind, run_lift, call_bind]
  exact hf

theorem guarded_tryCatch {T : α → Prop} (hh : h.run.Guarded G (Returns T))
    (hf : ∀ err, (handler err).run.Guarded G (Returns T)) :
    (tryCatch h handler).run.Guarded G (Returns T) := by
  rw [run_tryCatch, guarded_bind]
  apply hh.mono
  intro a ha
  cases a with
  | ok a => exact not_not.mp ha
  | error err => exact absurd (hf err) ha

theorem guarded_pure {T : α → Prop} {a : α} (ha : ¬ T a) :
    (pure a : ExceptT ε (Program M C R) α).run.Guarded G (Returns T) := ha

theorem guarded_throw {T : α → Prop} (e : ε) :
    (throw e : ExceptT ε (Program M C R) α).run.Guarded G (Returns T) := id

end Guarded

end Program

namespace System

open Program

variable {S : System M E C R} {h : ExceptT ε (Program M C R) α}
  {f : α → ExceptT ε (Program M C R) β} {handler : ε → ExceptT ε (Program M C R) α}
  {s s' : M × E} {tr : List (Answered R)}

/-! ### Evaluation -/

theorem evaluates_done {a b : α} :
    Evaluates S (.done a) s tr b s' ↔ tr = [] ∧ b = a ∧ s' = s := by
  constructor
  · intro h; cases h; exact ⟨rfl, rfl, rfl⟩
  · rintro ⟨rfl, rfl, rfl⟩; exact .done ..

/-- A sequence ends where its first part throws, or goes on with what that returned. -/
theorem evaluates_bind_run {b : Except ε β} :
    Evaluates S (h >>= f).run s tr b s' ↔
      (∃ e, b = .error e ∧ Evaluates S h.run s tr (.error e) s') ∨
      (∃ tr₁ a s₁ tr₂, Evaluates S h.run s tr₁ (.ok a) s₁ ∧ Evaluates S (f a).run s₁ tr₂ b s' ∧
        tr = tr₁ ++ tr₂) := by
  rw [run_bind, evaluates_bind]
  constructor
  · rintro ⟨tr₁, a, s₁, tr₂, h₁, h₂, rfl⟩
    cases a with
    | ok a => exact Or.inr ⟨tr₁, a, s₁, tr₂, h₁, h₂, rfl⟩
    | error e =>
      obtain ⟨rfl, rfl, rfl⟩ := evaluates_done.mp h₂
      exact Or.inl ⟨e, rfl, by rwa [List.append_nil]⟩
  · rintro (⟨e, rfl, h₁⟩ | ⟨tr₁, a, s₁, tr₂, h₁, h₂, rfl⟩)
    · exact ⟨tr, _, s', [], h₁, .done .., (List.append_nil _).symm⟩
    · exact ⟨tr₁, _, s₁, tr₂, h₁, h₂, rfl⟩

theorem evaluates_tryCatch_run {b : Except ε α} :
    Evaluates S (tryCatch h handler).run s tr b s' ↔
      (∃ a, b = .ok a ∧ Evaluates S h.run s tr (.ok a) s') ∨
      (∃ tr₁ e s₁ tr₂, Evaluates S h.run s tr₁ (.error e) s₁ ∧
        Evaluates S (handler e).run s₁ tr₂ b s' ∧ tr = tr₁ ++ tr₂) := by
  rw [run_tryCatch, evaluates_bind]
  constructor
  · rintro ⟨tr₁, a, s₁, tr₂, h₁, h₂, rfl⟩
    cases a with
    | ok a =>
      obtain ⟨rfl, rfl, rfl⟩ := evaluates_done.mp h₂
      exact Or.inl ⟨a, rfl, by rwa [List.append_nil]⟩
    | error e => exact Or.inr ⟨tr₁, e, s₁, tr₂, h₁, h₂, rfl⟩
  · rintro (⟨a, rfl, h₁⟩ | ⟨tr₁, e, s₁, tr₂, h₁, h₂, rfl⟩)
    · exact ⟨tr, _, s', [], h₁, .done .., (List.append_nil _).symm⟩
    · exact ⟨tr₁, _, s₁, tr₂, h₁, h₂, rfl⟩

end System

end DVoD.Async
