import DVoD.Async.Scheduler

/-!
# Rely and guarantee

A handler sees the world only through its answers, and others change the world
between them.  A `Protocol` says how the world may change (`rely`), what a program
promises of the world in which a command of it is executed (`pre`), and what an
answer tells of the world that gave it (`post`).

`Program.Keeps` is proved of a handler alone; `step_keeps` carries it through every
interleaving.
-/

namespace DVoD.Async

structure Protocol (E C : Type) (R : C → Type) where
  rely : E → E → Prop
  pre : E → C → Prop
  post : E → (c : C) → R c → Prop
  refl : ∀ e, rely e e
  trans : ∀ {e₁ e₂ e₃}, rely e₁ e₂ → rely e₂ e₃ → rely e₁ e₃

variable {M E C : Type} {R : C → Type} {α β : Type}

namespace Program

/-- Started in the world `e`, the program keeps its promises. -/
def Keeps (Γ : Protocol E C R) (e : E) : Program M C R α → Prop
  | done _ => True
  | sync _ k => ∀ m, (k m).Keeps Γ e
  | await c k => ∀ e₁, Γ.rely e e₁ → Γ.pre e₁ c ∧
      ∀ e₂ r, Γ.rely e₁ e₂ → Γ.post e₂ c r → (k r).Keeps Γ e₂

variable {Γ : Protocol E C R} {e e' : E} {p : Program M C R α}

theorem Keeps.rely (h : p.Keeps Γ e) (he : Γ.rely e e') : p.Keeps Γ e' := by
  induction p with
  | done a => trivial
  | sync u k ih => exact fun m => ih m (h m)
  | await c k ih => exact fun e₁ he₁ => h e₁ (Γ.trans he he₁)

theorem Keeps.bind {f : α → Program M C R β} (h : p.Keeps Γ e)
    (hf : ∀ a e', Γ.rely e e' → (f a).Keeps Γ e') : (p.bind f).Keeps Γ e := by
  induction p generalizing e with
  | done a => exact hf a e (Γ.refl e)
  | sync u k ih => exact fun m => ih m (h m) hf
  | await c k ih =>
    refine fun e₁ he₁ => ⟨(h e₁ he₁).1, ?_⟩
    intro e₂ r he₂ hr
    have he : Γ.rely e e₂ := Γ.trans he₁ he₂
    exact ih r ((h e₁ he₁).2 e₂ r he₂ hr) fun a e' he' => hf a e' (Γ.trans he he')

theorem Keeps.settle (h : p.Keeps Γ e) (m : M) : (p.settle m).2.Keeps Γ e := by
  induction p generalizing m with
  | done a => trivial
  | sync u k ih => exact ih m (h m) (u m)
  | await c k ih => exact h

theorem Keeps.pre {c : C} {k : R c → Program M C R α} (h : (await c k).Keeps Γ e) : Γ.pre e c :=
  (h e (Γ.refl e)).1

end Program

namespace System

variable {S : System M E C R}

/-- The parts of a system observe a protocol. -/
structure Observes (S : System M E C R) (Γ : Protocol E C R) : Prop where
  handler : ∀ req e, (S.handler req).Keeps Γ e
  answer : ∀ o e c, Γ.rely e (S.answer o e c).2 ∧ Γ.post (S.answer o e c).2 c (S.answer o e c).1
  happen : ∀ ev m e, Γ.rely e (S.happen ev (m, e)).2

/-- In every interleaving, all handlers keep their promises. -/
theorem step_keeps {Γ : Protocol E C R} (hS : S.Observes Γ) {cfg cfg' : Config S} {mv : Move S}
    (h : step cfg mv = some cfg') (hI : ∀ p ∈ cfg.tasks, p.Keeps Γ cfg.env) :
    ∀ p ∈ cfg'.tasks, p.Keeps Γ cfg'.env := by
  rcases step_cases h with ⟨req, -, rfl⟩ | ⟨i, u, k, -, ht, rfl⟩ | ⟨i, o, c, k, -, ht, rfl⟩ |
    ⟨ev, -, rfl⟩
  · intro p hp
    rcases List.mem_append.mp hp with hp | hp
    · exact hI p hp
    · rw [List.mem_singleton.mp hp]; exact hS.handler req cfg.env
  · intro p hp
    rcases List.mem_or_eq_of_mem_set hp with hp | rfl
    · exact hI p hp
    · exact (hI _ (List.mem_of_getElem? ht)).settle cfg.mem
  · obtain ⟨hrely, hpost⟩ := hS.answer o cfg.env c
    intro p hp
    rcases List.mem_or_eq_of_mem_set hp with hp | rfl
    · exact (hI p hp).rely hrely
    · have hk := hI _ (List.mem_of_getElem? ht) cfg.env (Γ.refl _)
      exact hk.2 _ _ hrely hpost
  · intro p hp
    exact (hI p hp).rely (hS.happen ev cfg.mem cfg.env)

end System

end DVoD.Async
