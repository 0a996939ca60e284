import DVoD.Async.Exception

/-!
# Results and the memory behind them

The memory of a process moves on while a handler is parked, through other handlers and by
itself.  Where it only moves along an order, a handler can promise something of its result
and of the memory at its end: `Program.Ends` is the promise, proved of a handler alone, and
`run_ends` carries it through every interleaving.
-/

namespace DVoD.Async

/-- An order along which memory moves. -/
structure Ageing (M : Type) where
  le : M → M → Prop
  refl : ∀ m, le m m
  trans : ∀ {m₁ m₂ m₃}, le m₁ m₂ → le m₂ m₃ → le m₁ m₃

variable {M E C ε : Type} {R : C → Type} {α β : Type}

namespace Program

/-- From the memory `m` on, the program moves the memory along the order, and ends in a
    memory that goes with its result. -/
def Ends (A : Ageing M) (T : M → α → Prop) : M → Program M C R α → Prop
  | m, done a => T m a
  | m, sync u k => ∀ m', A.le m m' → A.le m' (u m') ∧ (k m').Ends A T (u m')
  | m, await _ k => ∀ r, (k r).Ends A T m

variable {A : Ageing M} {T : M → α → Prop} {T' : M → β → Prop} {m m' : M} {p : Program M C R α}

/-- The promise outlives what others do to the memory. -/
theorem Ends.later (hT : ∀ m m' a, A.le m m' → T m a → T m' a) (h : p.Ends A T m)
    (hle : A.le m m') : p.Ends A T m' := by
  induction p with
  | done a => exact hT m m' a hle h
  | sync u k ih => exact fun m'' hle' => h m'' (A.trans hle hle')
  | await c k ih => exact fun r => ih r (h r)

theorem Ends.bind {f : α → Program M C R β} (h : p.Ends A T m)
    (hf : ∀ a m', A.le m m' → T m' a → (f a).Ends A T' m') : (p.bind f).Ends A T' m := by
  induction p generalizing m with
  | done a => exact hf a m (A.refl m) h
  | sync u k ih =>
    intro m' hle
    obtain ⟨hu, hk⟩ := h m' hle
    refine ⟨hu, ih m' hk fun a m'' hle' => hf a m'' ?_⟩
    exact A.trans hle (A.trans hu hle')
  | await c k ih => exact fun r => ih r (h r) hf

theorem Ends.settle (h : p.Ends A T m) : A.le m (p.settle m).1 ∧ (p.settle m).2.Ends A T (p.settle m).1 := by
  induction p generalizing m with
  | done a => exact ⟨A.refl m, h⟩
  | sync u k ih =>
    obtain ⟨hu, hk⟩ := h m (A.refl m)
    obtain ⟨hle, hends⟩ := ih m hk
    exact ⟨A.trans hu hle, hends⟩
  | await c k ih => exact ⟨A.refl m, h⟩

/-! ### Programs that throw -/

/-- What is promised of a result, and nothing of an exception. -/
def OrThrows (T : M → α → Prop) : M → Except ε α → Prop
  | m, .ok a => T m a
  | _, .error _ => True

/-- Nothing is promised of the result. -/
abbrev Anything : M → Except ε α → Prop := OrThrows fun _ _ => True

section Throws

variable {h : ExceptT ε (Program M C R) α} {f : α → ExceptT ε (Program M C R) β}
  {handler : ε → ExceptT ε (Program M C R) α}

theorem ends_bind (hh : h.run.Ends A Anything m)
    (hf : ∀ a m', A.le m m' → (f a).run.Ends A (OrThrows T') m') :
    (h >>= f).run.Ends A (OrThrows T') m := by
  rw [run_bind]
  refine hh.bind fun a m' hle _ => ?_
  cases a with
  | ok a => exact hf a m' hle
  | error err => trivial

theorem ends_tryCatch (hh : h.run.Ends A (OrThrows T) m)
    (hf : ∀ err m', A.le m m' → (handler err).run.Ends A (OrThrows T) m') :
    (tryCatch h handler).run.Ends A (OrThrows T) m := by
  rw [run_tryCatch]
  refine hh.bind fun a m' hle ha => ?_
  cases a with
  | ok a => exact ha
  | error err => exact hf err m' hle

end Throws

end Program

namespace System

variable {S : System M E C R} {A : Ageing M} {T : M → S.Reply → Prop}

/-- The move does not turn the memory back. -/
def Forward (A : Ageing M) (cfg : Config S) (mv : Move S) : Prop :=
  ∀ ev, mv = .happen ev → A.le cfg.mem (S.happen ev (cfg.mem, cfg.env)).1

theorem allMoves_of_mem {P : Config S → Move S → Prop} {cfg : Config S} {mvs : List (Move S)}
    (h : ∀ mv ∈ mvs, ∀ cfg, P cfg mv) : AllMoves P cfg mvs := by
  induction mvs generalizing cfg with
  | nil => trivial
  | cons mv mvs ih =>
    obtain ⟨hmv, hmvs⟩ := List.forall_mem_cons.mp h
    exact ⟨hmv cfg, fun cfg' _ => ih hmvs⟩

theorem step_ends (hT : ∀ m m' a, A.le m m' → T m a → T m' a)
    (hhandler : ∀ req m, (S.handler req).Ends A T m) {cfg cfg' : Config S} {mv : Move S}
    (hI : ∀ p ∈ cfg.tasks, p.Ends A T cfg.mem) (hforward : Forward A cfg mv)
    (h : step cfg mv = some cfg') : ∀ p ∈ cfg'.tasks, p.Ends A T cfg'.mem := by
  rcases step_cases h with ⟨req, -, rfl⟩ | ⟨i, u, k, -, ht, rfl⟩ | ⟨i, o, c, k, -, ht, rfl⟩ |
    ⟨ev, rfl, rfl⟩
  · intro p hp
    rcases List.mem_append.mp hp with hp | hp
    · exact hI p hp
    · rw [List.mem_singleton.mp hp]
      exact hhandler req cfg.mem
  · obtain ⟨hle, hends⟩ := (hI _ (List.mem_of_getElem? ht)).settle
    intro p hp
    rcases List.mem_or_eq_of_mem_set hp with hp | rfl
    · exact (hI p hp).later hT hle
    · exact hends
  · intro p hp
    rcases List.mem_or_eq_of_mem_set hp with hp | rfl
    · exact hI p hp
    · exact hI _ (List.mem_of_getElem? ht) _
  · intro p hp
    exact (hI p hp).later hT (hforward ev rfl)

/-- **Promises of results.**  In every interleaving that does not turn the memory back, what
    the handlers promise is true of every reply, for good. -/
theorem run_ends (hT : ∀ m m' a, A.le m m' → T m a → T m' a)
    (hhandler : ∀ req m, (S.handler req).Ends A T m) {m : M} {e : E} {mvs : List (Move S)}
    {cfg : Config S} (h : run ⟨m, e, []⟩ mvs = some cfg) (hforward : AllMoves (Forward A) ⟨m, e, []⟩ mvs)
    {a : S.Reply} (ha : a ∈ cfg.replies) : T cfg.mem a := by
  obtain ⟨p, hp, hresult⟩ := List.mem_filterMap.mp ha
  obtain rfl := Program.result_eq_some.mp hresult
  exact run_invariant_of_allMoves (I := fun cfg => ∀ p ∈ cfg.tasks, p.Ends A T cfg.mem)
    (step_ends hT hhandler) h hforward (fun p hp => absurd hp List.not_mem_nil) _ hp

end System

end DVoD.Async
