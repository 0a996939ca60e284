import Mathlib.Logic.Basic

/-!
# Resumable programs

A handler of an event-driven server runs until it awaits something, is parked,
and is resumed with the answer.  `Program` is that shape as data: a tree whose
nodes either touch the memory of the process (`sync`) or await the answer to a
command (`await`).  The scheduler of `DVoD.Async.Scheduler` interleaves such
trees at their `await` nodes only.

`Guarded G T` says that no result in `T` is reached before some answer in `G`; it is
characterised on `bind`, so that a spec of a subroutine is proved once and cited by its
callers.
-/

namespace DVoD.Async

/-- A resumable program over process memory `M`, commands `C` and answers
    `R c` to the command `c`. -/
inductive Program (M C : Type) (R : C → Type) (α : Type) : Type where
  | done (result : α)
  | sync (update : M → M) (next : M → Program M C R α)  -- `next` gets the memory before `update`
  | await (command : C) (next : R command → Program M C R α)

variable {M C : Type} {R : C → Type} {α β γ : Type}

namespace Program

def bind (p : Program M C R α) (f : α → Program M C R β) : Program M C R β :=
  match p with
  | done a => f a
  | sync u k => sync u fun m => (k m).bind f
  | await c k => await c fun r => (k r).bind f

instance : Monad (Program M C R) where
  pure := done
  bind := bind

def call (c : C) : Program M C R (R c) := await c done

def read : Program M C R M := sync id done

def modify (update : M → M) : Program M C R Unit := sync update fun _ => done ()

@[simp] theorem pure_def (a : α) : (pure a : Program M C R α) = done a := rfl
@[simp] theorem bind_def (p : Program M C R α) (f : α → Program M C R β) :
    p >>= f = p.bind f := rfl
@[simp] theorem done_bind (a : α) (f : α → Program M C R β) :
    (done a : Program M C R α).bind f = f a := rfl
@[simp] theorem sync_bind (u : M → M) (k : M → Program M C R α) (f : α → Program M C R β) :
    (sync u k).bind f = sync u fun m => (k m).bind f := rfl
@[simp] theorem await_bind (c : C) (k : R c → Program M C R α) (f : α → Program M C R β) :
    (await c k).bind f = await c fun r => (k r).bind f := rfl
@[simp] theorem call_bind (c : C) (f : R c → Program M C R β) :
    (call c).bind f = await c f := rfl
@[simp] theorem read_bind (f : M → Program M C R β) :
    (read : Program M C R M).bind f = sync id f := rfl
@[simp] theorem modify_bind (u : M → M) (f : Unit → Program M C R β) :
    (modify u : Program M C R Unit).bind f = sync u fun _ => f () := rfl

theorem bind_done (p : Program M C R α) : p.bind done = p := by
  induction p with
  | done a => rfl
  | sync u k ih => exact congrArg (sync u) (funext ih)
  | await c k ih => exact congrArg (await c) (funext ih)

theorem bind_bind (p : Program M C R α) (f : α → Program M C R β) (g : β → Program M C R γ) :
    (p.bind f).bind g = p.bind fun a => (f a).bind g := by
  induction p with
  | done a => rfl
  | sync u k ih => exact congrArg (sync u) (funext ih)
  | await c k ih => exact congrArg (await c) (funext ih)

instance : LawfulMonad (Program M C R) :=
  LawfulMonad.mk' _ bind_done (fun _ _ => rfl) bind_bind

def result : Program M C R α → Option α
  | done a => some a
  | _ => none

def awaited : Program M C R α → Option C
  | await c _ => some c
  | _ => none

theorem result_eq_some {p : Program M C R α} {a : α} : p.result = some a ↔ p = done a := by
  cases p <;> simp [result]

theorem awaited_eq_some {p : Program M C R α} {c : C} :
    p.awaited = some c ↔ ∃ k, p = await c k := by
  cases p with
  | await c' k =>
    simp only [awaited, Option.some.injEq]
    constructor
    · intro h
      subst h
      exact ⟨k, rfl⟩
    · rintro ⟨k', h⟩
      cases h
      rfl
  | _ => simp [awaited]

/-- Run the part of a program that awaits nothing. -/
def settle : Program M C R α → M → M × Program M C R α
  | done a, m => (m, done a)
  | sync u k, m => (k m).settle (u m)
  | await c k, m => (m, await c k)

/-! ### What a result must have passed -/

/-- No result in `T` is reached without an answer in `G` on the way to it. -/
def Guarded (G : (c : C) → R c → Prop) (T : α → Prop) : Program M C R α → Prop
  | done a => ¬ T a
  | sync _ k => ∀ m, (k m).Guarded G T
  | await c k => ∀ r, G c r ∨ (k r).Guarded G T

variable {G : (c : C) → R c → Prop}

theorem guarded_bind (T : β → Prop) (f : α → Program M C R β) (p : Program M C R α) :
    (p.bind f).Guarded G T ↔ p.Guarded G fun a => ¬ (f a).Guarded G T := by
  induction p with
  | done a => simp only [done_bind, Guarded, not_not]
  | sync u k ih => simp only [sync_bind, Guarded, ih]
  | await c k ih => simp only [await_bind, Guarded, ih]

theorem Guarded.mono {T T' : α → Prop} {p : Program M C R α} (h : p.Guarded G T)
    (hT : ∀ a, T' a → T a) : p.Guarded G T' := by
  induction p with
  | done a => exact fun ha => h (hT a ha)
  | sync u k ih => exact fun m => ih m (h m)
  | await c k ih => exact fun r => (h r).imp_right (ih r)

theorem Guarded.settle {T : α → Prop} {p : Program M C R α} (h : p.Guarded G T) (m : M) :
    (p.settle m).2.Guarded G T := by
  induction p generalizing m with
  | done a => exact h
  | sync u k ih => exact ih m (h m) (u m)
  | await c k ih => exact h

theorem guarded_of_forall {T : α → Prop} (hT : ∀ a, ¬ T a) (p : Program M C R α) :
    p.Guarded G T := by
  induction p with
  | done a => exact hT a
  | sync u k ih => exact ih
  | await c k ih =>
    intro r
    exact Or.inr (ih r)

end Program

end DVoD.Async
