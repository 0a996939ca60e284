import DVoD.Async.Exception
import Mathlib.Data.List.Nodup

/-!
# Programs that pass on what they are given

Some answers hand a program an item, and the program is to put it into a log in the memory
of the process before it awaits anything else.  `Program.Emits` states that of a program
alone.  Handlers then interleave, but a promise that is settled first has its continuation
run first, so `Queued` keeps the handlers that have been given an item in the order of the
answers.  `Accounted.step` carries through every interleaving that the log is a first part
of all items given, and that the rest is owed by the handlers in the queue.
-/

namespace DVoD.Async

/-- Which answers give an item, and the log of a memory. -/
structure Emission (M C : Type) (R : C → Type) (δ : Type) where
  given : (c : C) → R c → Option δ
  log : M → List δ

variable {M E C : Type} {R : C → Type} {α β δ ε : Type}

namespace Program

variable (𝓔 : Emission M C R δ)

/-- The program logs what it owes, and then each item that it is given, before it awaits
    anything; a result `a` leaves `Q a` to be logged by what follows. -/
def Emits (Q : α → List δ) : Program M C R α → List δ → Prop
  | done a, owed => owed = Q a
  | sync u k, owed => ∃ now later, owed = now ++ later ∧ (∀ m, 𝓔.log (u m) = 𝓔.log m ++ now) ∧
      ∀ m, (k m).Emits Q later
  | await c k, owed => owed = [] ∧ ∀ r, (k r).Emits Q (𝓔.given c r).toList

variable {𝓔} {Q : α → List δ} {Q' : β → List δ} {p : Program M C R α} {owed : List δ}

theorem Emits.bind {f : α → Program M C R β} (h : p.Emits 𝓔 Q owed)
    (hf : ∀ a, (f a).Emits 𝓔 Q' (Q a)) : (p.bind f).Emits 𝓔 Q' owed := by
  induction p generalizing owed with
  | done a =>
    have howed : owed = Q a := h
    rw [howed]
    exact hf a
  | sync u k ih =>
    obtain ⟨now, later, rfl, hlog, hk⟩ := h
    exact ⟨now, later, rfl, hlog, fun m => ih m (hk m)⟩
  | await c k ih => exact ⟨h.1, fun r => ih r (h.2 r)⟩

/-- What is owed is logged before the program is parked again. -/
theorem Emits.settle (h : p.Emits 𝓔 (fun _ => []) owed) (m : M) :
    𝓔.log (p.settle m).1 = 𝓔.log m ++ owed ∧ (p.settle m).2.Emits 𝓔 (fun _ => []) [] := by
  induction p generalizing owed m with
  | done a =>
    have howed : owed = [] := h
    rw [howed]
    exact ⟨(List.append_nil _).symm, rfl⟩
  | sync u k ih =>
    obtain ⟨now, later, rfl, hlog, hk⟩ := h
    obtain ⟨hlog', hrest⟩ := ih m (hk m) (u m)
    refine ⟨?_, hrest⟩
    rw [Program.settle, hlog', hlog, List.append_assoc]
  | await c k ih =>
    rw [h.1]
    exact ⟨(List.append_nil _).symm, rfl, h.2⟩

theorem emits_read {f : M → Program M C R β} (hf : ∀ m, (f m).Emits 𝓔 Q' []) :
    (read.bind f).Emits 𝓔 Q' [] :=
  ⟨[], [], rfl, fun _ => (List.append_nil _).symm, hf⟩

/-! ### Programs that throw -/

section Throws

/-- What throws owes nothing. -/
def Owes (Q : α → List δ) : Except ε α → List δ
  | .ok a => Q a
  | .error _ => []

variable {h : ExceptT ε (Program M C R) α} {f : α → ExceptT ε (Program M C R) β}
  {handler : ε → ExceptT ε (Program M C R) α}

theorem emits_bind (hh : h.run.Emits 𝓔 (Owes Q) owed)
    (hf : ∀ a, (f a).run.Emits 𝓔 (Owes Q') (Q a)) : (h >>= f).run.Emits 𝓔 (Owes Q') owed := by
  rw [run_bind]
  apply hh.bind
  intro a
  cases a with
  | ok a => exact hf a
  | error e => rfl

theorem emits_tryCatch (hh : h.run.Emits 𝓔 (Owes Q) owed)
    (hhandler : ∀ e, (handler e).run.Emits 𝓔 (Owes Q) []) :
    (tryCatch h handler).run.Emits 𝓔 (Owes Q) owed := by
  rw [run_tryCatch]
  apply hh.bind
  intro a
  cases a with
  | ok a => rfl
  | error e => exact hhandler e

theorem emits_lift (hp : p.Emits 𝓔 Q owed) :
    (ExceptT.lift p : ExceptT ε (Program M C R) α).run.Emits 𝓔 (Owes Q) owed :=
  hp.bind fun _ => rfl

end Throws

end Program

namespace System

variable (S : System M E C R)

/-- A configuration, and the handlers that have been given an item and not been resumed
    since, in the order of the answers. -/
structure Queued where
  cfg : Config S
  waiting : List Nat

variable {S} (𝓔 : Emission M C R δ)

def givenBy (cfg : Config S) (i : Nat) (o : S.Oracle) : Option δ :=
  match cfg.tasks[i]? with
  | some (.await c _) => 𝓔.given c (S.answer o cfg.env c).1
  | _ => none

/-- A move, where no handler in the queue is resumed before those in front of it. -/
def Queued.step (q : Queued S) : Move S → Option (Queued S)
  | .resume i =>
      if i ∈ q.waiting ∧ q.waiting.head? ≠ some i then none
      else (System.step q.cfg (.resume i)).map fun cfg => ⟨cfg, q.waiting.erase i⟩
  | .answer i o =>
      (System.step q.cfg (.answer i o)).map fun cfg =>
        ⟨cfg, if (givenBy 𝓔 q.cfg i o).isSome then q.waiting ++ [i] else q.waiting⟩
  | mv => (System.step q.cfg mv).map fun cfg => ⟨cfg, q.waiting⟩

/-- Handlers pass on what they are given, and nothing else touches the log. -/
structure Passes (S : System M E C R) (𝓔 : Emission M C R δ) (items : E → List δ) : Prop where
  handler : ∀ req, (S.handler req).Emits 𝓔 (fun _ => []) []
  happen_items : ∀ ev m e, items (S.happen ev (m, e)).2 = items e
  happen_log : ∀ ev m e, 𝓔.log (S.happen ev (m, e)).1 = 𝓔.log m

/-- An answer gives just the item that the world adds with it. -/
def Recorded (S : System M E C R) (𝓔 : Emission M C R δ) (items : E → List δ) (cfg : Config S) :
    Move S → Prop
  | .answer _ o => ∀ c, items (S.answer o cfg.env c).2 =
      items cfg.env ++ (𝓔.given c (S.answer o cfg.env c).1).toList
  | _ => True

/-- The items of the world are those in the log and those owed by the queue, in order. -/
structure Accounted (𝓔 : Emission M C R δ) (items : E → List δ) (q : Queued S) (owed : Nat → List δ) :
    Prop where
  emits : ∀ i (p : Program M C R S.Reply), q.cfg.tasks[i]? = some p → p.Emits 𝓔 (fun _ => []) (owed i)
  items : items q.cfg.env = 𝓔.log q.cfg.mem ++ q.waiting.flatMap owed
  idle : ∀ i, i ∉ q.waiting → owed i = []
  busy : ∀ i ∈ q.waiting, owed i ≠ []
  nodup : q.waiting.Nodup
  started : ∀ i ∈ q.waiting, i < q.cfg.tasks.length

section Accounted

variable {𝓔} {items : E → List δ} {q q' : Queued S} {owed : Nat → List δ}

theorem Accounted.log_le (h : Accounted 𝓔 items q owed) : 𝓔.log q.cfg.mem <+: items q.cfg.env := by
  rw [h.items]
  exact List.prefix_append _ _

/-- Nothing is owed where no handler is left to be resumed. -/
theorem Accounted.log_eq (h : Accounted 𝓔 items q owed)
    (hparked : ∀ p ∈ q.cfg.tasks, ∀ u k, p ≠ .sync u k) : 𝓔.log q.cfg.mem = items q.cfg.env := by
  have hwaiting : q.waiting = [] := by
    rw [List.eq_nil_iff_forall_not_mem]
    intro i hi
    have hlt := h.started i hi
    have hemits := h.emits i _ (List.getElem?_eq_getElem hlt)
    have hmem : q.cfg.tasks[i] ∈ q.cfg.tasks := List.getElem_mem hlt
    rcases htask : q.cfg.tasks[i] with a | ⟨u, k⟩ | ⟨c, k⟩
    · rw [htask] at hemits
      exact h.busy i hi hemits
    · exact hparked _ hmem u k htask
    · rw [htask] at hemits
      exact h.busy i hi hemits.1
  rw [h.items, hwaiting, List.flatMap_nil, List.append_nil]

private theorem flatMap_update {waiting : List Nat} {i : Nat} (hi : i ∉ waiting) (l : List δ) :
    waiting.flatMap (Function.update owed i l) = waiting.flatMap owed := by
  simp only [List.flatMap]
  congr 1
  apply List.map_congr_left
  intro j hj
  have hne : j ≠ i := fun h => hi (h ▸ hj)
  exact Function.update_of_ne hne l owed

theorem Accounted.arrive (h : Accounted 𝓔 items q owed) (hS : S.Passes 𝓔 items) (req : S.Request) :
    Accounted 𝓔 items ⟨{ q.cfg with tasks := q.cfg.tasks ++ [S.handler req] }, q.waiting⟩ owed where
  emits i p hi := by
    rw [List.getElem?_append] at hi
    split at hi
    · exact h.emits i p hi
    · next hge =>
      rw [List.getElem?_singleton] at hi
      obtain ⟨-, hp⟩ := Option.ite_none_right_eq_some.mp hi
      rw [h.idle i fun hmem => hge (h.started i hmem), ← Option.some.inj hp]
      exact hS.handler req
  items := h.items
  idle := h.idle
  busy := h.busy
  nodup := h.nodup
  started i hi := by
    rw [List.length_append]
    exact Nat.lt_add_right _ (h.started i hi)

/-- The handler that is resumed is the first in the queue, or is not in it and owes nothing. -/
theorem Accounted.resume (h : Accounted 𝓔 items q owed) {i : Nat} {p : Program M C R S.Reply}
    (hp : q.cfg.tasks[i]? = some p) (hfirst : i ∈ q.waiting → q.waiting.head? = some i) :
    Accounted 𝓔 items ⟨{ q.cfg with
      mem := (p.settle q.cfg.mem).1, tasks := q.cfg.tasks.set i (p.settle q.cfg.mem).2 },
      q.waiting.erase i⟩ (Function.update owed i []) := by
  obtain ⟨hlog, hemits⟩ := (h.emits i p hp).settle q.cfg.mem
  have herase (j : Nat) : j ∈ q.waiting.erase i ↔ j ≠ i ∧ j ∈ q.waiting := h.nodup.mem_erase_iff
  constructor
  · intro j p' hj
    rw [List.getElem?_set] at hj
    split at hj
    · next hij =>
      obtain ⟨-, hp'⟩ := Option.ite_none_right_eq_some.mp hj
      rw [← hij, Function.update_self, ← Option.some.inj hp']
      exact hemits
    · next hij =>
      rw [Function.update_of_ne (Ne.symm hij)]
      exact h.emits j p' hj
  · change items q.cfg.env = 𝓔.log (p.settle q.cfg.mem).1 ++ _
    rw [flatMap_update (fun hi => ((herase i).mp hi).1 rfl), hlog, h.items, List.append_assoc]
    congr 1
    by_cases hi : i ∈ q.waiting
    · obtain ⟨rest, hrest⟩ := List.head?_eq_some_iff.mp (hfirst hi)
      rw [hrest, List.erase_cons_head, List.flatMap_cons]
    · rw [h.idle i hi, List.erase_of_not_mem hi, List.nil_append]
  · intro j hj
    by_cases hij : j = i
    · rw [hij, Function.update_self]
    · rw [Function.update_of_ne hij]
      exact h.idle j fun hmem => hj ((herase j).mpr ⟨hij, hmem⟩)
  · intro j hj
    obtain ⟨hij, hmem⟩ := (herase j).mp hj
    rw [Function.update_of_ne hij]
    exact h.busy j hmem
  · exact h.nodup.erase i
  · intro j hj
    rw [List.length_set]
    exact h.started j ((herase j).mp hj).2

/-- Whoever awaits an answer owes nothing, and is put last in the queue with what it gets. -/
theorem Accounted.answer (h : Accounted 𝓔 items q owed) {items' : E → List δ} {i : Nat} {c : C}
    {k : R c → Program M C R S.Reply} (hp : q.cfg.tasks[i]? = some (.await c k)) {o : S.Oracle}
    (hitems : items' (S.answer o q.cfg.env c).2 =
      items q.cfg.env ++ (𝓔.given c (S.answer o q.cfg.env c).1).toList) :
    Accounted 𝓔 items' ⟨{ q.cfg with
      env := (S.answer o q.cfg.env c).2, tasks := q.cfg.tasks.set i (k (S.answer o q.cfg.env c).1) },
      if (𝓔.given c (S.answer o q.cfg.env c).1).isSome then q.waiting ++ [i] else q.waiting⟩
      (Function.update owed i (𝓔.given c (S.answer o q.cfg.env c).1).toList) := by
  obtain ⟨hnone, hemits⟩ := h.emits i _ hp
  have hi : i ∉ q.waiting := fun hmem => h.busy i hmem hnone
  have hlt : i < q.cfg.tasks.length := (List.getElem?_eq_some_iff.mp hp).1
  have hemits' : ∀ j (p : Program M C R S.Reply),
      (q.cfg.tasks.set i (k (S.answer o q.cfg.env c).1))[j]? = some p →
      p.Emits 𝓔 (fun _ => [])
        (Function.update owed i (𝓔.given c (S.answer o q.cfg.env c).1).toList j) := by
    intro j p hj
    rw [List.getElem?_set] at hj
    split at hj
    · next hij =>
      rw [← hij, Function.update_self, ← Option.some.inj hj]
      exact hemits _
    · next hij =>
      rw [Function.update_of_ne (Ne.symm hij)]
      exact h.emits j p hj
  rcases hgiven : 𝓔.given c (S.answer o q.cfg.env c).1 with _ | item
  · rw [hgiven] at hitems hemits'
    have howed : Function.update owed i (none : Option δ).toList = owed := by
      rw [Option.toList_none, ← hnone, Function.update_eq_self]
    rw [howed] at hemits' ⊢
    refine ⟨hemits', ?_, h.idle, h.busy, h.nodup, ?_⟩
    · exact hitems.trans ((List.append_nil _).trans h.items)
    · intro j hj
      rw [List.length_set]
      exact h.started j hj
  · rw [hgiven] at hitems hemits'
    simp only [Option.isSome_some, if_true]
    refine ⟨hemits', ?_, ?_, ?_, ?_, ?_⟩
    · rw [hitems, h.items, List.flatMap_append, flatMap_update hi, List.flatMap_singleton,
        Function.update_self, List.append_assoc]
    · intro j hj
      rw [List.mem_append, List.mem_singleton, not_or] at hj
      rw [Function.update_of_ne hj.2]
      exact h.idle j hj.1
    · intro j hj
      rcases List.mem_append.mp hj with hj | hj
      · rw [Function.update_of_ne fun heq : j = i => hi (heq ▸ hj)]
        exact h.busy j hj
      · rw [List.mem_singleton.mp hj, Function.update_self]
        exact List.cons_ne_nil _ _
    · exact List.Nodup.append h.nodup (List.nodup_singleton i) (List.disjoint_singleton.mpr hi)
    · intro j hj
      rw [List.length_set]
      rcases List.mem_append.mp hj with hj | hj
      · exact h.started j hj
      · rw [List.mem_singleton.mp hj]
        exact hlt

/-- What a move gives to a handler. -/
def givenIn (𝓔 : Emission M C R δ) (cfg : Config S) : Move S → List δ
  | .answer i o => (givenBy 𝓔 cfg i o).toList
  | _ => []

theorem Queued.step_cfg {mv : Move S} (h : Queued.step 𝓔 q mv = some q') :
    System.step q.cfg mv = some q'.cfg := by
  cases mv with
  | resume i =>
    simp only [Queued.step] at h
    split at h
    · cases h
    · obtain ⟨cfg, hcfg, rfl⟩ := Option.map_eq_some_iff.mp h
      exact hcfg
  | _ =>
    simp only [Queued.step, Option.map_eq_some_iff] at h
    obtain ⟨cfg, hcfg, rfl⟩ := h
    exact hcfg

/-- What a move does to the world, and what it gives. -/
theorem Queued.step_env {mv : Move S} (h : Queued.step 𝓔 q mv = some q') :
    (q'.cfg.env = q.cfg.env ∧ givenIn 𝓔 q.cfg mv = []) ∨
    (∃ i o c, mv = .answer i o ∧ q'.cfg.env = (S.answer o q.cfg.env c).2 ∧
      givenIn 𝓔 q.cfg mv = (𝓔.given c (S.answer o q.cfg.env c).1).toList) ∨
    (∃ ev, q'.cfg.env = (S.happen ev (q.cfg.mem, q.cfg.env)).2 ∧ givenIn 𝓔 q.cfg mv = []) := by
  cases mv with
  | arrive req =>
    obtain rfl := Option.some.inj h
    exact .inl ⟨rfl, rfl⟩
  | resume i =>
    simp only [Queued.step] at h
    split at h
    · cases h
    · obtain ⟨cfg, hcfg, rfl⟩ := Option.map_eq_some_iff.mp h
      rcases step_cases hcfg with ⟨_, hmv, -⟩ | ⟨j, u, k, -, -, rfl⟩ | ⟨_, _, _, _, hmv, -⟩ |
        ⟨_, hmv, -⟩
      · cases hmv
      · exact .inl ⟨rfl, rfl⟩
      · cases hmv
      · cases hmv
  | answer i o =>
    obtain ⟨cfg, hcfg, rfl⟩ := Option.map_eq_some_iff.mp h
    rcases step_cases hcfg with ⟨_, hmv, -⟩ | ⟨_, _, _, hmv, -⟩ | ⟨j, o', c, k, hmv, hp, rfl⟩ |
      ⟨_, hmv, -⟩
    · cases hmv
    · cases hmv
    · cases hmv
      exact .inr (.inl ⟨i, o, c, rfl, rfl, by simp only [givenIn, givenBy, hp]⟩)
    · cases hmv
  | happen ev =>
    obtain rfl := Option.some.inj h
    exact .inr (.inr ⟨ev, rfl, rfl⟩)

/-- The log only grows, and it and the queue account for all that has been given. -/
theorem Accounted.step_given (h : Accounted 𝓔 items q owed) (hS : S.Passes 𝓔 items) {mv : Move S}
    (hstep : Queued.step 𝓔 q mv = some q') :
    𝓔.log q.cfg.mem <+: 𝓔.log q'.cfg.mem ∧ ∃ owed', ∀ items' : E → List δ,
      items' q'.cfg.env = items q.cfg.env ++ givenIn 𝓔 q.cfg mv → Accounted 𝓔 items' q' owed' := by
  have hkeep {q₁ : Queued S} {owed₁ : Nat → List δ} (h₁ : Accounted 𝓔 items q₁ owed₁)
      (henv : items q₁.cfg.env = items q.cfg.env) (items' : E → List δ)
      (hitems : items' q₁.cfg.env = items q.cfg.env ++ []) : Accounted 𝓔 items' q₁ owed₁ := by
    refine ⟨h₁.emits, ?_, h₁.idle, h₁.busy, h₁.nodup, h₁.started⟩
    rw [hitems, List.append_nil, ← henv]
    exact h₁.items
  cases mv with
  | arrive req =>
    obtain rfl := Option.some.inj hstep
    exact ⟨List.prefix_refl _, owed, hkeep (h.arrive hS req) rfl⟩
  | resume i =>
    simp only [Queued.step] at hstep
    split at hstep
    · cases hstep
    · next hturn =>
      obtain ⟨cfg, hcfg, rfl⟩ := Option.map_eq_some_iff.mp hstep
      rcases step_cases hcfg with ⟨_, hmv, -⟩ | ⟨j, u, k, hmv, hp, rfl⟩ | ⟨_, _, _, _, hmv, -⟩ |
        ⟨_, hmv, -⟩
      · cases hmv
      · cases hmv
        have hresumed := h.resume hp fun hi => not_not.mp fun hne => hturn ⟨hi, hne⟩
        refine ⟨?_, _, hkeep hresumed rfl⟩
        rw [((h.emits i _ hp).settle q.cfg.mem).1]
        exact List.prefix_append _ _
      · cases hmv
      · cases hmv
  | answer i o =>
    obtain ⟨cfg, hcfg, rfl⟩ := Option.map_eq_some_iff.mp hstep
    rcases step_cases hcfg with ⟨_, hmv, -⟩ | ⟨_, _, _, hmv, -⟩ | ⟨j, o', c, k, hmv', hp, rfl⟩ |
      ⟨_, hmv, -⟩
    · cases hmv
    · cases hmv
    · cases hmv'
      simp only [givenIn, givenBy, hp]
      exact ⟨List.prefix_refl _, _, fun items' hitems => h.answer hp hitems⟩
    · cases hmv
  | happen ev =>
    obtain rfl := Option.some.inj hstep
    have hlog : 𝓔.log (S.happen ev (q.cfg.mem, q.cfg.env)).1 = 𝓔.log q.cfg.mem := hS.happen_log ..
    refine ⟨⟨[], (List.append_nil _).trans hlog.symm⟩, owed, hkeep ?_ (hS.happen_items ..)⟩
    refine ⟨h.emits, ?_, h.idle, h.busy, h.nodup, h.started⟩
    rw [hS.happen_items, hlog]
    exact h.items

/-- **The step rule.**  The log only grows, and stays a first part of the items. -/
theorem Accounted.step (h : Accounted 𝓔 items q owed) (hS : S.Passes 𝓔 items) {mv : Move S}
    (hmv : Recorded S 𝓔 items q.cfg mv) (hstep : Queued.step 𝓔 q mv = some q') :
    𝓔.log q.cfg.mem <+: 𝓔.log q'.cfg.mem ∧ ∃ owed', Accounted 𝓔 items q' owed' := by
  obtain ⟨hlog, owed', h'⟩ := h.step_given hS hstep
  refine ⟨hlog, owed', h' items ?_⟩
  rcases Queued.step_env hstep with ⟨henv, hgiven⟩ | ⟨i, o, c, rfl, henv, hgiven⟩ | ⟨ev, henv, hgiven⟩
  · rw [henv, hgiven, List.append_nil]
  · rw [henv, hgiven]
    exact hmv c
  · rw [henv, hgiven, hS.happen_items, List.append_nil]

/-- The step rule where items may be added that nobody is given: what has been given stays
    some of them, in order. -/
theorem Accounted.step_sublist {total : List δ} (h : Accounted 𝓔 (fun _ => total) q owed)
    (hS : S.Passes 𝓔 items) (hle : total.Sublist (items q.cfg.env))
    (hanswer : ∀ o e c, (items e ++ (𝓔.given c (S.answer o e c).1).toList).Sublist
      (items (S.answer o e c).2))
    {mv : Move S} (hstep : Queued.step 𝓔 q mv = some q') :
    𝓔.log q.cfg.mem <+: 𝓔.log q'.cfg.mem ∧ ∃ total' owed',
      Accounted 𝓔 (fun _ => total') q' owed' ∧ total'.Sublist (items q'.cfg.env) := by
  obtain ⟨hlog, owed', h'⟩ := h.step_given ⟨hS.handler, fun _ _ _ => rfl, hS.happen_log⟩ hstep
  refine ⟨hlog, _, owed', h' _ rfl, ?_⟩
  rcases Queued.step_env hstep with ⟨henv, hgiven⟩ | ⟨i, o, c, rfl, henv, hgiven⟩ | ⟨ev, henv, hgiven⟩
  · rw [henv, hgiven, List.append_nil]
    exact hle
  · rw [henv, hgiven]
    exact (hle.append_right _).trans (hanswer o q.cfg.env c)
  · rw [henv, hgiven, hS.happen_items, List.append_nil]
    exact hle

end Accounted

theorem accounted_start {items : E → List δ} {m : M} {e : E} (h : items e = 𝓔.log m) :
    Accounted 𝓔 items (⟨⟨m, e, []⟩, []⟩ : Queued S) fun _ => [] where
  emits i p hi := by cases hi
  items := h.trans (List.append_nil _).symm
  idle _ _ := rfl
  busy i hi := by cases hi
  nodup := List.nodup_nil
  started i hi := by cases hi

end System

end DVoD.Async
