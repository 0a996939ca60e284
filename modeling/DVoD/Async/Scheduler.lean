import DVoD.Async.Program
import Mathlib.Data.List.Count
import Mathlib.Data.List.Induction

/-!
# Interleaved and serial runs of resumable programs

A `System` says what the handlers of a process are, how the world answers the
commands they await, and what else may happen in the world.  A run of it is a
list of moves: a request arrives, a parked handler is answered, a resumed handler
runs up to its next `await`, the world changes by itself.  Every order of moves
is a run, so a theorem about all runs is a theorem about all interleavings.

`Serial` is the special case in which each request is run to its reply before the
next one arrives.  `Evaluates.run` shows that it is one: a serial evaluation is a
run of the same system.
-/

namespace DVoD.Async

/-- What the process runs and what its surroundings do.  `Oracle` resolves what
    an answer leaves open, `Event` is a change of the world that no handler asked
    for. -/
structure System (M E C : Type) (R : C → Type) where
  Request : Type
  Reply : Type
  Oracle : Type
  Event : Type
  handler : Request → Program M C R Reply
  answer : Oracle → E → (c : C) → R c × E
  happen : Event → M × E → M × E

variable {M E C : Type} {R : C → Type}

namespace System

variable (S : System M E C R)

/-- The state of a run: the memory of the process, the world, and every handler
    started so far, in order of arrival. -/
structure Config where
  mem : M
  env : E
  tasks : List (Program M C R S.Reply)

variable {S} in
def Config.replies (cfg : Config S) : List S.Reply := cfg.tasks.filterMap Program.result

inductive Move where
  | arrive (request : S.Request)
  | resume (task : Nat)
  | answer (task : Nat) (oracle : S.Oracle)
  | happen (event : S.Event)

variable {S}

/-- The configuration after one move, or `none` where the move is not enabled. -/
def step (cfg : Config S) : Move S → Option (Config S)
  | .arrive req => some { cfg with tasks := cfg.tasks ++ [S.handler req] }
  | .resume i =>
      match cfg.tasks[i]? with
      | some (.sync u k) =>
          let settled := (Program.sync u k).settle cfg.mem
          some { cfg with mem := settled.1, tasks := cfg.tasks.set i settled.2 }
      | _ => none
  | .answer i o =>
      match cfg.tasks[i]? with
      | some (.await c k) =>
          let (r, env) := S.answer o cfg.env c
          some { cfg with env := env, tasks := cfg.tasks.set i (k r) }
      | _ => none
  | .happen e =>
      let (mem, env) := S.happen e (cfg.mem, cfg.env)
      some { cfg with mem := mem, env := env }

/-- The configuration after a list of moves. -/
def run (cfg : Config S) : List (Move S) → Option (Config S)
  | [] => some cfg
  | mv :: mvs => (step cfg mv).bind fun cfg' => run cfg' mvs

/-- Every move of the run satisfies `P` in the configuration it is made in. -/
def AllMoves (P : Config S → Move S → Prop) (cfg : Config S) : List (Move S) → Prop
  | [] => True
  | mv :: mvs => P cfg mv ∧ ∀ cfg', step cfg mv = some cfg' → AllMoves P cfg' mvs

/-- What one move can do. -/
theorem step_cases {cfg cfg' : Config S} {mv : Move S} (h : step cfg mv = some cfg') :
    (∃ req, mv = .arrive req ∧ cfg' = { cfg with tasks := cfg.tasks ++ [S.handler req] }) ∨
    (∃ i u k, mv = .resume i ∧ cfg.tasks[i]? = some (.sync u k) ∧
      cfg' = { cfg with
        mem := ((Program.sync u k).settle cfg.mem).1
        tasks := cfg.tasks.set i ((Program.sync u k).settle cfg.mem).2 }) ∨
    (∃ i o c k, mv = .answer i o ∧ cfg.tasks[i]? = some (.await c k) ∧
      cfg' = { cfg with
        env := (S.answer o cfg.env c).2
        tasks := cfg.tasks.set i (k (S.answer o cfg.env c).1) }) ∨
    (∃ e, mv = .happen e ∧ cfg' = { cfg with
        mem := (S.happen e (cfg.mem, cfg.env)).1
        env := (S.happen e (cfg.mem, cfg.env)).2 }) := by
  cases mv with
  | arrive req => exact Or.inl ⟨req, rfl, by simpa [step] using h.symm⟩
  | resume i =>
    simp only [step] at h
    rcases ht : cfg.tasks[i]? with _ | ⟨a⟩ | ⟨u, k⟩ | ⟨c, k⟩ <;> rw [ht] at h <;>
      simp only [reduceCtorEq, Option.some.injEq] at h
    exact Or.inr (Or.inl ⟨i, u, k, rfl, ht, h.symm⟩)
  | answer i o =>
    simp only [step] at h
    rcases ht : cfg.tasks[i]? with _ | ⟨a⟩ | ⟨u, k⟩ | ⟨c, k⟩ <;> rw [ht] at h <;>
      simp only [reduceCtorEq, Option.some.injEq] at h
    exact Or.inr (Or.inr (Or.inl ⟨i, o, c, k, rfl, ht, h.symm⟩))
  | happen e => exact Or.inr (Or.inr (Or.inr ⟨e, rfl, by simpa [step] using h.symm⟩))

theorem run_cons {cfg cfg'' : Config S} {mv : Move S} {mvs : List (Move S)} :
    run cfg (mv :: mvs) = some cfg'' ↔
      ∃ cfg', step cfg mv = some cfg' ∧ run cfg' mvs = some cfg'' := by
  simp only [run, Option.bind_eq_some_iff]

theorem run_append {cfg cfg'' : Config S} (mvs mvs' : List (Move S)) :
    run cfg (mvs ++ mvs') = some cfg'' ↔
      ∃ cfg', run cfg mvs = some cfg' ∧ run cfg' mvs' = some cfg'' := by
  induction mvs generalizing cfg with
  | nil => simp [run]
  | cons mv mvs ih =>
    simp only [List.cons_append, run_cons, ih]
    constructor
    · rintro ⟨c₁, h₁, c₂, h₂, h₃⟩
      exact ⟨c₂, ⟨c₁, h₁, h₂⟩, h₃⟩
    · rintro ⟨c₂, ⟨c₁, h₁, h₂⟩, h₃⟩
      exact ⟨c₁, h₁, c₂, h₂, h₃⟩

/-- **The invariant rule.**  What every move preserves, every run preserves. -/
theorem run_invariant {I : Config S → Prop}
    (hstep : ∀ {cfg cfg' mv}, I cfg → step cfg mv = some cfg' → I cfg')
    {cfg cfg' : Config S} {mvs : List (Move S)} (h : run cfg mvs = some cfg') (hI : I cfg) :
    I cfg' := by
  induction mvs generalizing cfg with
  | nil => simp only [run, Option.some.injEq] at h; exact h ▸ hI
  | cons mv mvs ih =>
    obtain ⟨cfg₁, h₁, h₂⟩ := run_cons.mp h
    exact ih h₂ (hstep hI h₁)

/-- The invariant rule for runs whose moves all satisfy `P`. -/
theorem run_invariant_of_allMoves {I : Config S → Prop} {P : Config S → Move S → Prop}
    (hstep : ∀ {cfg cfg' mv}, I cfg → P cfg mv → step cfg mv = some cfg' → I cfg')
    {cfg cfg' : Config S} {mvs : List (Move S)} (h : run cfg mvs = some cfg')
    (hP : AllMoves P cfg mvs) (hI : I cfg) : I cfg' := by
  induction mvs generalizing cfg with
  | nil => simp only [run, Option.some.injEq] at h; exact h ▸ hI
  | cons mv mvs ih =>
    obtain ⟨cfg₁, h₁, h₂⟩ := run_cons.mp h
    exact ih h₂ (hP.2 cfg₁ h₁) (hstep hI hP.1 h₁)

/-- The converse direction: where `J` holds after a move only if it held before and the
    move satisfies `P`, a run that ends in `J` has only moves in `P`. -/
theorem allMoves_of_run {I J : Config S → Prop} {P : Config S → Move S → Prop}
    (hI : ∀ {cfg cfg' mv}, I cfg → step cfg mv = some cfg' → I cfg')
    (hback : ∀ {cfg cfg' mv}, I cfg → step cfg mv = some cfg' → J cfg' → J cfg ∧ P cfg mv)
    {cfg cfg' : Config S} {mvs : List (Move S)} (h : run cfg mvs = some cfg') (h₀ : I cfg)
    (hJ : J cfg') : J cfg ∧ AllMoves P cfg mvs := by
  induction mvs generalizing cfg with
  | nil => simp only [run, Option.some.injEq] at h; exact ⟨h ▸ hJ, trivial⟩
  | cons mv mvs ih =>
    obtain ⟨cfg₁, h₁, h₂⟩ := run_cons.mp h
    obtain ⟨hJ₁, hmvs⟩ := ih h₂ (hI h₀ h₁)
    obtain ⟨hJ₀, hP⟩ := hback h₀ h₁ hJ₁
    refine ⟨hJ₀, hP, ?_⟩
    intro cfg₂ h₃
    obtain rfl : cfg₁ = cfg₂ := Option.some.inj (h₁.symm.trans h₃)
    exact hmvs

/-! ### Specs of the handlers, carried through a run -/

section Counting

open Classical in
/-- How many handlers have passed the guard `G`, that is, may still (or did)
    end in `T` without another answer in `G`. -/
noncomputable def passed (G : (c : C) → R c → Prop) (T : S.Reply → Prop) (cfg : Config S) : Nat :=
  cfg.tasks.countP fun p => ¬ p.Guarded G T

variable {G : (c : C) → R c → Prop} {T : S.Reply → Prop}

/-- Replacing one element of a list by one that satisfies `f` only where the old
    one did, or where `q` holds, adds at most `q` to the count of `f`. -/
private theorem countP_set_le {α : Type} {f : α → Bool} {q : Prop} [Decidable q] {l : List α}
    {i : Nat} {a b : α} (ha : l[i]? = some a) (h : f b = true → f a = true ∨ q) :
    (l.set i b).countP f ≤ l.countP f + if q then 1 else 0 := by
  induction l generalizing i with
  | nil => simp at ha
  | cons x l ih =>
    cases i with
    | zero =>
      obtain rfl : x = a := by simpa using ha
      simp only [List.set_cons_zero, List.countP_cons]
      rcases hb : f b with _ | _
      · simp only [Bool.false_eq_true, if_false]; omega
      · rcases h hb with hx | hq
        · simp only [hx, if_true]; omega
        · simp only [hq, if_true]; omega
    | succ i =>
      have := ih (i := i) (by simpa using ha)
      simp only [List.set_cons_succ, List.countP_cons]
      omega

open Classical in
/-- **One passage of the guard per handler.**  If every answer in `G` is counted
    by `n`, then in every run the number of handlers past the guard is at most `n`. -/
theorem step_passed_le {n : E → Nat} (hhandler : ∀ req, (S.handler req).Guarded G T)
    (hanswer : ∀ o e c, n e + (if G c (S.answer o e c).1 then 1 else 0) ≤ n (S.answer o e c).2)
    (hhappen : ∀ ev m e, n e ≤ n (S.happen ev (m, e)).2) {cfg cfg' : Config S} {mv : Move S}
    (h : step cfg mv = some cfg') (hI : passed G T cfg ≤ n cfg.env) :
    passed G T cfg' ≤ n cfg'.env := by
  rcases step_cases h with ⟨req, -, rfl⟩ | ⟨i, u, k, -, ht, rfl⟩ | ⟨i, o, c, k, -, ht, rfl⟩ |
    ⟨e, -, rfl⟩
  · simpa [passed, List.countP_append, List.countP_cons, hhandler req] using hI
  · -- running a handler on does not take it past the guard
    refine Nat.le_trans ?_ hI
    refine Nat.le_trans (countP_set_le (q := False) ht fun hb => Or.inl ?_) (by simp [passed])
    exact decide_eq_true fun hg => of_decide_eq_true hb (hg.settle cfg.mem)
  · -- an answer does, but then `n` counts it
    refine Nat.le_trans ?_ (hanswer o cfg.env c)
    refine Nat.le_trans (countP_set_le (q := G c (S.answer o cfg.env c).1) ht fun hb => ?_)
      (Nat.add_le_add_right hI _)
    by_cases hg : (Program.await c k).Guarded G T
    · exact Or.inr ((hg _).resolve_right (of_decide_eq_true hb))
    · exact Or.inl (decide_eq_true hg)
  · exact Nat.le_trans hI (hhappen e cfg.mem cfg.env)

theorem countP_replies_le_passed (f : S.Reply → Bool) (hf : ∀ a, f a = true → T a)
    (cfg : Config S) : cfg.replies.countP f ≤ passed G T cfg := by
  classical
  rw [Config.replies, List.countP_filterMap]
  apply List.countP_mono_left
  intro p _ hp
  cases p with
  | done a =>
    have ha : T a := hf a (by simpa [Program.result] using hp)
    exact decide_eq_true (fun hg : ¬ T a => hg ha)
  | sync u k => simp [Program.result] at hp
  | await c k => simp [Program.result] at hp

end Counting

/-! ### What a reply has behind it -/

section Origin

def requests : List (Move S) → List S.Request
  | [] => []
  | .arrive req :: mvs => req :: requests mvs
  | _ :: mvs => requests mvs

theorem requests_append (mvs mvs' : List (Move S)) :
    requests (mvs ++ mvs') = requests mvs ++ requests mvs' := by
  induction mvs with
  | nil => rfl
  | cons mv mvs ih => cases mv <;> simp [requests, ih]

/-- In the run `mvs` from `cfg₀`, task `i` was given the answer `r` to `c` in the world `e`. -/
structure Gets (cfg₀ : Config S) (mvs : List (Move S)) (i : Nat) (e : E) (c : C) (r : R c) : Prop where
  exists_move : ∃ before o after cfg k, mvs = before ++ .answer i o :: after ∧
    run cfg₀ before = some cfg ∧ cfg.tasks[i]? = some (.await c k) ∧ cfg.env = e ∧
    (S.answer o e c).1 = r

theorem Gets.append {cfg₀ : Config S} {mvs : List (Move S)} {i : Nat} {e : E} {c : C} {r : R c}
    (h : Gets cfg₀ mvs i e c r) (mvs' : List (Move S)) : Gets cfg₀ (mvs ++ mvs') i e c r := by
  obtain ⟨before, o, after, cfg, k, rfl, hrest⟩ := h.exists_move
  exact ⟨before, o, after ++ mvs', cfg, k, by simp, hrest⟩

variable {G : S.Request → (c : C) → R c → Prop} {T : S.Reply → Prop}

def HasOrigin (G : S.Request → (c : C) → R c → Prop) (T : S.Reply → Prop) (cfg₀ : Config S)
    (mvs : List (Move S)) (i : Nat) (p : Program M C R S.Reply) : Prop :=
  ∃ req, (requests mvs)[i]? = some req ∧
    (p.Guarded (G req) T ∨ ∃ e c r, Gets cfg₀ mvs i e c r ∧ G req c r)

section HasOrigin

variable {cfg₀ cfg cfg' : Config S} {mvs : List (Move S)} {mv : Move S} {i : Nat}
  {p p' : Program M C R S.Reply}

private theorem requests_getElem? {req : S.Request} (h : (requests mvs)[i]? = some req)
    (mvs' : List (Move S)) : (requests (mvs ++ mvs'))[i]? = some req := by
  rw [requests_append, List.getElem?_append_left (List.getElem?_eq_some_iff.mp h).1, h]

theorem HasOrigin.append (h : HasOrigin G T cfg₀ mvs i p) (mv : Move S)
    (hp : ∀ req, p.Guarded (G req) T → p'.Guarded (G req) T) :
    HasOrigin G T cfg₀ (mvs ++ [mv]) i p' := by
  obtain ⟨req, hreq, hguarded⟩ := h
  exact ⟨req, requests_getElem? hreq _, hguarded.imp (hp req) fun ⟨e, c, r, hgets, hG⟩ =>
    ⟨e, c, r, hgets.append _, hG⟩⟩

private theorem getElem?_set_cases {α : Type} {l : List α} {j : Nat} {a b : α}
    (h : (l.set j b)[i]? = some a) : (i = j ∧ a = b) ∨ l[i]? = some a := by
  rw [List.getElem?_set] at h
  split at h
  · next hji => exact Or.inl ⟨hji.symm, by simpa [eq_comm] using (Option.ite_none_right_eq_some.mp h).2⟩
  · exact Or.inr h

theorem step_hasOrigin (hhandler : ∀ req, (S.handler req).Guarded (G req) T)
    (h₀ : run cfg₀ mvs = some cfg) (h : step cfg mv = some cfg')
    (hlength : cfg.tasks.length = (requests mvs).length)
    (hI : ∀ i p, cfg.tasks[i]? = some p → HasOrigin G T cfg₀ mvs i p) :
    ∀ i p, cfg'.tasks[i]? = some p → HasOrigin G T cfg₀ (mvs ++ [mv]) i p := by
  rcases step_cases h with ⟨req, rfl, rfl⟩ | ⟨j, u, k, rfl, ht, rfl⟩ | ⟨j, o, c, k, rfl, ht, rfl⟩ |
    ⟨ev, rfl, rfl⟩
  · intro i p hi
    rw [List.getElem?_append] at hi
    split at hi
    · exact (hI i p hi).append _ fun _ => id
    · next hge =>
      rw [List.getElem?_singleton] at hi
      obtain ⟨hi₀, hp⟩ := Option.ite_none_right_eq_some.mp hi
      obtain rfl := Option.some.inj hp
      refine ⟨req, ?_, Or.inl (hhandler req)⟩
      rw [requests_append, List.getElem?_append_right (by omega), ← hlength, hi₀]
      rfl
  · intro i p hi
    rcases getElem?_set_cases hi with ⟨rfl, rfl⟩ | hi
    · exact (hI i _ ht).append _ fun _ hg => hg.settle cfg.mem
    · exact (hI i p hi).append _ fun _ => id
  · intro i p hi
    rcases getElem?_set_cases hi with ⟨rfl, rfl⟩ | hi
    · obtain ⟨req, hreq, hguarded | ⟨e, c', r, hgets, hG⟩⟩ := hI i _ ht
      · -- the guard is passed with this answer, or not at all
        refine ⟨req, requests_getElem? hreq _, (hguarded (S.answer o cfg.env c).1).symm.imp_right fun hG =>
          ⟨cfg.env, c, _, ⟨mvs, o, [], cfg, k, rfl, h₀, ht, rfl, rfl⟩, hG⟩⟩
      · exact ⟨req, requests_getElem? hreq _, Or.inr ⟨e, c', r, hgets.append _, hG⟩⟩
    · exact (hI i p hi).append _ fun _ => id
  · intro i p hi
    exact (hI i p hi).append _ fun _ => id

end HasOrigin

private theorem run_origin (hhandler : ∀ req, (S.handler req).Guarded (G req) T) {m : M} {e : E}
    {mvs : List (Move S)} {cfg : Config S} (h : run ⟨m, e, []⟩ mvs = some cfg) :
    cfg.tasks.length = (requests mvs).length ∧
    ∀ i p, cfg.tasks[i]? = some p → HasOrigin G T ⟨m, e, []⟩ mvs i p := by
  induction mvs using List.reverseRecOn generalizing cfg with
  | nil =>
    obtain rfl : ⟨m, e, []⟩ = cfg := Option.some.inj h
    exact ⟨rfl, fun i p hi => by simp at hi⟩
  | append_singleton mvs mv ih =>
    obtain ⟨cfg₁, h₁, h₂⟩ := (run_append _ _).mp h
    obtain ⟨cfg₂, hstep, h₃⟩ := run_cons.mp h₂
    obtain rfl : cfg₂ = cfg := Option.some.inj h₃
    obtain ⟨hlength, htasks⟩ := ih h₁
    refine ⟨?_, step_hasOrigin hhandler h₁ hstep hlength htasks⟩
    rw [requests_append, List.length_append, ← hlength]
    rcases step_cases hstep with ⟨req, rfl, rfl⟩ | ⟨j, u, k, rfl, -, rfl⟩ | ⟨j, o, c, k, rfl, -, rfl⟩ |
      ⟨ev, rfl, rfl⟩ <;> simp [requests]

/-- A reply in `T` was given to a request, after an answer in `G` of that request. -/
theorem exists_gets (hhandler : ∀ req, (S.handler req).Guarded (G req) T) {m : M} {e : E}
    {mvs : List (Move S)} {cfg : Config S} (h : run ⟨m, e, []⟩ mvs = some cfg) {i : Nat}
    {a : S.Reply} (hi : cfg.tasks[i]? = some (.done a)) (ha : T a) :
    ∃ req, (requests mvs)[i]? = some req ∧
      ∃ e' c r, Gets ⟨m, e, []⟩ mvs i e' c r ∧ G req c r := by
  obtain ⟨req, hreq, hguarded | hgets⟩ := (run_origin hhandler h).2 i _ hi
  · exact absurd ha hguarded
  · exact ⟨req, hreq, hgets⟩

end Origin

/-! ### Serial evaluation -/

abbrev Answered (R : C → Type) := (c : C) × R c

def happenAll (S : System M E C R) (es : List S.Event) (s : M × E) : M × E :=
  es.foldl (fun s e => S.happen e s) s

/-- `Evaluates p s tr a s'`: run alone from `s`, the program `p` ends with result
    `a` in `s'`, having had the answers `tr`.  The world may change while it is
    parked. -/
inductive Evaluates (S : System M E C R) {α : Type} :
    Program M C R α → M × E → List (Answered R) → α → M × E → Prop
  | done (a : α) (s : M × E) : Evaluates S (.done a) s [] a s
  | sync {u k m e tr a s'} : Evaluates S (k m) (u m, e) tr a s' →
      Evaluates S (.sync u k) (m, e) tr a s'
  | await {c k s m e r e' tr a s'} (es : List S.Event) (o : S.Oracle) :
      S.happenAll es s = (m, e) → S.answer o e c = (r, e') →
      Evaluates S (k r) (m, e') tr a s' →
      Evaluates S (.await c k) s (⟨c, r⟩ :: tr) a s'

/-- Requests handled one after another, with what happened in between. -/
inductive Serial (S : System M E C R) :
    M × E → List (S.Request × List (Answered R) × S.Reply) → M × E → Prop
  | nil (s : M × E) : Serial S s [] s
  | happen {s e s' l} : Serial S (S.happen e s) l s' → Serial S s l s'
  | request {s req tr a s₁ s' l} : Evaluates S (S.handler req) s tr a s₁ →
      Serial S s₁ l s' → Serial S s ((req, tr, a) :: l) s'

/-- `Evaluates`, computed: each answer with the events before it and its oracle. -/
def evaluate (S : System M E C R) {α : Type} : Program M C R α → M × E →
    List (List S.Event × S.Oracle) → Option (List (Answered R) × α × (M × E))
  | .done a, s, [] => some ([], a, s)
  | .done _, _, _ :: _ => none
  | .sync u k, (m, e), os => S.evaluate (k m) (u m, e) os
  | .await _ _, _, [] => none
  | .await c k, s, (es, o) :: os =>
      let (m, e) := S.happenAll es s
      let (r, e') := S.answer o e c
      (S.evaluate (k r) (m, e') os).map fun (tr, a, s') => (⟨c, r⟩ :: tr, a, s')

theorem evaluates_of_evaluate {α : Type} {p : Program M C R α} {s s' : M × E}
    {os : List (List S.Event × S.Oracle)} {tr : List (Answered R)} {a : α}
    (h : S.evaluate p s os = some (tr, a, s')) : Evaluates S p s tr a s' := by
  induction p generalizing s os tr with
  | done a' =>
    cases os with
    | nil => cases h; exact .done ..
    | cons o os => cases h
  | sync u k ih => exact .sync (ih s.1 h)
  | await c k ih =>
    rcases os with _ | ⟨⟨es, o⟩, os⟩
    · cases h
    · obtain ⟨⟨tr', a', s''⟩, h', heq⟩ := Option.map_eq_some_iff.mp h
      cases heq
      exact .await es o rfl rfl (ih _ h')

/-- Any program can be run alone, with answers of one oracle. -/
theorem exists_evaluates {α : Type} (o : S.Oracle) (p : Program M C R α) (s : M × E) :
    ∃ tr a s', Evaluates S p s tr a s' ∧ ∀ ans ∈ tr, ∃ e, ans.2 = (S.answer o e ans.1).1 := by
  induction p generalizing s with
  | done a => exact ⟨[], a, s, .done a s, by simp⟩
  | sync u k ih =>
    obtain ⟨tr, a, s', h, htr⟩ := ih s.1 (u s.1, s.2)
    exact ⟨tr, a, s', .sync h, htr⟩
  | await c k ih =>
    obtain ⟨tr, a, s', h, htr⟩ := ih (S.answer o s.2 c).1 (s.1, (S.answer o s.2 c).2)
    refine ⟨⟨c, _⟩ :: tr, a, s', .await [] o rfl rfl h, ?_⟩
    exact List.forall_mem_cons.mpr ⟨⟨s.2, rfl⟩, htr⟩

theorem evaluates_bind {α β : Type} {p : Program M C R α} {f : α → Program M C R β}
    {s s' : M × E} {tr : List (Answered R)} {b : β} :
    Evaluates S (p.bind f) s tr b s' ↔ ∃ tr₁ a s₁ tr₂, Evaluates S p s tr₁ a s₁ ∧
      Evaluates S (f a) s₁ tr₂ b s' ∧ tr = tr₁ ++ tr₂ := by
  constructor
  · intro h
    induction p generalizing s tr with
    | done a => exact ⟨[], a, s, tr, .done a s, h, rfl⟩
    | sync u k ih =>
      cases h with
      | sync h =>
        obtain ⟨tr₁, a, s₁, tr₂, h₁, h₂, rfl⟩ := ih _ h
        exact ⟨tr₁, a, s₁, tr₂, .sync h₁, h₂, rfl⟩
    | await c k ih =>
      cases h with
      | await es o hes ho h =>
        obtain ⟨tr₁, a, s₁, tr₂, h₁, h₂, rfl⟩ := ih _ h
        exact ⟨_ :: tr₁, a, s₁, tr₂, .await es o hes ho h₁, h₂, rfl⟩
  · rintro ⟨tr₁, a, s₁, tr₂, h₁, h₂, rfl⟩
    induction h₁ with
    | done a s => exact h₂
    | sync _ ih => exact .sync (ih h₂)
    | await es o hes ho _ ih => exact .await es o hes ho (ih h₂)

theorem Evaluates.guarded {α : Type} {G : (c : C) → R c → Prop} {T : α → Prop}
    {p : Program M C R α} {s s' : M × E} {tr : List (Answered R)} {a : α}
    (h : Evaluates S p s tr a s') (hp : p.Guarded G T) (ha : T a) : ∃ ans ∈ tr, G ans.1 ans.2 := by
  induction h with
  | done a s => exact absurd ha hp
  | sync _ ih => exact ih (hp _) ha
  | @await c k s m e r e' tr a s' es o hes ho _ ih =>
    rcases hp r with hG | hp
    · exact ⟨⟨c, r⟩, List.mem_cons_self, hG⟩
    · obtain ⟨ans, hans, hG⟩ := ih hp ha
      exact ⟨ans, List.mem_cons_of_mem _ hans, hG⟩

theorem Serial.append {s₁ s₂ s₃ : M × E} {l l' : List (S.Request × List (Answered R) × S.Reply)}
    (h : Serial S s₁ l s₂) (h' : Serial S s₂ l' s₃) : Serial S s₁ (l ++ l') s₃ := by
  induction h with
  | nil s => exact h'
  | happen _ ih => exact .happen (ih h')
  | request heval _ ih => exact .request heval (ih h')

/-- **Induction from the start of a serial run.**  What holds at first, and is kept by
    what happens and by every request that is handled, holds at the end. -/
theorem Serial.invariant
    {P : List (S.Request × List (Answered R) × S.Reply) → M × E → Prop} {s₀ s : M × E}
    {l : List (S.Request × List (Answered R) × S.Reply)} (h : Serial S s₀ l s) (hstart : P [] s₀)
    (hhappen : ∀ l s e, Serial S s₀ l s → P l s → P l (S.happen e s))
    (hrequest : ∀ l s req tr a s', Serial S s₀ l s → P l s → Evaluates S (S.handler req) s tr a s' →
      P (l ++ [(req, tr, a)]) s') : P l s := by
  -- `s₁` is reached after `done`, and `l` is still to come
  have hfrom (s₁ : M × E) (hl : Serial S s₁ l s) : ∀ done, Serial S s₀ done s₁ → P done s₁ →
      P (done ++ l) s := by
    clear h
    induction hl with
    | nil s =>
      intro done _ hP
      rwa [List.append_nil]
    | @happen s e s' l _ ih =>
      intro done hdone hP
      apply ih
      · simpa using hdone.append (.happen (.nil (S.happen e s)))
      · exact hhappen done s e hdone hP
    | @request s req tr a s₁ s' l heval _ ih =>
      intro done hdone hP
      have hrest := ih (done ++ [(req, tr, a)]) (hdone.append (.request heval (.nil s₁)))
        (hrequest done s req tr a s₁ hdone hP heval)
      simpa using hrest
  exact hfrom s₀ h [] (.nil s₀) hstart

/-! ### Serial runs are runs -/

private theorem getElem?_concat {α : Type} (l : List α) (a : α) : (l ++ [a])[l.length]? = some a := by
  simp

private theorem set_concat {α : Type} (l : List α) (a b : α) :
    (l ++ [a]).set l.length b = l ++ [b] := by
  simp

theorem run_happenAll (es : List S.Event) (s : M × E) (ts : List (Program M C R S.Reply)) :
    run (S := S) ⟨s.1, s.2, ts⟩ (es.map Move.happen) =
      some ⟨(S.happenAll es s).1, (S.happenAll es s).2, ts⟩ := by
  induction es generalizing s with
  | nil => rfl
  | cons e es ih => exact ih (S.happen e s)

theorem run_settle (m : M) (e : E) (ts : List (Program M C R S.Reply))
    (p : Program M C R S.Reply) :
    ∃ mvs, run (S := S) ⟨m, e, ts ++ [p]⟩ mvs = some ⟨(p.settle m).1, e, ts ++ [(p.settle m).2]⟩ := by
  cases p with
  | done a => exact ⟨[], rfl⟩
  | sync u k =>
    refine ⟨[.resume ts.length], ?_⟩
    simp only [run, step, getElem?_concat, set_concat, Option.bind_some]
  | await c k => exact ⟨[], rfl⟩

private theorem Evaluates.run_settled {p : Program M C R S.Reply} {s s' : M × E}
    {tr : List (Answered R)} {a : S.Reply} (h : Evaluates S p s tr a s')
    (ts : List (Program M C R S.Reply)) :
    ∃ mvs, System.run (S := S) ⟨(p.settle s.1).1, s.2, ts ++ [(p.settle s.1).2]⟩ mvs =
      some ⟨s'.1, s'.2, ts ++ [.done a]⟩ := by
  induction h with
  | done a s => exact ⟨[], rfl⟩
  | sync _ ih => exact ih
  | @await c k s m e r e' tr a s' es o hes ho _ ih =>
    obtain ⟨mvs₁, h₁⟩ := run_settle m e' ts (k r)
    obtain ⟨mvs₂, h₂⟩ := ih
    refine ⟨es.map Move.happen ++ (.answer ts.length o :: (mvs₁ ++ mvs₂)), ?_⟩
    refine (run_append _ _).mpr ⟨⟨m, e, ts ++ [.await c k]⟩, ?_, ?_⟩
    · have := run_happenAll (S := S) es s (ts ++ [.await c k])
      rwa [hes] at this
    · refine run_cons.mpr ⟨⟨m, e', ts ++ [k r]⟩, ?_, (run_append _ _).mpr ⟨_, h₁, h₂⟩⟩
      simp only [step, getElem?_concat, set_concat, ho]

theorem Evaluates.run {p : Program M C R S.Reply} {s s' : M × E} {tr : List (Answered R)}
    {a : S.Reply} (h : Evaluates S p s tr a s') (ts : List (Program M C R S.Reply)) :
    ∃ mvs, System.run (S := S) ⟨s.1, s.2, ts ++ [p]⟩ mvs = some ⟨s'.1, s'.2, ts ++ [.done a]⟩ := by
  obtain ⟨mvs₁, h₁⟩ := run_settle s.1 s.2 ts p
  obtain ⟨mvs₂, h₂⟩ := h.run_settled ts
  exact ⟨mvs₁ ++ mvs₂, (run_append _ _).mpr ⟨_, h₁, h₂⟩⟩

/-- **Serial runs are runs.**  Requests handled one after another are one of the
    interleavings of the system. -/
theorem Serial.run {s s' : M × E} {l : List (S.Request × List (Answered R) × S.Reply)}
    (h : Serial S s l s') (ts : List (Program M C R S.Reply)) :
    ∃ mvs, System.run (S := S) ⟨s.1, s.2, ts⟩ mvs =
      some ⟨s'.1, s'.2, ts ++ l.map fun x => .done x.2.2⟩ := by
  induction h generalizing ts with
  | nil s => exact ⟨[], by simp [System.run]⟩
  | @happen s e s' l _ ih =>
    obtain ⟨mvs, hm⟩ := ih ts
    exact ⟨.happen e :: mvs, run_cons.mpr ⟨_, rfl, hm⟩⟩
  | @request s req tr a s₁ s' l h _ ih =>
    obtain ⟨mvs₁, h₁⟩ := h.run ts
    obtain ⟨mvs₂, h₂⟩ := ih (ts ++ [.done a])
    refine ⟨.arrive req :: (mvs₁ ++ mvs₂), run_cons.mpr ⟨_, rfl, (run_append _ _).mpr ⟨_, h₁, ?_⟩⟩⟩
    simpa using h₂

end System

end DVoD.Async
