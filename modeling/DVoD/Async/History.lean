import DVoD.Async.Rely

/-!
# What one handler has been told

`heard` is the list of the answers that one handler gets along a run, each with the world
that gave it.  `leads_heard` says that the handler stands where these answers take it, so
that what it returns is read off its own program; `heard_ordered` says that the worlds come
one after the other.
-/

namespace DVoD.Async

/-- A command, the world in which it was executed and its answer. -/
structure Heard (E C : Type) (R : C → Type) where
  env : E
  command : C
  answer : R command

variable {M E C : Type} {R : C → Type} {α : Type}

namespace Program

/-- The answers take one program to the other. -/
inductive Leads : Program M C R α → List (Heard E C R) → Program M C R α → Prop
  | refl (p : Program M C R α) : Leads p [] p
  | sync {u : M → M} {k : M → Program M C R α} {m : M} {hs : List (Heard E C R)}
      {q : Program M C R α} : Leads (k m) hs q → Leads (.sync u k) hs q
  | await {c : C} {k : R c → Program M C R α} {e : E} {r : R c} {hs : List (Heard E C R)}
      {q : Program M C R α} : Leads (k r) hs q → Leads (.await c k) (⟨e, c, r⟩ :: hs) q

variable {p q q' : Program M C R α} {hs hs' : List (Heard E C R)}

theorem Leads.trans (h : Leads p hs q) (h' : Leads q hs' q') : Leads p (hs ++ hs') q' := by
  induction h with
  | refl p => exact h'
  | sync _ ih => exact .sync (ih h')
  | await _ ih => exact .await (ih h')

theorem leads_settle (p : Program M C R α) (m : M) :
    Leads p ([] : List (Heard E C R)) (p.settle m).2 := by
  induction p generalizing m with
  | done a => exact .refl _
  | sync u k ih => exact .sync (ih m (u m))
  | await c k ih => exact .refl _

/-- A handler that awaits an answer returns nothing before it has got one. -/
theorem Leads.of_await {c : C} {k : R c → Program M C R α} {a : α}
    (h : Leads (.await c k) hs (.done a)) :
    ∃ e r hs', hs = ⟨e, c, r⟩ :: hs' ∧ Leads (k r) hs' (.done a) := by
  cases h with
  | await h => exact ⟨_, _, _, rfl, h⟩

theorem Leads.of_done {a b : α} (h : Leads (.done a : Program M C R α) hs (.done b)) :
    hs = [] ∧ a = b := by
  cases h with
  | refl => exact ⟨rfl, rfl⟩

end Program

namespace System

open Program

variable {S : System M E C R}

/-- What the task is told by one move. -/
def heardBy (task : ℕ) (cfg : Config S) : Move S → List (Heard E C R)
  | .answer i o =>
      if i = task then
        match cfg.tasks[i]? with
        | some (.await c _) => [⟨cfg.env, c, (S.answer o cfg.env c).1⟩]
        | _ => []
      else []
  | _ => []

/-- What the task is told along a run. -/
def heard (task : ℕ) : Config S → List (Move S) → List (Heard E C R)
  | _, [] => []
  | cfg, mv :: mvs =>
      heardBy task cfg mv ++
        match step cfg mv with
        | some cfg' => heard task cfg' mvs
        | none => []

variable {cfg cfg' : Config S} {mv : Move S} {mvs : List (Move S)} {task : ℕ}
  {p q : Program M C R S.Reply}

theorem heard_cons (h : step cfg mv = some cfg') :
    heard task cfg (mv :: mvs) = heardBy task cfg mv ++ heard task cfg' mvs := by
  simp only [heard, h]

/-! ### Where it leads -/

theorem step_leads (h : step cfg mv = some cfg') (hp : cfg.tasks[task]? = some p) :
    ∃ q, cfg'.tasks[task]? = some q ∧ Leads p (heardBy task cfg mv) q := by
  have hlt := (List.getElem?_eq_some_iff.mp hp).1
  rcases step_cases h with ⟨req, rfl, rfl⟩ | ⟨i, u, k, rfl, ht, rfl⟩ | ⟨i, o, c, k, rfl, ht, rfl⟩ |
    ⟨ev, rfl, rfl⟩
  · exact ⟨p, by rw [List.getElem?_append_left hlt, hp], .refl p⟩
  · by_cases hi : i = task
    · obtain rfl := hi
      obtain rfl := Option.some.inj (ht.symm.trans hp)
      exact ⟨_, List.getElem?_set_self hlt, leads_settle _ _⟩
    · exact ⟨p, by rw [List.getElem?_set_ne hi, hp], .refl p⟩
  · by_cases hi : i = task
    · obtain rfl := hi
      obtain rfl := Option.some.inj (ht.symm.trans hp)
      refine ⟨_, List.getElem?_set_self hlt, ?_⟩
      simp only [heardBy, if_true, ht]
      exact .await (.refl _)
    · refine ⟨p, by rw [List.getElem?_set_ne hi, hp], ?_⟩
      simp only [heardBy, if_neg hi]
      exact .refl p
  · exact ⟨p, hp, .refl p⟩

theorem run_leads (h : run cfg mvs = some cfg') (hp : cfg.tasks[task]? = some p) :
    ∃ q, cfg'.tasks[task]? = some q ∧ Leads p (heard task cfg mvs) q := by
  induction mvs generalizing cfg p with
  | nil =>
    obtain rfl := Option.some.inj h
    exact ⟨p, hp, .refl p⟩
  | cons mv mvs ih =>
    obtain ⟨cfg₁, hstep, hrun⟩ := run_cons.mp h
    obtain ⟨p₁, hp₁, hlead⟩ := step_leads hstep hp
    obtain ⟨q, hq, hrest⟩ := ih hrun hp₁
    exact ⟨q, hq, heard_cons hstep ▸ hlead.trans hrest⟩

/-- A task that is still to come is told nothing. -/
theorem heardBy_of_none (h : cfg.tasks[task]? = none) : heardBy task cfg mv = [] := by
  cases mv with
  | answer i o =>
    simp only [heardBy]
    split
    · next hi => rw [hi, h]
    · rfl
  | _ => rfl

/-- **Where a handler stands.**  The `n`th task to come stands where what it has heard takes
    the handler of the `n`th request. -/
theorem leads_heard (h : run cfg mvs = some cfg') (hle : cfg.tasks.length ≤ task)
    (hq : cfg'.tasks[task]? = some q) :
    ∃ req, (requests mvs)[task - cfg.tasks.length]? = some req ∧
      Leads (S.handler req) (heard task cfg mvs) q := by
  induction mvs generalizing cfg with
  | nil =>
    obtain rfl := Option.some.inj h
    exact absurd (List.getElem?_eq_some_iff.mp hq).1 (Nat.not_lt_of_le hle)
  | cons mv mvs ih =>
    obtain ⟨cfg₁, hstep, hrun⟩ := run_cons.mp h
    have hnone : heardBy task cfg mv = [] := heardBy_of_none (List.getElem?_eq_none hle)
    rw [heard_cons hstep, hnone, List.nil_append]
    rcases step_cases hstep with ⟨req, rfl, rfl⟩ | ⟨i, u, k, rfl, ht, rfl⟩ |
      ⟨i, o, c, k, rfl, ht, rfl⟩ | ⟨ev, rfl, rfl⟩
    · rcases Nat.eq_or_lt_of_le hle with heq | hlt
      · -- this is the task that arrives
        obtain rfl := heq
        obtain ⟨q', hq', hlead⟩ := run_leads (p := S.handler req) hrun List.getElem?_concat_length
        obtain rfl := Option.some.inj (hq'.symm.trans hq)
        exact ⟨req, by simp [requests], hlead⟩
      · obtain ⟨req', hreq, hlead⟩ := ih hrun (by simpa using Nat.succ_le_of_lt hlt)
        refine ⟨req', ?_, hlead⟩
        rw [List.length_append, List.length_singleton] at hreq
        rwa [requests, show task - cfg.tasks.length = task - (cfg.tasks.length + 1) + 1 by omega,
          List.getElem?_cons_succ]
    · exact List.length_set ▸ ih hrun (by simpa using hle)
    · exact List.length_set ▸ ih hrun (by simpa using hle)
    · exact ih hrun hle

theorem length_tasks (h : run cfg mvs = some cfg') :
    cfg'.tasks.length = cfg.tasks.length + (requests mvs).length := by
  induction mvs generalizing cfg with
  | nil =>
    obtain rfl := Option.some.inj h
    rfl
  | cons mv mvs ih =>
    obtain ⟨cfg₁, hstep, hrun⟩ := run_cons.mp h
    rw [ih hrun]
    rcases step_cases hstep with ⟨req, rfl, rfl⟩ | ⟨i, u, k, rfl, -, rfl⟩ | ⟨i, o, c, k, rfl, -, rfl⟩ |
      ⟨ev, rfl, rfl⟩
    · simp only [requests, List.length_cons, List.length_append, List.length_nil]
      omega
    · simp only [requests, List.length_set]
    · simp only [requests, List.length_set]
    · simp only [requests]

/-! ### In which order -/

/-- Every answer is the one of its world. -/
theorem heardBy_spec {x : Heard E C R} (hx : x ∈ heardBy task cfg mv) :
    x.env = cfg.env ∧ ∃ o, x.answer = (S.answer o x.env x.command).1 := by
  cases mv with
  | answer i o =>
    simp only [heardBy] at hx
    split at hx
    · split at hx
      · obtain rfl := List.mem_singleton.mp hx
        exact ⟨rfl, o, rfl⟩
      · cases hx
    · cases hx
  | _ => cases hx

section Order

variable {Γ : Protocol E C R} (hS : S.Observes Γ)
include hS

theorem rely_step (h : step cfg mv = some cfg') : Γ.rely cfg.env cfg'.env := by
  rcases step_cases h with ⟨req, -, rfl⟩ | ⟨i, u, k, -, -, rfl⟩ | ⟨i, o, c, k, -, -, rfl⟩ |
    ⟨ev, -, rfl⟩
  · exact Γ.refl _
  · exact Γ.refl _
  · exact (hS.answer o cfg.env c).1
  · exact hS.happen ev cfg.mem cfg.env

theorem rely_run (h : run cfg mvs = some cfg') : Γ.rely cfg.env cfg'.env := by
  induction mvs generalizing cfg with
  | nil =>
    obtain rfl := Option.some.inj h
    exact Γ.refl _
  | cons mv mvs ih =>
    obtain ⟨cfg₁, hstep, hrun⟩ := run_cons.mp h
    exact Γ.trans (rely_step hS hstep) (ih hrun)

/-- The world has gone on since. -/
theorem heard_rely (h : run cfg mvs = some cfg') {x : Heard E C R} (hx : x ∈ heard task cfg mvs) :
    Γ.rely x.env cfg'.env := by
  induction mvs generalizing cfg with
  | nil => cases hx
  | cons mv mvs ih =>
    obtain ⟨cfg₁, hstep, hrun⟩ := run_cons.mp h
    rw [heard_cons hstep] at hx
    rcases List.mem_append.mp hx with hx | hx
    · rw [(heardBy_spec hx).1]
      exact rely_run hS h
    · exact ih hrun hx

theorem heard_spec (h : run cfg mvs = some cfg') {x : Heard E C R} (hx : x ∈ heard task cfg mvs) :
    Γ.rely cfg.env x.env ∧ ∃ o, x.answer = (S.answer o x.env x.command).1 := by
  induction mvs generalizing cfg with
  | nil => cases hx
  | cons mv mvs ih =>
    obtain ⟨cfg₁, hstep, hrun⟩ := run_cons.mp h
    rw [heard_cons hstep] at hx
    rcases List.mem_append.mp hx with hx | hx
    · obtain ⟨henv, hanswer⟩ := heardBy_spec hx
      exact ⟨henv ▸ Γ.refl _, hanswer⟩
    · obtain ⟨hrely, hanswer⟩ := ih hrun hx
      exact ⟨Γ.trans (rely_step hS hstep) hrely, hanswer⟩

theorem heard_ordered (task : ℕ) (h : run cfg mvs = some cfg') :
    (heard task cfg mvs).Pairwise fun x y => Γ.rely x.env y.env := by
  induction mvs generalizing cfg with
  | nil => exact .nil
  | cons mv mvs ih =>
    obtain ⟨cfg₁, hstep, hrun⟩ := run_cons.mp h
    rw [heard_cons hstep, List.pairwise_append]
    refine ⟨?_, ih hrun, ?_⟩
    · cases mv with
      | answer i o =>
        simp only [heardBy]
        split
        · split
          · exact List.pairwise_singleton _ _
          · exact .nil
        · exact .nil
      | _ => exact .nil
    · intro x hx y hy
      rw [(heardBy_spec hx).1]
      exact Γ.trans (rely_step hS hstep) (heard_spec hS hrun hy).1

end Order

end System

end DVoD.Async
