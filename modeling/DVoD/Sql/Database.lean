import Mathlib.Data.Fintype.Basic
import Mathlib.Data.List.Nodup
import Mathlib.Logic.Function.Basic

/-!
# A transactional database

Of a database, the rows of one table, by their primary keys, and the effects of all other
statements, both in the order of the commits.  A statement of an idle connection is
committed at once.  In a transaction it is kept until `COMMIT`, and no other connection
sees it; an error aborts the transaction.  `Unique` is what the primary key amounts to,
over the committed rows and those of the open transactions together.
-/

namespace DVoD.Sql

inductive Connection (κ ε : Type) where
  | idle
  | active (keys : List κ) (effects : List ε)
  /-- Until `ROLLBACK`, every statement is refused. -/
  | aborted

namespace Connection

variable {κ ε : Type}

/-- The keys of the rows that the open transaction has inserted. -/
def keys : Connection κ ε → List κ
  | .active keys _ => keys
  | _ => []

@[simp] theorem keys_idle : (idle : Connection κ ε).keys = [] := rfl

@[simp] theorem keys_aborted : (aborted : Connection κ ε).keys = [] := rfl

@[simp] theorem keys_active (keys : List κ) (effects : List ε) :
    (active keys effects).keys = keys := rfl

end Connection

/-- `π` names the connections. -/
structure Database (π κ ε : Type) where
  keys : List κ
  effects : List ε
  connection : π → Connection κ ε

namespace Database

variable {π κ ε : Type} [DecidableEq π]

section Statements

variable (db : Database π κ ε) (p : π)

def set (c : Connection κ ε) : Database π κ ε :=
  { db with connection := Function.update db.connection p c }

/-- `BEGIN`; within a transaction it does nothing. -/
def beginTransaction : Database π κ ε :=
  match db.connection p with
  | .idle => db.set p (.active [] [])
  | _ => db

/-- A statement that does not insert into the table. -/
def execute (e : ε) : Option (Database π κ ε) :=
  match db.connection p with
  | .idle => some { db with effects := db.effects ++ [e] }
  | .active keys effects => some (db.set p (.active keys (effects ++ [e])))
  | .aborted => none

/-- `COMMIT`; that of an aborted transaction rolls it back. -/
def commit : Database π κ ε :=
  match db.connection p with
  | .active keys effects =>
      { db.set p .idle with keys := db.keys ++ keys, effects := db.effects ++ effects }
  | _ => db.set p .idle

/-- `ROLLBACK`, and the end of the connection. -/
def rollback : Database π κ ε := db.set p .idle

/-- An error. -/
def refuse : Database π κ ε :=
  match db.connection p with
  | .active _ _ => db.set p .aborted
  | _ => db

/-- What a query of the connection sees. -/
def Visible (k : κ) : Prop := k ∈ db.keys ∨ k ∈ (db.connection p).keys

instance [DecidableEq κ] (k : κ) : Decidable (db.Visible p k) := inferInstanceAs (Decidable (_ ∨ _))

/-- The row is committed, or an open transaction has inserted it. -/
def Held (k : κ) : Prop := k ∈ db.keys ∨ ∃ q, k ∈ (db.connection q).keys

instance [Fintype π] [DecidableEq κ] (k : κ) : Decidable (db.Held k) :=
  inferInstanceAs (Decidable (_ ∨ _))

/-- `INSERT`.  It fails where the row is committed, and waits for an open transaction that
    has inserted it. -/
def insert [Fintype π] [DecidableEq κ] (k : κ) : Option (Database π κ ε) :=
  if db.Held k then none
  else
    match db.connection p with
    | .idle => some { db with keys := db.keys ++ [k] }
    | .active keys effects => some (db.set p (.active (keys ++ [k]) effects))
    | .aborted => none

end Statements

variable {db db' : Database π κ ε} {p q : π} {c : Connection κ ε} {k : κ} {e : ε} {keys : List κ}
  {effects : List ε}

/-! ### What a statement leaves as it is -/

@[simp] theorem set_keys : (db.set p c).keys = db.keys := rfl

@[simp] theorem set_effects : (db.set p c).effects = db.effects := rfl

@[simp] theorem set_connection_self : (db.set p c).connection p = c := Function.update_self ..

theorem set_connection_of_ne (h : q ≠ p) : (db.set p c).connection q = db.connection q :=
  Function.update_of_ne h ..

theorem refuse_keys : (db.refuse p).keys = db.keys := by
  unfold refuse
  split
  · rfl
  · rfl

theorem refuse_effects : (db.refuse p).effects = db.effects := by
  unfold refuse
  split
  · rfl
  · rfl

theorem refuse_connection_of_ne (h : q ≠ p) : (db.refuse p).connection q = db.connection q := by
  unfold refuse
  split
  · exact set_connection_of_ne h
  · rfl

/-! ### Statements of an open transaction -/

theorem beginTransaction_of_idle (h : db.connection p = .idle) :
    db.beginTransaction p = db.set p (.active [] []) := by
  rw [beginTransaction, h]

theorem execute_of_active (h : db.connection p = .active keys effects) :
    db.execute p e = some (db.set p (.active keys (effects ++ [e]))) := by
  rw [execute, h]

theorem commit_of_active (h : db.connection p = .active keys effects) :
    db.commit p =
      { db.set p .idle with keys := db.keys ++ keys, effects := db.effects ++ effects } := by
  rw [commit, h]

theorem insert_of_active [Fintype π] [DecidableEq κ] (h : db.connection p = .active keys effects)
    (hinsert : db.insert p k = some db') :
    ¬ db.Held k ∧ db' = db.set p (.active (keys ++ [k]) effects) := by
  unfold insert at hinsert
  split at hinsert
  · cases hinsert
  · next hfree =>
    rw [h] at hinsert
    exact ⟨hfree, (Option.some.inj hinsert).symm⟩

/-! ### The primary key -/

/-- Every key is that of one row at most: of a committed one, or of one that a single open
    transaction has inserted. -/
structure Unique (db : Database π κ ε) : Prop where
  committed : db.keys.Nodup
  inserted : ∀ p, (db.connection p).keys.Nodup
  fresh : ∀ p, ∀ k ∈ (db.connection p).keys, k ∉ db.keys
  exclusive : ∀ p q k, k ∈ (db.connection p).keys → k ∈ (db.connection q).keys → p = q

/-- A transaction that holds no more keys than before. -/
theorem Unique.set (h : db.Unique) (hsub : c.keys.Sublist (db.connection p).keys) :
    (db.set p c).Unique := by
  have hkeys (q : π) : ((db.set p c).connection q).keys.Sublist (db.connection q).keys := by
    by_cases hq : q = p
    · rw [hq, set_connection_self]
      exact hsub
    · rw [set_connection_of_ne hq]
  refine ⟨h.committed, fun q => (h.inserted q).sublist (hkeys q), ?_, ?_⟩
  · intro q k hk
    exact h.fresh q k ((hkeys q).subset hk)
  · intro q r k hq hr
    exact h.exclusive q r k ((hkeys q).subset hq) ((hkeys r).subset hr)

theorem Unique.rollback (h : db.Unique) : (db.rollback p).Unique := h.set (List.nil_sublist _)

theorem Unique.refuse (h : db.Unique) : (db.refuse p).Unique := by
  unfold Database.refuse
  split
  · exact h.set (List.nil_sublist _)
  · exact h

/-- An insertion that does not fail and need not wait. -/
theorem Unique.insert (h : db.Unique) (hactive : db.connection p = .active keys effects)
    (hfree : ¬ db.Held k) : (db.set p (.active (keys ++ [k]) effects)).Unique := by
  have hmem {q : π} {k' : κ} (hk' : k' ∈ ((db.set p (.active (keys ++ [k]) effects)).connection q).keys) :
      k' ∈ (db.connection q).keys ∨ q = p ∧ k' = k := by
    by_cases hq : q = p
    · subst hq
      rw [set_connection_self, Connection.keys_active, List.mem_append, List.mem_singleton] at hk'
      rw [hactive, Connection.keys_active]
      exact hk'.imp_right fun heq => ⟨rfl, heq⟩
    · rw [set_connection_of_ne hq] at hk'
      exact .inl hk'
  have hnot (q : π) : k ∉ (db.connection q).keys := fun hk => hfree (.inr ⟨q, hk⟩)
  refine ⟨h.committed, ?_, ?_, ?_⟩
  · intro q
    by_cases hq : q = p
    · subst hq
      rw [set_connection_self, Connection.keys_active]
      have hkeys := h.inserted q
      have hk := hnot q
      rw [hactive, Connection.keys_active] at hkeys hk
      exact List.nodup_append_comm.mp (List.nodup_cons.mpr ⟨hk, hkeys⟩)
    · rw [set_connection_of_ne hq]
      exact h.inserted q
  · intro q k' hk'
    rcases hmem hk' with hk' | ⟨-, rfl⟩
    · exact h.fresh q k' hk'
    · exact fun hk => hfree (.inl hk)
  · intro q r k' hq hr
    rcases hmem hq with hold | ⟨rfl, rfl⟩
    · rcases hmem hr with hold' | ⟨-, rfl⟩
      · exact h.exclusive q r k' hold hold'
      · exact absurd hold (hnot q)
    · rcases hmem hr with hold' | ⟨rfl, -⟩
      · exact absurd hold' (hnot r)
      · rfl

theorem Unique.commit (h : db.Unique) (hactive : db.connection p = .active keys effects) :
    (db.commit p).Unique := by
  have hclosed := h.set (p := p) (c := .idle) (List.nil_sublist _)
  have hkeys : (db.connection p).keys = keys := by rw [hactive, Connection.keys_active]
  rw [commit_of_active hactive]
  refine ⟨?_, hclosed.inserted, ?_, hclosed.exclusive⟩
  · refine List.nodup_append.mpr ⟨h.committed, hkeys ▸ h.inserted p, ?_⟩
    intro k hk k' hk' heq
    exact h.fresh p k' (hkeys.symm ▸ hk') (heq ▸ hk)
  · intro q k hk hmem
    rcases List.mem_append.mp hmem with hmem | hmem
    · exact hclosed.fresh q k hk hmem
    · -- another connection cannot hold a row of this transaction
      by_cases hq : q = p
      · subst hq
        simp at hk
      · have hk' : k ∈ (db.connection q).keys := by
          simpa [set_connection_of_ne hq] using hk
        exact hq (h.exclusive q p k hk' (hkeys.symm ▸ hmem))

end Database

end DVoD.Sql
