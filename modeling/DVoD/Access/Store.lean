import Mathlib.Logic.Function.Basic
import Mathlib.Logic.Relation

/-!
# Stores with roles

A store of records.  Each record has the accounts that hold the role to write it, on the
record or on the root, and the accounts that may hand that role out.  A call writes a
record, or gives an account the role on a record or takes it back.

`Store.Reaches.value_eq` is the rule the access-control proofs rest on: accounts that may
hand out no role gain none by any calls, and change no record that none of them may write.
-/

namespace DVoD.Access

structure Store (Record Account : Type) (Value : Record → Type) where
  value : (r : Record) → Value r
  role : Record → Account → Bool
  rootRole : Record → Account → Bool
  mayGrant : Record → Account → Bool

inductive Call (Record Account : Type) (Value : Record → Type) where
  | write (r : Record) (v : Value r)
  | authorize (r : Record) (account : Account) (grant : Bool)

namespace Store

variable {Record Account : Type} {Value : Record → Type}

def mayWrite (t : Store Record Account Value) (r : Record) (account : Account) : Bool :=
  t.role r account || t.rootRole r account

def allows (t : Store Record Account Value) (sender : Account) : Call Record Account Value → Bool
  | .write r _ => t.mayWrite r sender
  | .authorize r _ _ => t.mayGrant r sender

variable [DecidableEq Record] [DecidableEq Account]

def apply (t : Store Record Account Value) : Call Record Account Value → Store Record Account Value
  | .write r v => { t with value := Function.update t.value r v }
  | .authorize r account grant =>
      { t with role := fun r' account' => if r' = r ∧ account' = account then grant else t.role r' account' }

/-! ### One call -/

section Apply

variable (t : Store Record Account Value) {r r' : Record} {account account' : Account} {grant : Bool}
  {v : Value r}

@[simp] theorem apply_rootRole (call : Call Record Account Value) :
    (t.apply call).rootRole = t.rootRole := by
  cases call <;> rfl

@[simp] theorem apply_mayGrant (call : Call Record Account Value) :
    (t.apply call).mayGrant = t.mayGrant := by
  cases call <;> rfl

@[simp] theorem value_authorize : (t.apply (.authorize r account grant)).value = t.value := rfl

@[simp] theorem role_write : (t.apply (.write r v)).role = t.role := rfl

@[simp] theorem mayWrite_write : (t.apply (.write r v)).mayWrite r' account = t.mayWrite r' account := rfl

@[simp] theorem value_write_self : (t.apply (.write r v)).value r = v := Function.update_self ..

theorem value_write_of_ne (h : r' ≠ r) : (t.apply (.write r v)).value r' = t.value r' :=
  Function.update_of_ne h ..

/-- Who changes a record may write it. -/
theorem mayWrite_of_value_ne {t : Store Record Account Value} {sender : Account}
    {call : Call Record Account Value} {r : Record} (hallows : t.allows sender call = true)
    (hne : (t.apply call).value r ≠ t.value r) : t.mayWrite r sender = true := by
  cases call with
  | write r' v =>
    by_cases heq : r = r'
    · subst heq
      exact hallows
    · exact absurd (value_write_of_ne t heq) hne
  | authorize r' account grant => exact absurd rfl hne

theorem mayWrite_authorize_self : (t.apply (.authorize r account true)).mayWrite r account = true := by
  simp [apply, mayWrite]

theorem mayWrite_authorize_of_ne (h : ¬ (r' = r ∧ account' = account)) :
    (t.apply (.authorize r account grant)).mayWrite r' account' = t.mayWrite r' account' := by
  simp [apply, mayWrite, h]

end Apply

/-! ### Calls one after another -/

def applyAll (t : Store Record Account Value) (calls : List (Call Record Account Value)) :
    Store Record Account Value :=
  calls.foldl apply t

section ApplyAll

variable {calls : List (Call Record Account Value)} {t : Store Record Account Value} {r : Record}
  {account : Account}

theorem applyAll_append (t : Store Record Account Value) (calls calls' : List (Call Record Account Value)) :
    t.applyAll (calls ++ calls') = (t.applyAll calls).applyAll calls' :=
  List.foldl_append

@[simp] theorem applyAll_mayGrant (t : Store Record Account Value)
    (calls : List (Call Record Account Value)) : (t.applyAll calls).mayGrant = t.mayGrant := by
  induction calls generalizing t with
  | nil => rfl
  | cons call calls ih => exact (ih (t.apply call)).trans (apply_mayGrant t call)

/-- A record that no call writes keeps its value. -/
theorem value_applyAll (h : ∀ v, .write r v ∉ calls) : (t.applyAll calls).value r = t.value r := by
  induction calls generalizing t with
  | nil => rfl
  | cons call calls ih =>
    have hrest := ih (t := t.apply call) fun v hmem => h v (List.mem_cons_of_mem _ hmem)
    rw [applyAll, List.foldl_cons]
    refine hrest.trans ?_
    cases call with
    | write r' v =>
      refine value_write_of_ne t ?_
      rintro rfl
      exact h v List.mem_cons_self
    | authorize r' account grant => rfl

/-- The last call that writes a record decides its value. -/
theorem value_applyAll_write {before after : List (Call Record Account Value)} {v : Value r}
    (h : ∀ v, .write r v ∉ after) : (t.applyAll (before ++ .write r v :: after)).value r = v := by
  rw [applyAll_append]
  exact (value_applyAll h).trans (value_write_self _)

/-- A role that is held after the calls was held before, or was given by one of them. -/
theorem mayWrite_applyAll (h : (t.applyAll calls).mayWrite r account = true) :
    t.mayWrite r account = true ∨ .authorize r account true ∈ calls := by
  induction calls generalizing t with
  | nil => exact Or.inl h
  | cons call calls ih =>
    rcases ih (t := t.apply call) h with hmay | hmem
    · cases call with
      | write r' v => exact Or.inl hmay
      | authorize r' account' grant =>
        by_cases heq : r = r' ∧ account = account'
        · obtain ⟨rfl, rfl⟩ := heq
          cases grant with
          | true => exact Or.inr List.mem_cons_self
          | false => exact Or.inl (by simp [apply, mayWrite] at hmay ⊢; exact Or.inr hmay)
        · rw [mayWrite_authorize_of_ne t heq] at hmay
          exact Or.inl hmay
    · exact Or.inr (List.mem_cons_of_mem _ hmem)

/-- A role that is held, or given by one of the calls, is held after them if none of them
    takes it back. -/
theorem mayWrite_applyAll_of_not_mem (hnot : .authorize r account false ∉ calls)
    (h : t.mayWrite r account = true ∨ .authorize r account true ∈ calls) :
    (t.applyAll calls).mayWrite r account = true := by
  induction calls generalizing t with
  | nil =>
    rcases h with hmay | hmem
    · exact hmay
    · cases hmem
  | cons call calls ih =>
    refine ih (t := t.apply call) (fun hmem => hnot (List.mem_cons_of_mem _ hmem)) ?_
    rcases h with hmay | hmem
    · refine Or.inl ?_
      cases call with
      | write r' v => exact hmay
      | authorize r' account' grant =>
        by_cases heq : r = r' ∧ account = account'
        · obtain ⟨rfl, rfl⟩ := heq
          cases grant with
          | true => exact mayWrite_authorize_self t
          | false => exact absurd List.mem_cons_self hnot
        · rw [mayWrite_authorize_of_ne t heq]
          exact hmay
    · rcases List.mem_cons.mp hmem with rfl | hmem
      · exact Or.inl (mayWrite_authorize_self t)
      · exact Or.inr hmem

theorem mayWrite_applyAll_iff (hnot : .authorize r account false ∉ calls) :
    (t.applyAll calls).mayWrite r account = true ↔
      t.mayWrite r account = true ∨ .authorize r account true ∈ calls :=
  ⟨mayWrite_applyAll, mayWrite_applyAll_of_not_mem hnot⟩

end ApplyAll

/-! ### Calls of some accounts -/

/-- A call that one of the accounts makes and that is allowed. -/
inductive Step (accounts : Account → Prop) :
    Store Record Account Value → Store Record Account Value → Prop
  | call {t sender call} : accounts sender → t.allows sender call = true →
      Step accounts t (t.apply call)

abbrev Reaches (accounts : Account → Prop) :
    Store Record Account Value → Store Record Account Value → Prop :=
  Relation.ReflTransGen (Step accounts)

variable {accounts : Account → Prop} {t t' : Store Record Account Value}

theorem Step.mayGrant (h : Step accounts t t') : t'.mayGrant = t.mayGrant := by
  cases h with
  | call => exact apply_mayGrant ..

theorem Reaches.mayGrant (h : Reaches accounts t t') : t'.mayGrant = t.mayGrant := by
  induction h with
  | refl => rfl
  | tail _ hstep ih => exact hstep.mayGrant.trans ih

variable (hno : ∀ account, accounts account → ∀ r, t.mayGrant r account = false)

include hno

/-- Accounts that may hand out no role leave all roles as they are. -/
theorem Step.mayWrite_eq (h : Step accounts t t') (r : Record) (account : Account) :
    t'.mayWrite r account = t.mayWrite r account := by
  cases h with
  | @call sender call hsender hallows =>
    cases call with
    | write r' v => exact mayWrite_write t
    | authorize r' account' grant =>
      rw [allows, hno sender hsender r'] at hallows
      cases hallows

theorem Reaches.mayWrite_eq (h : Reaches accounts t t') (r : Record) (account : Account) :
    t'.mayWrite r account = t.mayWrite r account := by
  induction h with
  | refl => rfl
  | tail hbefore hstep ih =>
    rw [← ih]
    apply hstep.mayWrite_eq
    intro account haccount r
    rw [Reaches.mayGrant hbefore]
    exact hno account haccount r

omit hno in
theorem Step.value_eq (h : Step accounts t t') {r : Record}
    (hnot : ∀ account, accounts account → t.mayWrite r account = false) : t'.value r = t.value r := by
  cases h with
  | @call sender call hsender hallows =>
    by_contra hne
    have hmay := mayWrite_of_value_ne hallows hne
    rw [hnot sender hsender] at hmay
    cases hmay

/-- **No escalation.**  Accounts that may hand out no role change no record that none of
    them may write at first. -/
theorem Reaches.value_eq (h : Reaches accounts t t') {r : Record}
    (hnot : ∀ account, accounts account → t.mayWrite r account = false) : t'.value r = t.value r := by
  induction h with
  | refl => rfl
  | tail hbefore hstep ih =>
    rw [← ih]
    apply hstep.value_eq
    intro account haccount
    rw [Reaches.mayWrite_eq hno hbefore]
    exact hnot account haccount

end Store

end DVoD.Access
