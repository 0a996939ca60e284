import DVoD.Evm.Word
import DVoD.Text.Utf8

/-!
# The resolver

The `PermissionedResolver` that all operators share is deployed code of ENSv2.
`Resolver` is any implementation that keeps the documented rules: a write succeeds for
whoever holds the role for that record, what is read is what was last written, and
writing a record changes no role.
-/

namespace DVoD.Ens

open DVoD.Evm DVoD.Text

/-! ### Keys -/

/-- The `text` records of `CapabilityRecordKeys`. -/
inductive TextKey where
  | endpoint
  | tiersSupported
deriving DecidableEq

/-- The `data` records of `CapabilityRecordKeys`. -/
inductive DataKey where
  | attestationBuildHash
  | payoutAddress
  | status
deriving DecidableEq

def statusActive : Bytes := Utf8.encode "active".toList
def statusRevoked : Bytes := Utf8.encode "revoked".toList

/-! ### Records and roles -/

/-- What a resolver stores: the records of each node, and who may write them. -/
structure Records where
  text : Word → TextKey → String
  data : Word → DataKey → Bytes
  maySetText : Word → TextKey → Address → Bool
  maySetData : Word → DataKey → Address → Bool

namespace Records

def setText (t : Records) (node : Word) (key : TextKey) (value : String) : Records :=
  { t with text := fun n k => if n = node ∧ k = key then value else t.text n k }

def setData (t : Records) (node : Word) (key : DataKey) (value : Bytes) : Records :=
  { t with data := fun n k => if n = node ∧ k = key then value else t.data n k }

@[simp] theorem data_setText (t : Records) (node : Word) (key : TextKey) (value : String) :
    (t.setText node key value).data = t.data := rfl

@[simp] theorem data_setData_self (t : Records) (node : Word) (key : DataKey) (value : Bytes) :
    (t.setData node key value).data node key = value := by
  simp [setData]

structure SameRoles (node : Word) (t t' : Records) : Prop where
  text : ∀ key account, t'.maySetText node key account = t.maySetText node key account
  data : ∀ key account, t'.maySetData node key account = t.maySetData node key account

theorem SameRoles.refl (node : Word) (t : Records) : SameRoles node t t :=
  ⟨fun _ _ => rfl, fun _ _ => rfl⟩

theorem SameRoles.trans {node : Word} {t t' t'' : Records} (h : SameRoles node t t')
    (h' : SameRoles node t' t'') : SameRoles node t t'' := by
  constructor
  · intro key account
    rw [h'.text, h.text]
  · intro key account
    rw [h'.data, h.data]

end Records

/-! ### Implementations -/

structure Resolver where
  State : Type
  records : State → Records
  setText : State → Address → Word → TextKey → String → Option State
  setData : State → Address → Word → DataKey → Bytes → Option State
  records_setText : ∀ s sender node key value, (setText s sender node key value).map records =
    if (records s).maySetText node key sender then some ((records s).setText node key value) else none
  records_setData : ∀ s sender node key value, (setData s sender node key value).map records =
    if (records s).maySetData node key sender then some ((records s).setData node key value) else none

namespace Resolver

variable {R : Resolver} {s s' : R.State} {sender : Address} {node n : Word}

def data (R : Resolver) (s : R.State) (node : Word) (key : DataKey) : Bytes :=
  (R.records s).data node key

theorem setText_eq_some {key : TextKey} {value : String}
    (h : R.setText s sender n key value = some s') :
    (R.records s).maySetText n key sender = true ∧
      R.records s' = (R.records s).setText n key value := by
  have hlaw := R.records_setText s sender n key value
  rw [h] at hlaw
  split at hlaw
  · next hmay => exact ⟨hmay, Option.some.inj hlaw⟩
  · cases hlaw

theorem setData_eq_some {key : DataKey} {value : Bytes}
    (h : R.setData s sender n key value = some s') :
    (R.records s).maySetData n key sender = true ∧
      R.records s' = (R.records s).setData n key value := by
  have hlaw := R.records_setData s sender n key value
  rw [h] at hlaw
  split at hlaw
  · next hmay => exact ⟨hmay, Option.some.inj hlaw⟩
  · cases hlaw

theorem exists_setData {key : DataKey} (hmay : (R.records s).maySetData n key sender = true)
    (value : Bytes) : ∃ s', R.setData s sender n key value = some s' ∧
      R.records s' = (R.records s).setData n key value := by
  have hlaw := R.records_setData s sender n key value
  rw [if_pos hmay] at hlaw
  exact Option.map_eq_some_iff.mp hlaw

theorem sameRoles_setText {key : TextKey} {value : String}
    (h : R.setText s sender n key value = some s') :
    (R.records s).SameRoles node (R.records s') := by
  rw [(setText_eq_some h).2]
  exact ⟨fun _ _ => rfl, fun _ _ => rfl⟩

theorem sameRoles_setData {key : DataKey} {value : Bytes}
    (h : R.setData s sender n key value = some s') :
    (R.records s).SameRoles node (R.records s') := by
  rw [(setData_eq_some h).2]
  exact ⟨fun _ _ => rfl, fun _ _ => rfl⟩

end Resolver

def Records.resolver : Resolver where
  State := Records
  records := id
  setText t sender node key value :=
    if t.maySetText node key sender then some (t.setText node key value) else none
  setData t sender node key value :=
    if t.maySetData node key sender then some (t.setData node key value) else none
  records_setText _ _ _ _ _ := by split <;> simp_all
  records_setData _ _ _ _ _ := by split <;> simp_all

end DVoD.Ens
