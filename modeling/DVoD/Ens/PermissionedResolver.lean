import DVoD.Access.Store
import DVoD.Ens.Registration

/-!
# The PermissionedResolver and its roles

The functions of the resolver that the repository calls, with the roles that guard them.
`PermissionedResolver` is any implementation with the documented access control: a call
succeeds only for an account with the role for it, and does no more than it says.
-/

namespace DVoD.Ens

open DVoD.Access DVoD.Evm DVoD.Session

/-! ### Records -/

/-- A record of a node: of the `text` profile, or of the `data` profile. -/
inductive Record where
  | text (node : Word) (key : String)
  | data (node : Word) (key : String)
deriving DecidableEq

@[reducible] def Record.Value : Record → Type
  | .text .. => String
  | .data .. => Bytes

def Record.node : Record → Word
  | .text node _ | .data node _ => node

abbrev ResolverStore := Store Record Address Record.Value

/-- `CAPABILITY_RECORD_KEYS`, the `text` ones. -/
def TextKey.name : TextKey → String
  | endpoint => "dvod.endpoint"
  | tiersSupported => "dvod.tiers_supported"

/-- `CAPABILITY_RECORD_KEYS`, the `data` ones. -/
def DataKey.name : DataKey → String
  | attestationBuildHash => "dvod.attestation_build_hash"
  | payoutAddress => "dvod.payout_address"
  | status => "dvod.status"

theorem TextKey.name_inj {key key' : TextKey} : key.name = key'.name ↔ key = key' := by
  cases key <;> cases key' <;> decide

theorem DataKey.name_inj {key key' : DataKey} : key.name = key'.name ↔ key = key' := by
  cases key <;> cases key' <;> decide

/-! ### Calls -/

/-- The functions of `permissionedResolverAbi` that change something. -/
inductive ResolverCall where
  | setText (node : Word) (key value : String)
  | setData (node : Word) (key : String) (value : Bytes)
  | authorizeTextRoles (toName : Bytes) (key : String) (account : Address) (grant : Bool)
  | authorizeDataRoles (toName : Bytes) (key : String) (account : Address) (grant : Bool)

/-- What a call does, where `nodeOf` is how the resolver reads a DNS-encoded name. -/
def ResolverCall.access (nodeOf : Bytes → Word) : ResolverCall → Call Record Address Record.Value
  | .setText node key value => .write (.text node key) value
  | .setData node key value => .write (.data node key) value
  | .authorizeTextRoles toName key account grant => .authorize (.text (nodeOf toName) key) account grant
  | .authorizeDataRoles toName key account grant => .authorize (.data (nodeOf toName) key) account grant

/-- The call that a step of a registration makes at the resolver, if it makes one there. -/
def ContractFunction.resolverCall : ContractFunction → Option ResolverCall
  | .register .. => none
  | .setText node key value => some (.setText node key.name value)
  | .setData node key value => some (.setData node key.name value)
  | .authorizeTextRoles toName key account grant => some (.authorizeTextRoles toName key.name account grant)
  | .authorizeDataRoles toName key account grant => some (.authorizeDataRoles toName key.name account grant)

/-! ### Implementations -/

structure PermissionedResolver where
  State : Type
  store : State → ResolverStore
  nodeOf : Bytes → Word
  call : State → Address → ResolverCall → Option State
  call_eq_some : ∀ {s s' sender c}, call s sender c = some s' →
    (store s).allows sender (c.access nodeOf) = true ∧ store s' = (store s).apply (c.access nodeOf)

namespace PermissionedResolver

variable {R : PermissionedResolver}

/-- A call by an account that holds the role for it does not revert. -/
def Permits (R : PermissionedResolver) : Prop :=
  ∀ s sender c, (R.store s).allows sender (c.access R.nodeOf) = true → ∃ s', R.call s sender c = some s'

def text (R : PermissionedResolver) (s : R.State) (node : Word) (key : TextKey) : String :=
  (R.store s).value (.text node key.name)

def data (R : PermissionedResolver) (s : R.State) (node : Word) (key : DataKey) : Bytes :=
  (R.store s).value (.data node key.name)

/-! ### Transactions -/

/-- A transaction: a call that reverts changes nothing. -/
def transact (R : PermissionedResolver) (s : R.State) (tx : Address × ResolverCall) : R.State :=
  (R.call s tx.1 tx.2).getD s

def transactAll (R : PermissionedResolver) (s : R.State) (txs : List (Address × ResolverCall)) : R.State :=
  txs.foldl R.transact s

section Transact

variable {accounts : Address → Prop} {s : R.State} {tx : Address × ResolverCall}
  {txs : List (Address × ResolverCall)}

theorem store_transact (R : PermissionedResolver) (s : R.State) (tx : Address × ResolverCall) :
    R.store (R.transact s tx) = R.store s ∨
      (R.store s).allows tx.1 (tx.2.access R.nodeOf) = true ∧
        R.store (R.transact s tx) = (R.store s).apply (tx.2.access R.nodeOf) := by
  unfold transact
  rcases hcall : R.call s tx.1 tx.2 with _ | s'
  · exact Or.inl rfl
  · exact Or.inr (R.call_eq_some hcall)

theorem reaches_transact (hsender : accounts tx.1) :
    Store.Reaches accounts (R.store s) (R.store (R.transact s tx)) := by
  rcases store_transact R s tx with hsame | ⟨hallows, happly⟩
  · rw [hsame]
  · rw [happly]
    exact .single (.call hsender hallows)

theorem reaches_transactAll (hsenders : ∀ tx ∈ txs, accounts tx.1) :
    Store.Reaches accounts (R.store s) (R.store (R.transactAll s txs)) := by
  induction txs generalizing s with
  | nil => exact .refl
  | cons tx txs ih =>
    have hall := List.forall_mem_cons.mp hsenders
    exact (reaches_transact hall.1).trans (ih hall.2)

end Transact

/-! ### The calls of a registration -/

/-- One call of a registration, sent by `sender`.  What the registry does is not looked at. -/
def execute (R : PermissionedResolver) (sender : Address) (s : R.State) (call : ContractCall) :
    Option R.State :=
  match call.function.resolverCall with
  | none => some s
  | some c => R.call s sender c

/-- The calls one after another, all of which succeed. -/
def executeAll (R : PermissionedResolver) (sender : Address) (s : R.State) (calls : List ContractCall) :
    Option R.State :=
  calls.foldlM (R.execute sender) s

/-- What the calls do at the resolver. -/
def accesses (nodeOf : Bytes → Word) (calls : List ContractCall) :
    List (Call Record Address Record.Value) :=
  calls.filterMap fun call => call.function.resolverCall.map (ResolverCall.access nodeOf)

/-- What the calls of a registration do: they write records of the node, and grant roles on
    the node that the name is read as. -/
def registrationAccesses (params : RegisterOperatorParams) (node granted : Word) :
    List (Call Record Address Record.Value) :=
  [.write (.text node TextKey.endpoint.name) params.endpoint,
    .write (.text node TextKey.tiersSupported.name) (stringifyTiers params.tiersSupported),
    .write (.data node DataKey.attestationBuildHash.name) params.attestationBuildHash,
    .write (.data node DataKey.payoutAddress.name) (addressWord params.payoutAddress).toBytes,
    .write (.data node DataKey.status.name) statusActive,
    .authorize (.text granted TextKey.endpoint.name) params.operationalKeyAddress true,
    .authorize (.text granted TextKey.tiersSupported.name) params.operationalKeyAddress true,
    .authorize (.data granted DataKey.attestationBuildHash.name) params.operationalKeyAddress true,
    .authorize (.data granted DataKey.status.name) params.watchdogAddress true]

theorem accesses_operatorCalls (nodeOf : Bytes → Word) (registryAddress resolverAddress : Address)
    (params : RegisterOperatorParams) (node : Word) (toName : Bytes) :
    accesses nodeOf (operatorCalls registryAddress resolverAddress params node toName) =
      registrationAccesses params node (nodeOf toName) := rfl

/-- The account holds all roles on the root, and may hand them out. -/
def Administers (admin : Address) (t : ResolverStore) : Prop :=
  ∀ r, t.rootRole r admin = true ∧ t.mayGrant r admin = true

section Execute

variable {sender admin : Address} {s s' : R.State} {calls : List ContractCall}

theorem store_executeAll (h : R.executeAll sender s calls = some s') :
    R.store s' = (R.store s).applyAll (accesses R.nodeOf calls) := by
  induction calls generalizing s with
  | nil =>
    obtain rfl := Option.some.inj h
    rfl
  | cons call calls ih =>
    obtain ⟨s₁, hcall, hrest⟩ := Option.bind_eq_some_iff.mp h
    rw [ih hrest]
    unfold execute at hcall
    rcases hresolver : call.function.resolverCall with _ | c
    · rw [hresolver] at hcall
      obtain rfl := Option.some.inj hcall
      simp [accesses, hresolver]
    · rw [hresolver] at hcall
      rw [(R.call_eq_some hcall).2]
      simp [accesses, hresolver, Store.applyAll]

theorem Administers.apply {t : ResolverStore} (h : Administers admin t)
    (call : Call Record Address Record.Value) : Administers admin (t.apply call) := by
  intro r
  rw [Store.apply_rootRole, Store.apply_mayGrant]
  exact h r

theorem Administers.allows {t : ResolverStore} (h : Administers admin t)
    (call : Call Record Address Record.Value) : t.allows admin call = true := by
  cases call with
  | write r v => simp [Store.allows, Store.mayWrite, (h r).1]
  | authorize r account grant => exact (h r).2

/-- An account that holds all roles can execute any calls, and still holds them after. -/
theorem exists_executeAll (hpermits : R.Permits) (hadmin : Administers admin (R.store s))
    (calls : List ContractCall) :
    ∃ s', R.executeAll admin s calls = some s' ∧ Administers admin (R.store s') := by
  induction calls generalizing s with
  | nil => exact ⟨s, rfl, hadmin⟩
  | cons call calls ih =>
    obtain ⟨s₁, hcall, hadmin₁⟩ : ∃ s₁, R.execute admin s call = some s₁ ∧
        Administers admin (R.store s₁) := by
      unfold execute
      rcases call.function.resolverCall with _ | c
      · exact ⟨s, rfl, hadmin⟩
      · obtain ⟨s₁, hcall⟩ := hpermits s admin c (hadmin.allows _)
        refine ⟨s₁, hcall, ?_⟩
        rw [(R.call_eq_some hcall).2]
        exact hadmin.apply _
    obtain ⟨s', hrest, hadmin'⟩ := ih hadmin₁
    exact ⟨s', Option.bind_eq_some_iff.mpr ⟨s₁, hcall, hrest⟩, hadmin'⟩

end Execute

/-! ### What the contracts see of it -/

def records (R : PermissionedResolver) (s : R.State) : Records where
  text := R.text s
  data := R.data s
  maySetText node key account := (R.store s).mayWrite (.text node key.name) account
  maySetData node key account := (R.store s).mayWrite (.data node key.name) account

theorem records_setText {s s' : R.State} {sender : Address} {node : Word} {key : TextKey}
    {value : String} (h : R.call s sender (.setText node key.name value) = some s') :
    R.records s' = (R.records s).setText node key value := by
  have hstore := (R.call_eq_some h).2
  simp only [records, Records.setText, Records.mk.injEq]
  refine ⟨?_, ?_, ?_, ?_⟩
  · funext n k
    unfold text
    rw [hstore]
    by_cases heq : n = node ∧ k = key
    · rw [if_pos heq, heq.1, heq.2]
      exact Store.value_write_self _
    · rw [if_neg heq]
      refine Store.value_write_of_ne _ ?_
      simpa [TextKey.name_inj] using heq
  · funext n k
    unfold data
    rw [hstore]
    exact Store.value_write_of_ne _ (by simp)
  · funext n k account
    rw [hstore]
    exact Store.mayWrite_write _
  · funext n k account
    rw [hstore]
    exact Store.mayWrite_write _

theorem records_setData {s s' : R.State} {sender : Address} {node : Word} {key : DataKey}
    {value : Bytes} (h : R.call s sender (.setData node key.name value) = some s') :
    R.records s' = (R.records s).setData node key value := by
  have hstore := (R.call_eq_some h).2
  simp only [records, Records.setData, Records.mk.injEq]
  refine ⟨?_, ?_, ?_, ?_⟩
  · funext n k
    unfold text
    rw [hstore]
    exact Store.value_write_of_ne _ (by simp)
  · funext n k
    unfold data
    rw [hstore]
    by_cases heq : n = node ∧ k = key
    · rw [if_pos heq, heq.1, heq.2]
      exact Store.value_write_self _
    · rw [if_neg heq]
      refine Store.value_write_of_ne _ ?_
      simpa [DataKey.name_inj] using heq
  · funext n k account
    rw [hstore]
    exact Store.mayWrite_write _
  · funext n k account
    rw [hstore]
    exact Store.mayWrite_write _

/-- The resolver that `WatchdogRevoker` is deployed on. -/
def toResolver (R : PermissionedResolver) (hpermits : R.Permits) : Resolver where
  State := R.State
  records := R.records
  setText s sender node key value := R.call s sender (.setText node key.name value)
  setData s sender node key value := R.call s sender (.setData node key.name value)
  records_setText s sender node key value := by
    split
    · next hmay =>
      obtain ⟨s', hcall⟩ := hpermits s sender (.setText node key.name value) hmay
      rw [hcall, Option.map_some, records_setText hcall]
    · next hnot =>
      rcases hcall : R.call s sender (.setText node key.name value) with _ | s'
      · rfl
      · exact absurd (R.call_eq_some hcall).1 hnot
  records_setData s sender node key value := by
    split
    · next hmay =>
      obtain ⟨s', hcall⟩ := hpermits s sender (.setData node key.name value) hmay
      rw [hcall, Option.map_some, records_setData hcall]
    · next hnot =>
      rcases hcall : R.call s sender (.setData node key.name value) with _ | s'
      · rfl
      · exact absurd (R.call_eq_some hcall).1 hnot

end PermissionedResolver

/-- An implementation that does what its roles allow. -/
def storeResolver (nodeOf : Bytes → Word) : PermissionedResolver where
  State := ResolverStore
  store := id
  nodeOf := nodeOf
  call t sender c :=
    if t.allows sender (c.access nodeOf) then some (t.apply (c.access nodeOf)) else none
  call_eq_some h := by
    obtain ⟨hallows, heq⟩ := Option.ite_none_right_eq_some.mp h
    exact ⟨hallows, (Option.some.inj heq).symm⟩

theorem permits_storeResolver (nodeOf : Bytes → Word) : (storeResolver nodeOf).Permits := by
  intro t sender c hallows
  exact ⟨t.apply (c.access nodeOf), if_pos hallows⟩

end DVoD.Ens
