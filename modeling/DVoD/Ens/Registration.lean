import DVoD.Ens.Resolver
import DVoD.Session.Tier
import DVoD.Text.Stringify

/-!
# Registration of an operator

`dns-name.ts` and `buildRegisterOperatorCalls`: the calls that register an operator, the
records they write and the roles they grant.
-/

namespace DVoD.Ens

open DVoD.Evm DVoD.Session DVoD.Text

/-! ### `dns-name.ts` -/

def encodeLabel (name : String) (label : List Char) : Except String Bytes :=
  let labelBytes := Utf8.encode label
  if labelBytes.length = 0 ∨ labelBytes.length > 63 then
    .error ("invalid DNS label length for \"" ++ String.ofList label ++ "\" in \"" ++ name ++ "\"")
  else .ok (UInt8.ofNat labelBytes.length :: labelBytes)

def encodeDnsName (name : String) : Except String Bytes := do
  let labels ← ((name.toList.splitOn '.').filter (· ≠ [])).mapM (encodeLabel name)
  .ok (labels.flatten ++ [0])

/-- A name whose labels are all non-empty. -/
def NoEmptyLabels (name : String) : Prop := ∀ label ∈ name.toList.splitOn '.', label ≠ []

/-! ### `buildRegisterOperatorCalls` -/

structure RegisterOperatorParams where
  name : String
  ownerAddress : Address
  operationalKeyAddress : Address
  payoutAddress : Address
  endpoint : String
  tiersSupported : List Tier
  attestationBuildHash : Bytes
  watchdogAddress : Address
  expiry : ℕ

inductive ContractFunction where
  | register (label : String) (owner registry resolver : Address) (roleBitmap expiry : ℕ)
  | setText (node : Word) (key : TextKey) (value : String)
  | setData (node : Word) (key : DataKey) (value : Bytes)
  | authorizeTextRoles (toName : Bytes) (key : TextKey) (account : Address) (grant : Bool)
  | authorizeDataRoles (toName : Bytes) (key : DataKey) (account : Address) (grant : Bool)

structure ContractCall where
  address : Address
  function : ContractFunction

/-- `JSON.stringify` of a list of tiers. -/
def stringifyTiers (tiers : List Tier) : String :=
  String.ofList ('[' :: [','].intercalate (tiers.map fun tier => quote tier.name) ++ [']'])

def operatorCalls (registryAddress resolverAddress : Address) (params : RegisterOperatorParams)
    (node : Word) (toName : Bytes) : List ContractCall :=
  [⟨registryAddress, .register (String.ofList (split '.' params.name.toList).1)
      params.ownerAddress 0 resolverAddress 0 params.expiry⟩,
    ⟨resolverAddress, .setText node .endpoint params.endpoint⟩,
    ⟨resolverAddress, .setText node .tiersSupported (stringifyTiers params.tiersSupported)⟩,
    ⟨resolverAddress, .setData node .attestationBuildHash params.attestationBuildHash⟩,
    ⟨resolverAddress, .setData node .payoutAddress (addressWord params.payoutAddress).toBytes⟩,
    ⟨resolverAddress, .setData node .status statusActive⟩,
    ⟨resolverAddress, .authorizeTextRoles toName .endpoint params.operationalKeyAddress true⟩,
    ⟨resolverAddress, .authorizeTextRoles toName .tiersSupported params.operationalKeyAddress true⟩,
    ⟨resolverAddress, .authorizeDataRoles toName .attestationBuildHash params.operationalKeyAddress true⟩,
    -- no role for the payout address or the status for the operational key
    ⟨resolverAddress, .authorizeDataRoles toName .status params.watchdogAddress true⟩]

def buildRegisterOperatorCalls (namehash : String → Word) (registryAddress resolverAddress : Address)
    (params : RegisterOperatorParams) : Except String (List ContractCall) :=
  if (split '.' params.name.toList).1 = [] then
    .error ("cannot derive a label from operator name \"" ++ params.name ++ "\"")
  else do
    let toName ← encodeDnsName params.name
    .ok (operatorCalls registryAddress resolverAddress params (namehash params.name) toName)

/-! ### What the calls grant -/

def GrantsText (calls : List ContractCall) (key : TextKey) (account : Address) : Prop :=
  ∃ call ∈ calls, ∃ toName, call.function = .authorizeTextRoles toName key account true

def GrantsData (calls : List ContractCall) (key : DataKey) (account : Address) : Prop :=
  ∃ call ∈ calls, ∃ toName, call.function = .authorizeDataRoles toName key account true

section Grants

variable {namehash : String → Word} {registryAddress resolverAddress : Address}
  {params : RegisterOperatorParams} {calls : List ContractCall}

theorem exists_toName
    (h : buildRegisterOperatorCalls namehash registryAddress resolverAddress params = .ok calls) :
    ∃ toName, encodeDnsName params.name = .ok toName ∧ calls =
      operatorCalls registryAddress resolverAddress params (namehash params.name) toName := by
  unfold buildRegisterOperatorCalls at h
  split at h
  · cases h
  · rcases hname : encodeDnsName params.name with error | toName
    · rw [hname] at h
      cases h
    · rw [hname] at h
      exact ⟨toName, rfl, (Except.ok.inj h).symm⟩

theorem buildRegisterOperatorCalls_eq_ok
    (h : buildRegisterOperatorCalls namehash registryAddress resolverAddress params = .ok calls) :
    ∃ toName, calls =
      operatorCalls registryAddress resolverAddress params (namehash params.name) toName := by
  obtain ⟨toName, -, hcalls⟩ := exists_toName h
  exact ⟨toName, hcalls⟩

theorem grantsText_iff
    (h : buildRegisterOperatorCalls namehash registryAddress resolverAddress params = .ok calls)
    {key : TextKey} {account : Address} :
    GrantsText calls key account ↔ account = params.operationalKeyAddress := by
  obtain ⟨toName, rfl⟩ := buildRegisterOperatorCalls_eq_ok h
  cases key <;> simp [GrantsText, operatorCalls, eq_comm]

/-- The operational key is granted the attestation hash only, and the watchdog the status. -/
theorem grantsData_iff
    (h : buildRegisterOperatorCalls namehash registryAddress resolverAddress params = .ok calls)
    {key : DataKey} {account : Address} :
    GrantsData calls key account ↔
      (key = .attestationBuildHash ∧ account = params.operationalKeyAddress) ∨
        (key = .status ∧ account = params.watchdogAddress) := by
  obtain ⟨toName, rfl⟩ := buildRegisterOperatorCalls_eq_ok h
  cases key <;> simp [GrantsData, operatorCalls, eq_comm]

end Grants

/-- The roles of a registered node: the operational key holds exactly what the calls grant
    it, and the watchdog may write the status. -/
structure Registered (namehash : String → Word) (params : RegisterOperatorParams) (t : Records) :
    Prop where
  operationalKey : ∃ registryAddress resolverAddress calls,
    buildRegisterOperatorCalls namehash registryAddress resolverAddress params = .ok calls ∧
      (∀ key, t.maySetText (namehash params.name) key params.operationalKeyAddress = true ↔
        GrantsText calls key params.operationalKeyAddress) ∧
      ∀ key, t.maySetData (namehash params.name) key params.operationalKeyAddress = true ↔
        GrantsData calls key params.operationalKeyAddress
  watchdog : t.maySetData (namehash params.name) .status params.watchdogAddress = true

section Registered

variable {namehash : String → Word} {params : RegisterOperatorParams} {t t' : Records}

theorem Registered.congr (h : Registered namehash params t)
    (hroles : t.SameRoles (namehash params.name) t') : Registered namehash params t' := by
  obtain ⟨⟨registryAddress, resolverAddress, calls, hcalls, htext, hdata⟩, hwatchdog⟩ := h
  refine ⟨⟨registryAddress, resolverAddress, calls, hcalls, ?_, ?_⟩, ?_⟩
  · intro key
    rw [hroles.text]
    exact htext key
  · intro key
    rw [hroles.data]
    exact hdata key
  · rw [hroles.data]
    exact hwatchdog

theorem Registered.maySetAttestation (h : Registered namehash params t) :
    t.maySetData (namehash params.name) .attestationBuildHash params.operationalKeyAddress = true := by
  obtain ⟨registryAddress, resolverAddress, calls, hcalls, -, hdata⟩ := h.operationalKey
  exact (hdata _).mpr ((grantsData_iff hcalls).mpr (Or.inl ⟨rfl, rfl⟩))

end Registered

end DVoD.Ens
