import DVoD.Ens.PermissionedResolver
import DVoD.Ens.WatchdogRevoker

/-!
# Registrations that stop

A registration is ten transactions, and the script that sends them can stop after any of
them.  `active_revocable_iff` says after which of them a node that reads "active" can be
revoked.
-/

namespace DVoD.Ens

open DVoD.Access DVoD.Evm PermissionedResolver

section Registration

variable {R : PermissionedResolver} {namehash : String → Word} {keccak256 : Bytes → Word}
  {registryAddress resolverAddress admin : Address} {params : RegisterOperatorParams}
  {calls done : List ContractCall} {s s₀ : R.State} {node : Word} {toName : Bytes}

/-! ### How far the calls have come -/

section Phases

variable (registryAddress resolverAddress params node toName)

/-- The calls before the status is written. -/
def callsBeforeStatus : List ContractCall :=
  (operatorCalls registryAddress resolverAddress params node toName).take 5

/-- The calls up to the grant for the watchdog. -/
def callsBeforeGrant : List ContractCall :=
  (operatorCalls registryAddress resolverAddress params node toName).take 9

variable {registryAddress resolverAddress params node toName}

/-- A part of the calls ends before the status is written, or between that and the grant
    for the watchdog, or with it. -/
theorem prefix_cases (h : done <+: operatorCalls registryAddress resolverAddress params node toName) :
    done <+: callsBeforeStatus registryAddress resolverAddress params node toName ∨
    (5 < done.length ∧ done <+: callsBeforeGrant registryAddress resolverAddress params node toName) ∨
    done = operatorCalls registryAddress resolverAddress params node toName := by
  have hlength : (operatorCalls registryAddress resolverAddress params node toName).length = 10 := rfl
  have heq := List.prefix_iff_eq_take.mp h
  rcases Nat.lt_or_ge 9 done.length with hall | hshort
  · refine Or.inr (Or.inr ?_)
    rw [heq, List.take_of_length_le (by omega)]
  · rcases Nat.lt_or_ge 5 done.length with hlong | hshort'
    · refine Or.inr (Or.inl ⟨hlong, ?_⟩)
      rw [heq, callsBeforeGrant]
      exact List.take_prefix_take_left hshort
    · refine Or.inl ?_
      rw [heq, callsBeforeStatus]
      exact List.take_prefix_take_left hshort'

end Phases

section Executed

variable (hexec : R.executeAll admin s₀ done = some s)
  (hdone : done <+: operatorCalls registryAddress resolverAddress params node toName)

theorem accesses_subset {calls : List ContractCall} (h : done <+: calls) {nodeOf : Bytes → Word} :
    accesses nodeOf done ⊆ accesses nodeOf calls :=
  (h.filterMap _).subset

include hdone

theorem granted_iff : .authorize (.data node DataKey.status.name) params.watchdogAddress true ∈
      accesses R.nodeOf done ↔
    done = operatorCalls registryAddress resolverAddress params node toName ∧ R.nodeOf toName = node := by
  constructor
  · intro hmem
    rcases prefix_cases hdone with hfirst | ⟨-, hgrants⟩ | rfl
    · have hmem' := accesses_subset hfirst hmem
      simp [accesses, callsBeforeStatus, operatorCalls, ContractFunction.resolverCall,
        ResolverCall.access] at hmem'
    · have hmem' := accesses_subset hgrants hmem
      simp [accesses, callsBeforeGrant, operatorCalls, ContractFunction.resolverCall,
        ResolverCall.access, DataKey.name_inj] at hmem'
    · refine ⟨rfl, ?_⟩
      simp [accesses, operatorCalls, ContractFunction.resolverCall, ResolverCall.access,
        DataKey.name_inj] at hmem
      exact hmem.symm
  · rintro ⟨rfl, hgranted⟩
    rw [accesses_operatorCalls, hgranted]
    simp [registrationAccesses]

include hexec

/-- Only the last call gives the watchdog its role. -/
theorem mayWrite_status_iff :
    (R.store s).mayWrite (.data node DataKey.status.name) params.watchdogAddress = true ↔
      (R.store s₀).mayWrite (.data node DataKey.status.name) params.watchdogAddress = true ∨
        (done = operatorCalls registryAddress resolverAddress params node toName ∧
          R.nodeOf toName = node) := by
  rw [store_executeAll hexec, ← granted_iff hdone]
  apply Store.mayWrite_applyAll_iff
  intro hmem
  have hall := accesses_subset hdone hmem
  rw [accesses_operatorCalls] at hall
  simp [registrationAccesses] at hall

omit hdone in
/-- What a record holds after a part of the calls, of which only one writes it. -/
theorem value_of_prefix (first : List ContractCall) {rest : List ContractCall} {call : ContractCall}
    {r : Record} {v : r.Value}
    (hdone : done <+: first ++ call :: rest)
    (hwrite : accesses R.nodeOf [call] = [.write r v])
    (hfirst : ∀ v, .write r v ∉ accesses R.nodeOf first)
    (hrest : ∀ v, .write r v ∉ accesses R.nodeOf rest) :
    (R.store s).value r = if done.length ≤ first.length then (R.store s₀).value r else v := by
  rw [store_executeAll hexec]
  by_cases hshort : done.length ≤ first.length
  · rw [if_pos hshort]
    apply Store.value_applyAll
    intro v' hmem
    have hprefix := List.prefix_of_prefix_length_le hdone (List.prefix_append first _) hshort
    exact hfirst v' (accesses_subset hprefix hmem)
  · rw [if_neg hshort]
    have hthrough : first ++ [call] <+: first ++ call :: rest := ⟨rest, by simp⟩
    obtain ⟨done', rfl⟩ := List.prefix_of_prefix_length_le hthrough hdone (by simp; omega)
    have hsplit : accesses R.nodeOf (first ++ [call] ++ done') =
        accesses R.nodeOf first ++ .write r v :: accesses R.nodeOf done' := by
      have happend (l l' : List ContractCall) :
          accesses R.nodeOf (l ++ l') = accesses R.nodeOf l ++ accesses R.nodeOf l' := List.filterMap_append
      rw [happend, happend, hwrite, List.append_assoc, List.singleton_append]
    rw [hsplit]
    apply Store.value_applyAll_write
    intro v' hmem
    have hprefix : done' <+: rest := by
      rw [List.append_assoc, List.prefix_append_right_inj, List.singleton_append,
        List.cons_prefix_cons] at hdone
      exact hdone.2
    exact hrest v' (accesses_subset hprefix hmem)

/-- The sixth call writes the status. -/
theorem status_eq : R.data s node .status =
    if done.length ≤ 5 then R.data s₀ node .status else statusActive := by
  refine value_of_prefix hexec
    (callsBeforeStatus registryAddress resolverAddress params node toName) hdone rfl ?_ ?_
  · simp [accesses, callsBeforeStatus, operatorCalls, ContractFunction.resolverCall,
      ResolverCall.access, DataKey.name_inj]
  · simp [accesses, ContractFunction.resolverCall, ResolverCall.access]

/-- The fourth call writes the hash. -/
theorem attestationBuildHash_eq : R.data s node .attestationBuildHash =
    if done.length ≤ 3 then R.data s₀ node .attestationBuildHash else params.attestationBuildHash := by
  refine value_of_prefix hexec
    ((operatorCalls registryAddress resolverAddress params node toName).take 3) hdone rfl ?_ ?_
  · simp [accesses, operatorCalls, ContractFunction.resolverCall, ResolverCall.access]
  · simp [accesses, ContractFunction.resolverCall, ResolverCall.access, DataKey.name_inj]

end Executed

/-! ### Revocation -/

/-- The watchdog holds the role for the status of the node, so that its admin can revoke
    the node, and anyone can with a report whose hash is not the published one. -/
structure Revocable (R : PermissionedResolver) (hpermits : R.Permits) (keccak256 : Bytes → Word)
    (w : WatchdogRevoker) (s : R.State) (node : Word) : Prop where
  role : (R.store s).mayWrite (.data node DataKey.status.name) w.address = true
  adminRevoke : ∃ returned, w.adminRevoke (R := R.toResolver hpermits) keccak256 s w.admin node =
    .ok returned ∧ R.data returned.state node .status = statusRevoked
  submitAttestationCheck : ∀ sender report,
    decodeBytes32 (R.data s node .attestationBuildHash) ≠ .ok (keccak256 report) →
    ∃ returned, w.submitAttestationCheck (R := R.toResolver hpermits) keccak256 s sender node report =
      .ok returned ∧ R.data returned.state node .status = statusRevoked

section Revocable

variable {hpermits : R.Permits} {w : WatchdogRevoker}

theorem revocable_of_active (hne : keccak256 statusActive ≠ keccak256 statusRevoked)
    (hmay : (R.store s).mayWrite (.data node DataKey.status.name) w.address = true)
    (hlength : 32 ≤ (R.data s node .attestationBuildHash).length)
    (hactive : R.data s node .status = statusActive) : Revocable R hpermits keccak256 w s node := by
  have hrevoke (sender : Address) (reason : String) :
      ∃ returned, w.revoke (R := R.toResolver hpermits) keccak256 s sender node reason = .ok returned ∧
        R.data returned.state node .status = statusRevoked := by
    obtain ⟨returned, hok⟩ := WatchdogRevoker.exists_revoke (R := R.toResolver hpermits) (w := w) hmay
      keccak256 sender reason
    have hstatus : (R.toResolver hpermits).data s node .status = statusActive := hactive
    refine ⟨returned, hok, (WatchdogRevoker.status_of_revoke hok).mpr (Or.inr ?_)⟩
    rw [hstatus]
    exact hne
  constructor
  · exact hmay
  · obtain ⟨returned, hok, hstatus⟩ := hrevoke w.admin "admin_manual_revoke"
    exact ⟨_, WatchdogRevoker.adminRevoke_of_revoke rfl hok, hstatus⟩
  · intro sender report hmismatch
    obtain ⟨returned, hok, hstatus⟩ := hrevoke sender "attestation_mismatch"
    refine ⟨returned, ?_, hstatus⟩
    have hlength' : 32 ≤ ((R.toResolver hpermits).data s node .attestationBuildHash).length := hlength
    rw [WatchdogRevoker.submitAttestationCheck_of_long hlength', if_neg, hok]
    intro hmatch
    apply hmismatch
    rw [hmatch]
    exact if_neg (not_lt.mpr hlength)

/-- A hash that is too short makes every check revert. -/
theorem Revocable.length_le (h : Revocable R hpermits keccak256 w s node) :
    32 ≤ (R.data s node .attestationBuildHash).length := by
  by_contra hshort
  have hshort' : ((R.toResolver hpermits).data s node .attestationBuildHash).length < 32 :=
    not_le.mp hshort
  have hundecodable : decodeBytes32 (R.data s node .attestationBuildHash) ≠ .ok (keccak256 []) := by
    rw [decodeBytes32, if_pos (not_le.mp hshort)]
    intro heq
    cases heq
  obtain ⟨returned, hcheck, -⟩ := h.submitAttestationCheck 0 [] hundecodable
  rw [WatchdogRevoker.submitAttestationCheck_of_short hshort'] at hcheck
  cases hcheck

/-- The DNS-encoded name is read as its node. -/
def ReadAsNode (R : PermissionedResolver) (namehash : String → Word) (name : String) : Prop :=
  ∃ toName, encodeDnsName name = .ok toName ∧ R.nodeOf toName = namehash name

/-- The hash that the node has after the calls: that of the operator from the fourth call on. -/
def hashAfter (R : PermissionedResolver) (s₀ : R.State) (node : Word) (params : RegisterOperatorParams)
    (done : List ContractCall) : Bytes :=
  if done.length ≤ 3 then R.data s₀ node .attestationBuildHash else params.attestationBuildHash

/-- **When an active node can be revoked**, in the middle of its registration: exactly
    where the status has not been written and did not read "active", or the hash of the node
    has 32 bytes and the watchdog held the role before, or the last call has been made and its
    name is read as the node. -/
theorem active_revocable_iff (hpermits : R.Permits)
    (hne : keccak256 statusActive ≠ keccak256 statusRevoked)
    (hbuild : buildRegisterOperatorCalls namehash registryAddress resolverAddress params = .ok calls)
    (hdone : done <+: calls) (hexec : R.executeAll admin s₀ done = some s) (watchdogAdmin : Address) :
    (R.data s (namehash params.name) .status = statusActive →
      Revocable R hpermits keccak256 ⟨params.watchdogAddress, watchdogAdmin⟩ s (namehash params.name)) ↔
    (done.length ≤ 5 ∧ R.data s₀ (namehash params.name) .status ≠ statusActive) ∨
      (32 ≤ (hashAfter R s₀ (namehash params.name) params done).length ∧
        ((R.store s₀).mayWrite (.data (namehash params.name) DataKey.status.name)
            params.watchdogAddress = true ∨
          (done = calls ∧ ReadAsNode R namehash params.name))) := by
  obtain ⟨toName, hname, rfl⟩ := exists_toName hbuild
  have hread : ReadAsNode R namehash params.name ↔ R.nodeOf toName = namehash params.name := by
    constructor
    · rintro ⟨toName', hname', hread⟩
      obtain rfl := Except.ok.inj (hname.symm.trans hname')
      exact hread
    · intro hread
      exact ⟨toName, hname, hread⟩
  have hrole := mayWrite_status_iff hexec hdone
  have hstatus := status_eq hexec hdone
  have hhash : R.data s (namehash params.name) .attestationBuildHash =
      hashAfter R s₀ (namehash params.name) params done := attestationBuildHash_eq hexec hdone
  rw [hread, ← hhash]
  constructor
  · intro h
    by_cases hinactive : done.length ≤ 5 ∧ R.data s₀ (namehash params.name) .status ≠ statusActive
    · exact Or.inl hinactive
    have hactive : R.data s (namehash params.name) .status = statusActive := by
      rw [hstatus]
      split
      · next hshort => exact not_not.mp fun hnot => hinactive ⟨hshort, hnot⟩
      · rfl
    have hrevocable := h hactive
    exact Or.inr ⟨hrevocable.length_le, hrole.mp hrevocable.role⟩
  · rintro (⟨hshort, hnot⟩ | ⟨hlength, hmay⟩) hactive
    · rw [hstatus, if_pos hshort] at hactive
      exact absurd hactive hnot
    · exact revocable_of_active hne (hrole.mpr hmay) hlength hactive

end Revocable

end Registration

/-! ### A registration -/

namespace Sample

/-- The names of the samples, as they are read from the wire. -/
def readName (toName : Bytes) : Word :=
  if (encodeDnsName bob.name).toOption = some toName then namehash bob.name else 0

/-- A new resolver: account 9 holds all roles on the root. -/
def fresh : ResolverStore where
  value
    | .text .. => ""
    | .data .. => []
  role _ _ := false
  rootRole _ account := account = 9
  mayGrant _ account := account = 9

theorem administers_fresh : Administers 9 fresh := by
  intro r
  exact ⟨rfl, rfl⟩

theorem exists_calls {hash : String → Word} {params : RegisterOperatorParams}
    (hok : (buildRegisterOperatorCalls hash 5 6 params).toOption.isSome = true) :
    ∃ calls, buildRegisterOperatorCalls hash 5 6 params = .ok calls := by
  rcases hcalls : buildRegisterOperatorCalls hash 5 6 params with error | calls
  · rw [hcalls] at hok
    cases hok
  · exact ⟨calls, rfl⟩

theorem exists_calls_bob : ∃ calls, buildRegisterOperatorCalls namehash 5 6 bob = .ok calls :=
  exists_calls (by decide +kernel)

end Sample

open Sample in
/-- The script stops after the sixth call: bob reads "active", and nobody can revoke bob. -/
theorem active_unrevocable : ∃ calls done s,
    buildRegisterOperatorCalls namehash 5 6 bob = .ok calls ∧ done <+: calls ∧
    (storeResolver readName).executeAll 9 fresh done = some s ∧
    (storeResolver readName).data s (namehash bob.name) .status = statusActive ∧
    ¬ Revocable (storeResolver readName) (permits_storeResolver readName) keccak256 revoker s
      (namehash bob.name) := by
  obtain ⟨calls, hbuild⟩ := exists_calls_bob
  obtain ⟨toName, -, rfl⟩ := exists_toName hbuild
  have hdone := List.take_prefix 6 (operatorCalls 5 6 bob (namehash bob.name) toName)
  obtain ⟨s, hexec, -⟩ := exists_executeAll (R := storeResolver readName) (s := fresh)
    (permits_storeResolver readName) administers_fresh
    ((operatorCalls 5 6 bob (namehash bob.name) toName).take 6)
  have hactive := status_eq hexec hdone
  refine ⟨_, _, s, hbuild, hdone, hexec, hactive, ?_⟩
  intro h
  rcases (mayWrite_status_iff hexec hdone).mp h.role with hbefore | ⟨hall, -⟩
  · cases hbefore
  · cases congrArg List.length hall

open Sample in
/-- The registration of bob is complete, and bob can be revoked. -/
theorem active_revocable_iff_complete : ∃ calls s,
    buildRegisterOperatorCalls namehash 5 6 bob = .ok calls ∧
    (storeResolver readName).executeAll 9 fresh calls = some s ∧
    ((storeResolver readName).data s (namehash bob.name) .status = statusActive →
      Revocable (storeResolver readName) (permits_storeResolver readName) keccak256 revoker s
        (namehash bob.name)) := by
  obtain ⟨calls, hbuild⟩ := exists_calls_bob
  obtain ⟨s, hexec, -⟩ := exists_executeAll (R := storeResolver readName) (s := fresh)
    (permits_storeResolver readName) administers_fresh calls
  have hread : ReadAsNode (storeResolver readName) namehash bob.name := by
    obtain ⟨toName, hname, -⟩ := exists_toName hbuild
    refine ⟨toName, hname, ?_⟩
    change readName toName = namehash bob.name
    rw [readName, hname]
    exact if_pos rfl
  refine ⟨calls, s, hbuild, hexec, ?_⟩
  have hlength : 32 ≤ (hashAfter (storeResolver readName) fresh (namehash bob.name) bob calls).length := by
    obtain ⟨toName, -, rfl⟩ := exists_toName hbuild
    exact (Word.length_toBytes _).ge
  exact (active_revocable_iff (permits_storeResolver readName) (by decide +kernel) hbuild
    List.prefix_rfl hexec 7).mpr (Or.inr ⟨hlength, Or.inr ⟨rfl, hread⟩⟩)

end DVoD.Ens
