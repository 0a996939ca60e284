import DVoD.Ens.Registration
import Mathlib.Logic.Relation

/-!
# WatchdogRevoker

The contract that may write the status of every operator.  Anyone may submit a check;
`attestation_check_revokes_iff` says when a report that does not match what the operator
publishes does revoke the operator.
-/

namespace DVoD.Ens

open DVoD.Evm DVoD.Text

/-! ### The contract -/

/-- A deployed `WatchdogRevoker`: its own address, and `ADMIN`. -/
structure WatchdogRevoker where
  address : Address
  admin : Address

inductive RevokerLog where
  | revoked (node : Word) (submittedBy : Address) (reason : String)
  | adminRevoked (node : Word) (admin : Address)

inductive Revert where
  | abiDecode
  | notAdmin (caller : Address)
  | misbehaviorProofNotImplemented
  | resolver

structure Returned (R : Resolver) where
  revoked : Bool
  logs : List RevokerLog
  state : R.State

/-- `abi.decode(data, (bytes32))`, which ignores what follows the first 32 bytes. -/
def decodeBytes32 (data : Bytes) : Except Revert Word :=
  if data.length < 32 then .error .abiDecode else .ok (Word.ofBytes data)

namespace WatchdogRevoker

variable {R : Resolver} (keccak256 : Bytes → Word) (w : WatchdogRevoker)

def revoke (s : R.State) (sender : Address) (node : Word) (reason : String) :
    Except Revert (Returned R) :=
  if keccak256 (R.data s node .status) = keccak256 statusRevoked then .ok ⟨false, [], s⟩
  else
    match R.setData s w.address node .status statusRevoked with
    | none => .error .resolver
    | some s' => .ok ⟨true, [.revoked node sender reason], s'⟩

def submitAttestationCheck (s : R.State) (sender : Address) (node : Word) (attestationReport : Bytes) :
    Except Revert (Returned R) := do
  let publishedHash ← decodeBytes32 (R.data s node .attestationBuildHash)
  if keccak256 attestationReport = publishedHash then .ok ⟨false, [], s⟩
  else w.revoke keccak256 s sender node "attestation_mismatch"

def submitMisbehaviorProof : Except Revert (Returned R) := .error .misbehaviorProofNotImplemented

def adminRevoke (s : R.State) (sender : Address) (node : Word) : Except Revert (Returned R) :=
  if sender ≠ w.admin then .error (.notAdmin sender)
  else do
    let returned ← w.revoke keccak256 s sender node "admin_manual_revoke"
    .ok { returned with
      logs := returned.logs ++ if returned.revoked then [.adminRevoked node sender] else [] }

section Calls

variable {keccak256 w} {s : R.State} {sender : Address} {node : Word} {reason : String}
  {report : Bytes} {returned : Returned R}

theorem revoke_of_revoked (h : keccak256 (R.data s node .status) = keccak256 statusRevoked) :
    w.revoke keccak256 s sender node reason = .ok ⟨false, [], s⟩ :=
  if_pos h

theorem revoke_of_not_revoked (h : keccak256 (R.data s node .status) ≠ keccak256 statusRevoked)
    {s' : R.State} (hset : R.setData s w.address node .status statusRevoked = some s') :
    w.revoke keccak256 s sender node reason = .ok ⟨true, [.revoked node sender reason], s'⟩ := by
  rw [revoke, if_neg h, hset]

/-- A call of `_revoke` that returns has either found the node revoked, or revoked it. -/
theorem revoke_eq_ok (h : w.revoke keccak256 s sender node reason = .ok returned) :
    (keccak256 (R.data s node .status) = keccak256 statusRevoked ∧ returned.state = s) ∨
      (keccak256 (R.data s node .status) ≠ keccak256 statusRevoked ∧
        R.setData s w.address node .status statusRevoked = some returned.state) := by
  unfold revoke at h
  split at h
  · next hrevoked =>
    obtain rfl := Except.ok.inj h
    exact Or.inl ⟨hrevoked, rfl⟩
  · next hnot =>
    split at h
    · cases h
    · next s' hset =>
      obtain rfl := Except.ok.inj h
      exact Or.inr ⟨hnot, hset⟩

/-- A call of `_revoke` reverts, or finds the node revoked, or revokes it and logs that. -/
theorem revoke_cases (keccak256 : Bytes → Word) (s : R.State) (sender : Address) (node : Word)
    (reason : String) :
    (∃ error, w.revoke keccak256 s sender node reason = .error error) ∨
      w.revoke keccak256 s sender node reason = .ok ⟨false, [], s⟩ ∨
        ∃ s', R.setData s w.address node .status statusRevoked = some s' ∧
          w.revoke keccak256 s sender node reason = .ok ⟨true, [.revoked node sender reason], s'⟩ := by
  by_cases hrevoked : keccak256 (R.data s node .status) = keccak256 statusRevoked
  · exact Or.inr (Or.inl (revoke_of_revoked hrevoked))
  rcases hset : R.setData s w.address node .status statusRevoked with _ | s'
  · refine Or.inl ⟨.resolver, ?_⟩
    rw [revoke, if_neg hrevoked, hset]
  · exact Or.inr (Or.inr ⟨s', rfl, revoke_of_not_revoked hrevoked hset⟩)

theorem exists_revoke (hmay : (R.records s).maySetData node .status w.address = true)
    (keccak256 : Bytes → Word) (sender : Address) (reason : String) :
    ∃ returned, w.revoke keccak256 s sender node reason = .ok returned := by
  obtain ⟨s', hset, -⟩ := Resolver.exists_setData hmay statusRevoked
  unfold revoke
  split
  · exact ⟨_, rfl⟩
  · rw [hset]
    exact ⟨_, rfl⟩

theorem status_of_revoke (h : w.revoke keccak256 s sender node reason = .ok returned) :
    R.data returned.state node .status = statusRevoked ↔
      R.data s node .status = statusRevoked ∨
        keccak256 (R.data s node .status) ≠ keccak256 statusRevoked := by
  rcases revoke_eq_ok h with ⟨hrevoked, hstate⟩ | ⟨hnot, hset⟩
  · rw [hstate, or_iff_left (not_not.mpr hrevoked)]
  · refine iff_of_true ?_ (Or.inr hnot)
    rw [Resolver.data, (Resolver.setData_eq_some hset).2, Records.data_setData_self]

theorem submitAttestationCheck_of_short
    (h : (R.data s node .attestationBuildHash).length < 32) :
    w.submitAttestationCheck keccak256 s sender node report = .error .abiDecode := by
  simp only [submitAttestationCheck, decodeBytes32, if_pos h]
  rfl

theorem submitAttestationCheck_of_long
    (h : 32 ≤ (R.data s node .attestationBuildHash).length) :
    w.submitAttestationCheck keccak256 s sender node report =
      if keccak256 report = Word.ofBytes (R.data s node .attestationBuildHash) then
        .ok ⟨false, [], s⟩
      else w.revoke keccak256 s sender node "attestation_mismatch" := by
  simp only [submitAttestationCheck, decodeBytes32, if_neg (not_lt.mpr h)]
  rfl

theorem submitAttestationCheck_eq_ok
    (h : w.submitAttestationCheck keccak256 s sender node report = .ok returned) :
    returned.state = s ∨ w.revoke keccak256 s sender node "attestation_mismatch" = .ok returned := by
  rcases Nat.lt_or_ge (R.data s node .attestationBuildHash).length 32 with hshort | hlong
  · rw [submitAttestationCheck_of_short hshort] at h
    cases h
  · rw [submitAttestationCheck_of_long hlong] at h
    split at h
    · exact Or.inl (congrArg Returned.state (Except.ok.inj h)).symm
    · exact Or.inr h

theorem submitAttestationCheck_cases (keccak256 : Bytes → Word) (s : R.State) (sender : Address)
    (node : Word) (report : Bytes) :
    (∃ error, w.submitAttestationCheck keccak256 s sender node report = .error error) ∨
      w.submitAttestationCheck keccak256 s sender node report = .ok ⟨false, [], s⟩ ∨
        ∃ s', R.setData s w.address node .status statusRevoked = some s' ∧
          w.submitAttestationCheck keccak256 s sender node report =
            .ok ⟨true, [.revoked node sender "attestation_mismatch"], s'⟩ := by
  rcases Nat.lt_or_ge (R.data s node .attestationBuildHash).length 32 with hshort | hlong
  · exact Or.inl ⟨_, submitAttestationCheck_of_short hshort⟩
  rw [submitAttestationCheck_of_long hlong]
  by_cases hmatches : keccak256 report = Word.ofBytes (R.data s node .attestationBuildHash)
  · exact Or.inr (Or.inl (if_pos hmatches))
  · rw [if_neg hmatches]
    exact revoke_cases keccak256 s sender node "attestation_mismatch"

theorem adminRevoke_of_error (hsender : sender = w.admin) {error : Revert}
    (h : w.revoke keccak256 s sender node "admin_manual_revoke" = .error error) :
    w.adminRevoke keccak256 s sender node = .error error := by
  unfold adminRevoke
  rw [if_neg (not_not.mpr hsender), h]
  rfl

/-- What the admin's call returns, where `_revoke` returns. -/
theorem adminRevoke_of_revoke (hsender : sender = w.admin)
    (h : w.revoke keccak256 s sender node "admin_manual_revoke" = .ok returned) :
    w.adminRevoke keccak256 s sender node = .ok { returned with
      logs := returned.logs ++ if returned.revoked then [.adminRevoked node sender] else [] } := by
  unfold adminRevoke
  rw [if_neg (not_not.mpr hsender), h]
  rfl

theorem adminRevoke_eq_ok (h : w.adminRevoke keccak256 s sender node = .ok returned) :
    sender = w.admin ∧ ∃ returned',
      w.revoke keccak256 s sender node "admin_manual_revoke" = .ok returned' ∧
        returned.state = returned'.state := by
  unfold adminRevoke at h
  split at h
  · cases h
  · next hsender =>
    rcases hrevoke : w.revoke keccak256 s sender node "admin_manual_revoke" with error | returned'
    · rw [hrevoke] at h
      cases h
    · rw [hrevoke] at h
      exact ⟨not_not.mp hsender, returned', rfl, (congrArg Returned.state (Except.ok.inj h)).symm⟩

end Calls

end WatchdogRevoker

/-! ### Histories -/

/-- One transaction: a write by anyone, a call of the watchdog by anyone, or anything else
    that leaves the roles of the node alone. -/
inductive Step (R : Resolver) (keccak256 : Bytes → Word) (w : WatchdogRevoker) (node : Word) :
    R.State → R.State → Prop
  | setText {s s' sender n key value} : R.setText s sender n key value = some s' →
      Step R keccak256 w node s s'
  | setData {s s' sender n key value} : R.setData s sender n key value = some s' →
      Step R keccak256 w node s s'
  | submitAttestationCheck {s sender n report returned} :
      w.submitAttestationCheck keccak256 s sender n report = .ok returned →
      Step R keccak256 w node s returned.state
  | adminRevoke {s sender n returned} : w.adminRevoke keccak256 s sender n = .ok returned →
      Step R keccak256 w node s returned.state
  | elsewhere {s s'} : (R.records s).SameRoles node (R.records s') → Step R keccak256 w node s s'

abbrev History (R : Resolver) (keccak256 : Bytes → Word) (w : WatchdogRevoker) (node : Word) :
    R.State → R.State → Prop :=
  Relation.ReflTransGen (Step R keccak256 w node)

section Runs

variable {R : Resolver} {keccak256 : Bytes → Word} {w : WatchdogRevoker} {node : Word}
  {s s' : R.State}

theorem sameRoles_revoke {sender : Address} {n : Word} {reason : String} {returned : Returned R}
    (h : w.revoke keccak256 s sender n reason = .ok returned) :
    (R.records s).SameRoles node (R.records returned.state) := by
  rcases WatchdogRevoker.revoke_eq_ok h with ⟨-, hstate⟩ | ⟨-, hset⟩
  · rw [hstate]
    exact .refl ..
  · exact Resolver.sameRoles_setData hset

theorem Step.sameRoles (h : Step R keccak256 w node s s') :
    (R.records s).SameRoles node (R.records s') := by
  cases h with
  | setText h => exact Resolver.sameRoles_setText h
  | setData h => exact Resolver.sameRoles_setData h
  | submitAttestationCheck h =>
    rcases WatchdogRevoker.submitAttestationCheck_eq_ok h with hstate | hrevoke
    · rw [hstate]
      exact .refl ..
    · exact sameRoles_revoke hrevoke
  | adminRevoke h =>
    obtain ⟨-, returned', hrevoke, hstate⟩ := WatchdogRevoker.adminRevoke_eq_ok h
    rw [hstate]
    exact sameRoles_revoke hrevoke
  | elsewhere h => exact h

theorem History.sameRoles (h : History R keccak256 w node s s') :
    (R.records s).SameRoles node (R.records s') := by
  induction h with
  | refl => exact .refl ..
  | tail _ hstep ih => exact ih.trans hstep.sameRoles

end Runs

section Check

variable {R : Resolver} {keccak256 : Bytes → Word} {namehash : String → Word}
  {params : RegisterOperatorParams} {admin : Address} {s₀ s : R.State}

/-- The check does not revert, and leaves the status of the node "revoked". -/
def Revokes (R : Resolver) (keccak256 : Bytes → Word) (w : WatchdogRevoker) (s : R.State)
    (sender : Address) (node : Word) (report : Bytes) : Prop :=
  ∃ returned, w.submitAttestationCheck keccak256 s sender node report = .ok returned ∧
    R.data returned.state node .status = statusRevoked

theorem revokes_of_long {w : WatchdogRevoker} {sender : Address} {node : Word} {report : Bytes}
    (hmay : (R.records s).maySetData node .status w.address = true)
    (hlong : 32 ≤ (R.data s node .attestationBuildHash).length) :
    Revokes R keccak256 w s sender node report ↔ R.data s node .status = statusRevoked ∨
      (keccak256 report ≠ Word.ofBytes (R.data s node .attestationBuildHash) ∧
        keccak256 (R.data s node .status) ≠ keccak256 statusRevoked) := by
  rw [Revokes, WatchdogRevoker.submitAttestationCheck_of_long hlong]
  split
  · next hmatches => simp [hmatches]
  · next hmismatch =>
    obtain ⟨returned, hrevoke⟩ :=
      WatchdogRevoker.exists_revoke hmay keccak256 sender "attestation_mismatch"
    rw [hrevoke, and_iff_right hmismatch, ← WatchdogRevoker.status_of_revoke hrevoke]
    constructor
    · rintro ⟨_, h, hstatus⟩
      rwa [← Except.ok.inj h] at hstatus
    · intro hstatus
      exact ⟨returned, rfl, hstatus⟩

/-- **Revocation by attestation.**  After any history of a registered node, a check of a
    report whose hash is not the one published revokes the node exactly where the record
    has the 32 bytes that `abi.decode` needs, and either the node is revoked already, or
    the contract sees the mismatch and sees a status other than "revoked". -/
theorem attestation_check_revokes_iff (hreg : Registered namehash params (R.records s₀))
    (hrun : History R keccak256 ⟨params.watchdogAddress, admin⟩ (namehash params.name) s₀ s)
    (sender : Address) (report : Bytes)
    (hmismatch : R.data s (namehash params.name) .attestationBuildHash ≠ (keccak256 report).toBytes) :
    Revokes R keccak256 ⟨params.watchdogAddress, admin⟩ s sender (namehash params.name) report ↔
      32 ≤ (R.data s (namehash params.name) .attestationBuildHash).length ∧
        (R.data s (namehash params.name) .status = statusRevoked ∨
          (((R.data s (namehash params.name) .attestationBuildHash).length = 32 ∨
              keccak256 report ≠ Word.ofBytes (R.data s (namehash params.name) .attestationBuildHash)) ∧
            keccak256 (R.data s (namehash params.name) .status) ≠ keccak256 statusRevoked)) := by
  have hmay := (hreg.congr hrun.sameRoles).watchdog
  generalize namehash params.name = node at hmay hmismatch ⊢
  rcases Nat.lt_or_ge (R.data s node .attestationBuildHash).length 32 with hshort | hlong
  · refine iff_of_false ?_ fun h => absurd h.1 (not_le.mpr hshort)
    rintro ⟨returned, h, -⟩
    rw [WatchdogRevoker.submitAttestationCheck_of_short hshort] at h
    cases h
  · have hseen : (R.data s node .attestationBuildHash).length = 32 →
        keccak256 report ≠ Word.ofBytes (R.data s node .attestationBuildHash) := by
      intro hlength heq
      exact hmismatch ((Word.toBytes_ofBytes hlength).symm.trans (congrArg Word.toBytes heq.symm))
    rw [revokes_of_long hmay hlong, and_iff_right hlong, or_iff_right_of_imp hseen]

/-- The operational key can at any time publish a record that makes every check revert. -/
theorem exists_block {w : WatchdogRevoker} (hreg : Registered namehash params (R.records s₀))
    (hrun : History R keccak256 w (namehash params.name) s₀ s) :
    ∃ s', R.setData s params.operationalKeyAddress (namehash params.name) .attestationBuildHash [] =
        some s' ∧ ∀ sender report, w.submitAttestationCheck keccak256 s' sender
          (namehash params.name) report = .error .abiDecode := by
  obtain ⟨s', hset, hrecords⟩ :=
    Resolver.exists_setData (hreg.congr hrun.sameRoles).maySetAttestation []
  refine ⟨s', hset, fun sender report => WatchdogRevoker.submitAttestationCheck_of_short ?_⟩
  rw [Resolver.data, hrecords, Records.data_setData_self]
  decide

end Check

/-! ### A history -/

namespace Sample

/-- keccak256 of the byte strings below. -/
def keccak256 (bytes : Bytes) : Word :=
  if bytes = statusActive then 0x9651c33eb23976f7c15240e86443dc2ded40546fa9ba457a14abab4090e023b5
  else if bytes = statusRevoked then
    0x6cf36f3b8f3374e96fa8dd3b7acc9c1218e7a60ae928f4762a25894f0e81999b
  else if bytes = Utf8.encode "tampered".toList then
    0x249fb5e050abfd2f54c2d34ceebb90b3de5719c565a212b88cafcaf807bdd1b7
  else 0

def namehash (name : String) : Word :=
  if name = "bob.dvod-test.eth" then
    0x6ae42ffccc275cd1d6fc09d379960a2452c614c8f31c574fe0051f1c604b3628
  else 0

def bob : RegisterOperatorParams where
  name := "bob.dvod-test.eth"
  ownerAddress := 1
  operationalKeyAddress := 2
  payoutAddress := 3
  endpoint := "https://bob.example"
  tiersSupported := [.lite]
  attestationBuildHash :=
    Word.toBytes 0x54e57b9695905d21a91c2093e09ec6fc3c6e4200b3857e26d3428fd5ca5a31f4
  watchdogAddress := 4
  expiry := 1893456000

/-- The resolver after the calls for bob. -/
def registered : Records where
  text node key :=
    if node = namehash bob.name then
      match key with
      | .endpoint => bob.endpoint
      | .tiersSupported => stringifyTiers bob.tiersSupported
    else ""
  data node key :=
    if node = namehash bob.name then
      match key with
      | .attestationBuildHash => bob.attestationBuildHash
      | .payoutAddress => (addressWord bob.payoutAddress).toBytes
      | .status => statusActive
    else []
  maySetText node _ account := node = namehash bob.name ∧ account = bob.operationalKeyAddress
  maySetData node key account :=
    node = namehash bob.name ∧
      ((key = .attestationBuildHash ∧ account = bob.operationalKeyAddress) ∨
        (key = .status ∧ account = bob.watchdogAddress))

theorem registered_bob : Registered namehash bob registered where
  operationalKey := by
    have hok : (buildRegisterOperatorCalls namehash 5 6 bob).toOption.isSome = true := by
      decide +kernel
    rcases hcalls : buildRegisterOperatorCalls namehash 5 6 bob with error | calls
    · rw [hcalls] at hok
      cases hok
    refine ⟨5, 6, calls, hcalls, ?_, ?_⟩
    · intro key
      rw [grantsText_iff hcalls]
      simp [registered]
    · intro key
      rw [grantsData_iff hcalls]
      simp [registered]
  watchdog := by simp [registered]

def revoker : WatchdogRevoker := ⟨bob.watchdogAddress, 7⟩

def tampered : Bytes := Utf8.encode "tampered".toList

end Sample

section Sample

open Sample

theorem attestation_check_revokes_iff_tampered :
    Revokes Records.resolver keccak256 revoker registered 8 (namehash bob.name) tampered :=
  (attestation_check_revokes_iff registered_bob .refl 8 tampered (by decide +kernel)).mpr
    ⟨by decide +kernel, Or.inr ⟨Or.inl (by decide +kernel), by decide +kernel⟩⟩

/-- The operational key publishes an empty record, and a check of a tampered report reverts. -/
theorem attestation_check_blocked : ∃ s,
    Records.resolver.setData registered bob.operationalKeyAddress (namehash bob.name)
      .attestationBuildHash [] = some s ∧
    History Records.resolver keccak256 revoker (namehash bob.name) registered s ∧
    Records.resolver.data s (namehash bob.name) .attestationBuildHash ≠ (keccak256 tampered).toBytes ∧
    revoker.submitAttestationCheck keccak256 s 8 (namehash bob.name) tampered = .error .abiDecode ∧
    ¬ Revokes Records.resolver keccak256 revoker s 8 (namehash bob.name) tampered := by
  obtain ⟨s, hset, hblock⟩ := exists_block (R := Records.resolver) (w := revoker) registered_bob .refl
  refine ⟨s, hset, .single (.setData hset), ?_, hblock 8 tampered, ?_⟩
  · rw [Resolver.data, (Resolver.setData_eq_some hset).2, Records.data_setData_self]
    decide +kernel
  · rintro ⟨returned, h, -⟩
    rw [hblock] at h
    cases h

end Sample

end DVoD.Ens
