import DVoD.Ens.AttestationRefresher
import DVoD.Ens.PermissionedResolver
import DVoD.Ens.WatchdogRevoker
import DVoD.Log.Latest

/-!
# Watchdog and refresher on one resolver

`WatchdogRevoker` writes statuses, and `AttestationRefresherReceiver` the hashes that the
watchdog compares reports with.  `does` says once what a transaction to either of them
can do, and `revocations_sound` what that means for every order of transactions.
-/

namespace DVoD.Ens

open DVoD.Access DVoD.Evm DVoD.Log

/-! ### Transactions -/

/-- The two contracts, deployed. -/
structure Contracts where
  watchdog : WatchdogRevoker
  refresher : AttestationRefresherReceiver

inductive Transaction where
  | submitAttestationCheck (node : Word) (attestationReport : Bytes)
  | submitMisbehaviorProof (node : Word) (proof : Bytes)
  | adminRevoke (node : Word)
  | onReport (metadata report : Bytes)

inductive ContractLog where
  | watchdog (log : RevokerLog)
  | attestationRefreshed (node newHash : Word)

/-- The logs of a `Revoked` event of the node. -/
def ContractLog.revokes (node : Word) : ContractLog → Bool
  | .watchdog (.revoked node' _ _) => node' = node
  | _ => false

namespace Contracts

section Run

variable (c : Contracts) (R : PermissionedResolver) (hpermits : R.Permits) (keccak256 : Bytes → Word)

/-- Logs and state after a transaction, or `none` where it reverts. -/
def perform (s : R.State) (sender : Address) : Transaction → Option (List ContractLog × R.State)
  | .submitAttestationCheck node report =>
      (c.watchdog.submitAttestationCheck (R := R.toResolver hpermits) keccak256 s sender node
        report).toOption.map fun returned => (returned.logs.map .watchdog, returned.state)
  | .submitMisbehaviorProof _ _ =>
      (WatchdogRevoker.submitMisbehaviorProof (R := R.toResolver hpermits)).toOption.map fun returned =>
        (returned.logs.map .watchdog, returned.state)
  | .adminRevoke node =>
      (c.watchdog.adminRevoke (R := R.toResolver hpermits) keccak256 s sender node).toOption.map
        fun returned => (returned.logs.map .watchdog, returned.state)
  | .onReport metadata report =>
      (c.refresher.onReport (R := R.toResolver hpermits) s sender metadata report).toOption.map
        fun refreshed => ([.attestationRefreshed refreshed.node refreshed.newHash], refreshed.state)

/-- A transaction that reverts logs nothing and changes nothing. -/
def step (s : R.State) (tx : Address × Transaction) : List ContractLog × R.State :=
  (c.perform R hpermits keccak256 s tx.1 tx.2).getD ([], s)

def run : R.State → List (Address × Transaction) → List ContractLog × R.State
  | s, [] => ([], s)
  | s, tx :: txs =>
      let (logs, s') := c.step R hpermits keccak256 s tx
      let (logs', s'') := run s' txs
      (logs ++ logs', s'')

end Run

/-! ### The hash to compare with -/

/-- Node and hash of a report that the refresher takes from the transaction. -/
def reported (c : Contracts) (tx : Address × Transaction) : Option (Word × Word) :=
  match tx.2 with
  | .onReport metadata report => c.refresher.reported tx.1 metadata report
  | _ => none

def newHash (c : Contracts) (node : Word) (tx : Address × Transaction) : Option Word :=
  ((c.reported tx).filter fun pair => pair.1 = node).map Prod.snd

/-- The hash of the last report for the node, or the initial one. -/
def lastHash (c : Contracts) (initial : Word) (node : Word) (past : List (Address × Transaction)) : Word :=
  (latest (c.newHash node) past).getD initial

/-- The transaction is an `adminRevoke` of the node by the admin, or a check of it with a
    report that does not match. -/
def Triggers (c : Contracts) (keccak256 : Bytes → Word) (lastHash : Word) (tx : Address × Transaction)
    (node : Word) : Prop :=
  tx = (c.watchdog.admin, .adminRevoke node) ∨
    ∃ sender report, tx = (sender, .submitAttestationCheck node report) ∧ keccak256 report ≠ lastHash

/-! ### What a transaction does -/

section Does

variable {R : PermissionedResolver} {hpermits : R.Permits} {keccak256 : Bytes → Word}
  {c : Contracts} {s s' : R.State} {tx : Address × Transaction} {node n hash : Word}
  {logs : List ContractLog}

/-- Before a transaction: each contract may write its record of the node, the attestation
    record holds the hash, and no other status is taken for "revoked" by its hash. -/
structure Ready (c : Contracts) (keccak256 : Bytes → Word) (R : PermissionedResolver) (node hash : Word)
    (s : R.State) : Prop where
  mayRevoke : (R.store s).mayWrite (.data node DataKey.status.name) c.watchdog.address = true
  mayRefresh :
    (R.store s).mayWrite (.data node DataKey.attestationBuildHash.name) c.refresher.address = true
  attestation : R.data s node .attestationBuildHash = hash.toBytes
  status : keccak256 (R.data s node .status) = keccak256 statusRevoked →
    R.data s node .status = statusRevoked

/-- A call of the watchdog about a node: nothing, or one revocation with its events. -/
inductive Watches (c : Contracts) (R : PermissionedResolver) (node : Word) (s : R.State) (sender : Address) :
    List ContractLog × R.State → Prop
  | nothing : Watches c R node s sender ([], s)
  | revokes {reason more s'} :
      R.call s c.watchdog.address (.setData node DataKey.status.name statusRevoked) = some s' →
      (∀ n, ∀ log ∈ more, ContractLog.revokes n log = false) →
      Watches c R node s sender (.watchdog (.revoked node sender reason) :: more, s')

/-- What a transaction does, as far as the node is concerned: nothing, or one revocation with
    its events, or one refreshed record, or one of the two records of another node. -/
inductive Does (c : Contracts) (keccak256 : Bytes → Word) (R : PermissionedResolver) (node hash : Word)
    (s : R.State) (tx : Address × Transaction) : List ContractLog × R.State → Prop
  | nothing : c.newHash node tx = none →
      (c.Triggers keccak256 hash tx node → R.data s node .status = statusRevoked) →
      Does c keccak256 R node hash s tx ([], s)
  | revokes {reason more s'} : c.newHash node tx = none →
      c.Triggers keccak256 hash tx node → R.data s node .status ≠ statusRevoked →
      R.call s c.watchdog.address (.setData node DataKey.status.name statusRevoked) = some s' →
      (∀ log ∈ more, ContractLog.revokes node log = false) →
      Does c keccak256 R node hash s tx (.watchdog (.revoked node tx.1 reason) :: more, s')
  | refreshes {newHash s'} : c.reported tx = some (node, newHash) → ¬ c.Triggers keccak256 hash tx node →
      R.call s c.refresher.address
        (.setData node DataKey.attestationBuildHash.name newHash.toBytes) = some s' →
      Does c keccak256 R node hash s tx ([.attestationRefreshed node newHash], s')
  | elsewhere {n key sender value logs s'} : n ≠ node → c.newHash node tx = none →
      ¬ c.Triggers keccak256 hash tx node → key = .status ∨ key = .attestationBuildHash →
      R.call s sender (.setData n (DataKey.name key) value) = some s' →
      (∀ log ∈ logs, ContractLog.revokes node log = false) → Does c keccak256 R node hash s tx (logs, s')

theorem revokes_of_ne (h : n ≠ node) {sender : Address} {reason : String} {more : List ContractLog}
    (hmore : ∀ log ∈ more, ContractLog.revokes node log = false) :
    ∀ log ∈ .watchdog (.revoked n sender reason) :: more, ContractLog.revokes node log = false := by
  intro log hlog
  rcases List.mem_cons.mp hlog with rfl | hlog
  · exact decide_eq_false h
  · exact hmore log hlog

/-- A call of the watchdog about another node. -/
theorem Watches.elsewhere {result : List ContractLog × R.State} (h : Watches c R n s tx.1 result)
    (hne : n ≠ node) (hhash : c.newHash node tx = none) (hnot : ¬ c.Triggers keccak256 hash tx node) :
    Does c keccak256 R node hash s tx result := by
  cases h with
  | nothing => exact .nothing hhash fun htrigger => absurd htrigger hnot
  | revokes hcall hmore =>
    exact .elsewhere hne hhash hnot (Or.inl rfl) hcall (revokes_of_ne hne (hmore node))

theorem step_submitAttestationCheck {sender : Address} {report : Bytes}
    {result : Except Revert (Returned (R.toResolver hpermits))}
    (h : c.watchdog.submitAttestationCheck keccak256 s sender node report = result) :
    c.step R hpermits keccak256 s (sender, .submitAttestationCheck node report) =
      (result.toOption.map fun returned => (returned.logs.map .watchdog, returned.state)).getD ([], s) := by
  subst h
  rfl

theorem step_adminRevoke {sender : Address} {result : Except Revert (Returned (R.toResolver hpermits))}
    (h : c.watchdog.adminRevoke keccak256 s sender node = result) :
    c.step R hpermits keccak256 s (sender, .adminRevoke node) =
      (result.toOption.map fun returned => (returned.logs.map .watchdog, returned.state)).getD ([], s) := by
  subst h
  rfl

theorem step_onReport {sender : Address} {metadata report : Bytes}
    {result : Except ReceiverError (Refreshed (R.toResolver hpermits))}
    (h : c.refresher.onReport s sender metadata report = result) :
    c.step R hpermits keccak256 s (sender, .onReport metadata report) =
      (result.toOption.map fun refreshed =>
        ([.attestationRefreshed refreshed.node refreshed.newHash], refreshed.state)).getD ([], s) := by
  subst h
  rfl

/-! ### The watchdog -/

/-- The one event of `adminRevoke` besides `Revoked`. -/
theorem not_revokes_adminRevoked (node : Word) (sender : Address) :
    ∀ n, ∀ log ∈ [ContractLog.watchdog (.adminRevoked node sender)], ContractLog.revokes n log = false := by
  intro n log hlog
  rw [List.mem_singleton.mp hlog]
  rfl

theorem watches_submitAttestationCheck (sender : Address) (report : Bytes) :
    Watches c R node s sender
      (c.step R hpermits keccak256 s (sender, .submitAttestationCheck node report)) := by
  rcases WatchdogRevoker.submitAttestationCheck_cases (R := R.toResolver hpermits) (w := c.watchdog)
    keccak256 s sender node report with ⟨error, hresult⟩ | hresult | ⟨s', hcall, hresult⟩
  · rw [step_submitAttestationCheck hresult]
    exact .nothing
  · rw [step_submitAttestationCheck hresult]
    exact .nothing
  · rw [step_submitAttestationCheck hresult]
    exact .revokes hcall (by simp)

theorem watches_adminRevoke (sender : Address) :
    Watches c R node s sender (c.step R hpermits keccak256 s (sender, .adminRevoke node)) := by
  by_cases hsender : sender = c.watchdog.admin
  swap
  · have herror : c.watchdog.adminRevoke (R := R.toResolver hpermits) keccak256 s sender node =
        .error (.notAdmin sender) := if_pos hsender
    rw [step_adminRevoke herror]
    exact .nothing
  rcases WatchdogRevoker.revoke_cases (R := R.toResolver hpermits) (w := c.watchdog) keccak256 s sender
    node "admin_manual_revoke" with ⟨error, hresult⟩ | hresult | ⟨s', hcall, hresult⟩
  · rw [step_adminRevoke (WatchdogRevoker.adminRevoke_of_error hsender hresult)]
    exact .nothing
  · rw [step_adminRevoke (WatchdogRevoker.adminRevoke_of_revoke hsender hresult)]
    exact .nothing
  · rw [step_adminRevoke (WatchdogRevoker.adminRevoke_of_revoke hsender hresult)]
    exact .revokes hcall (not_revokes_adminRevoked node sender)

theorem Ready.revoke (h : Ready c keccak256 R node hash s) (hpermits : R.Permits) (sender : Address)
    (reason : String) :
    (R.data s node .status = statusRevoked ∧
      c.watchdog.revoke (R := R.toResolver hpermits) keccak256 s sender node reason = .ok ⟨false, [], s⟩) ∨
    (R.data s node .status ≠ statusRevoked ∧
      ∃ s', R.call s c.watchdog.address (.setData node DataKey.status.name statusRevoked) = some s' ∧
        c.watchdog.revoke (R := R.toResolver hpermits) keccak256 s sender node reason =
          .ok ⟨true, [.revoked node sender reason], s'⟩) := by
  by_cases hrevoked : keccak256 (R.data s node .status) = keccak256 statusRevoked
  · exact Or.inl ⟨h.status hrevoked, WatchdogRevoker.revoke_of_revoked hrevoked⟩
  · refine Or.inr ⟨fun heq => hrevoked (by rw [heq]), ?_⟩
    obtain ⟨s', hcall⟩ := hpermits s c.watchdog.address (.setData node DataKey.status.name statusRevoked)
      h.mayRevoke
    exact ⟨s', hcall, WatchdogRevoker.revoke_of_not_revoked (R := R.toResolver hpermits) hrevoked hcall⟩

theorem triggers_submitAttestationCheck {sender : Address} {report : Bytes} :
    c.Triggers keccak256 hash (sender, .submitAttestationCheck n report) node ↔
      n = node ∧ keccak256 report ≠ hash := by
  simp [Triggers, eq_comm]

theorem triggers_adminRevoke {sender : Address} :
    c.Triggers keccak256 hash (sender, .adminRevoke n) node ↔ n = node ∧ sender = c.watchdog.admin := by
  simp [Triggers, eq_comm, and_comm]

theorem Ready.submitAttestationCheck (h : Ready c keccak256 R node hash s) (sender : Address) (n : Word)
    (report : Bytes) : Does c keccak256 R node hash s (sender, .submitAttestationCheck n report)
      (c.step R hpermits keccak256 s (sender, .submitAttestationCheck n report)) := by
  by_cases hnode : n = node
  swap
  · exact (watches_submitAttestationCheck sender report).elsewhere hnode rfl fun htrigger =>
      hnode (triggers_submitAttestationCheck.mp htrigger).1
  subst hnode
  have hdecode : decodeBytes32 ((R.toResolver hpermits).data s n .attestationBuildHash) = .ok hash := by
    change decodeBytes32 (R.data s n .attestationBuildHash) = _
    rw [h.attestation, decodeBytes32, if_neg (by simp), Word.ofBytes_toBytes]
  have hcheck : c.watchdog.submitAttestationCheck (R := R.toResolver hpermits) keccak256 s sender n
      report = if keccak256 report = hash then .ok ⟨false, [], s⟩
        else c.watchdog.revoke keccak256 s sender n "attestation_mismatch" := by
    unfold WatchdogRevoker.submitAttestationCheck
    rw [hdecode]
    rfl
  by_cases hmatches : keccak256 report = hash
  · rw [step_submitAttestationCheck (hcheck.trans (if_pos hmatches))]
    refine .nothing rfl ?_
    intro htrigger
    exact absurd hmatches (triggers_submitAttestationCheck.mp htrigger).2
  rcases h.revoke hpermits sender "attestation_mismatch" with ⟨hrevoked, hok⟩ | ⟨hnot, s', hcall, hok⟩
  · rw [step_submitAttestationCheck ((hcheck.trans (if_neg hmatches)).trans hok)]
    exact .nothing rfl fun _ => hrevoked
  · rw [step_submitAttestationCheck ((hcheck.trans (if_neg hmatches)).trans hok)]
    exact .revokes rfl (triggers_submitAttestationCheck.mpr ⟨rfl, hmatches⟩) hnot hcall (by simp)

theorem Ready.adminRevoke (h : Ready c keccak256 R node hash s) (sender : Address) (n : Word) :
    Does c keccak256 R node hash s (sender, .adminRevoke n)
      (c.step R hpermits keccak256 s (sender, .adminRevoke n)) := by
  by_cases hnode : n = node
  swap
  · exact (watches_adminRevoke sender).elsewhere hnode rfl fun htrigger =>
      hnode (triggers_adminRevoke.mp htrigger).1
  subst hnode
  by_cases hsender : sender = c.watchdog.admin
  swap
  · have herror : c.watchdog.adminRevoke (R := R.toResolver hpermits) keccak256 s sender n =
        .error (.notAdmin sender) := if_pos hsender
    rw [step_adminRevoke herror]
    refine .nothing rfl ?_
    intro htrigger
    exact absurd (triggers_adminRevoke.mp htrigger).2 hsender
  rcases h.revoke hpermits sender "admin_manual_revoke" with ⟨hrevoked, hok⟩ | ⟨hnot, s', hcall, hok⟩
  · rw [step_adminRevoke (WatchdogRevoker.adminRevoke_of_revoke hsender hok)]
    exact .nothing rfl fun _ => hrevoked
  · rw [step_adminRevoke (WatchdogRevoker.adminRevoke_of_revoke hsender hok)]
    exact .revokes rfl (triggers_adminRevoke.mpr ⟨rfl, hsender⟩) hnot hcall
      (not_revokes_adminRevoked n sender n)

/-! ### The refresher -/

theorem newHash_of_not_reported (h : c.reported tx = none) (node : Word) : c.newHash node tx = none := by
  rw [newHash, h]
  rfl

theorem newHash_of_reported {newHash : Word} (h : c.reported tx = some (n, newHash)) (node : Word) :
    c.newHash node tx = if n = node then some newHash else none := by
  rw [Contracts.newHash, h]
  by_cases heq : n = node
  · simp [heq]
  · simp [heq, Option.filter]

theorem Ready.onReport (h : Ready c keccak256 R node hash s) (sender : Address) (metadata report : Bytes) :
    Does c keccak256 R node hash s (sender, .onReport metadata report)
      (c.step R hpermits keccak256 s (sender, .onReport metadata report)) := by
  have hnot : ¬ c.Triggers keccak256 hash (sender, .onReport metadata report) node := by
    simp [Triggers]
  rcases hreported : c.refresher.reported sender metadata report with _ | ⟨n, newHash⟩
  · obtain ⟨e, herror⟩ := AttestationRefresherReceiver.onReport_of_not_reported
      (R := R.toResolver hpermits) (s := s) hreported
    rw [step_onReport herror]
    have hnone : c.reported (sender, .onReport metadata report) = none := hreported
    exact .nothing (newHash_of_not_reported hnone node) fun htrigger => absurd htrigger hnot
  have hsome : c.reported (sender, .onReport metadata report) = some (n, newHash) := hreported
  have hhash := newHash_of_reported hsome node
  rcases hresult : c.refresher.onReport (R := R.toResolver hpermits) s sender metadata report with
    error | refreshed
  · by_cases hnode : n = node
    · subst hnode
      obtain ⟨refreshed, hok⟩ := AttestationRefresherReceiver.exists_onReport
        (R := R.toResolver hpermits) hreported h.mayRefresh
      cases hresult.symm.trans hok
    · rw [step_onReport hresult]
      exact .nothing (hhash.trans (if_neg hnode)) fun htrigger => absurd htrigger hnot
  obtain ⟨hreported', hset⟩ := AttestationRefresherReceiver.onReport_eq_ok hresult
  obtain ⟨rfl, rfl⟩ := Prod.mk.inj (Option.some.inj (hreported.symm.trans hreported'))
  rw [step_onReport hresult]
  by_cases hnode : refreshed.node = node
  · subst hnode
    exact .refreshes hreported hnot hset
  · exact .elsewhere hnode (hhash.trans (if_neg hnode)) hnot (Or.inr rfl) hset (by simp [ContractLog.revokes])

/-- **What a transaction does.** -/
theorem Ready.does (h : Ready c keccak256 R node hash s) (hpermits : R.Permits) (tx : Address × Transaction) :
    Does c keccak256 R node hash s tx (c.step R hpermits keccak256 s tx) := by
  obtain ⟨sender, call⟩ := tx
  cases call with
  | submitAttestationCheck n report => exact h.submitAttestationCheck sender n report
  | submitMisbehaviorProof n proof =>
    refine .nothing rfl ?_
    intro htrigger
    simp [Triggers] at htrigger
  | adminRevoke n => exact h.adminRevoke sender n
  | onReport metadata report => exact h.onReport sender metadata report

/-! ### What follows for the records -/

/-- How often the logs say that the node was revoked. -/
def revocations (node : Word) (logs : List ContractLog) : ℕ := logs.countP (ContractLog.revokes node)

/-- What may happen to the records of the node, to its logs, and to any record that is no
    status or attestation hash, where reports on the node are compared with `hash`. -/
structure Sound (c : Contracts) (keccak256 : Bytes → Word) (R : PermissionedResolver) (node hash : Word)
    (s : R.State) (tx : Address × Transaction) (logs : List ContractLog) (s' : R.State) : Prop where
  stays : R.data s node .status = statusRevoked → R.data s' node .status = statusRevoked
  becomes : R.data s node .status ≠ statusRevoked →
    (R.data s' node .status = statusRevoked ↔ c.Triggers keccak256 hash tx node)
  changes : R.data s' node .status ≠ R.data s node .status → R.data s' node .status = statusRevoked
  once : R.data s node .status ≠ statusRevoked → c.Triggers keccak256 hash tx node →
    revocations node logs = 1
  silent : ¬ (R.data s node .status ≠ statusRevoked ∧ c.Triggers keccak256 hash tx node) →
    revocations node logs = 0
  repeated : R.data s node .status = statusRevoked → c.Triggers keccak256 hash tx node → logs = []
  attestation : R.data s' node .attestationBuildHash ≠ R.data s node .attestationBuildHash →
    tx.1 = c.refresher.forwarderAddress ∧ ∃ newHash, c.reported tx = some (node, newHash) ∧
      R.data s' node .attestationBuildHash = newHash.toBytes
  others : ∀ r, (∀ n, r ≠ .data n DataKey.status.name ∧ r ≠ .data n DataKey.attestationBuildHash.name) →
    (R.store s').value r = (R.store s).value r

section Records

variable {sender : Address} {key : DataKey} {value : Bytes}

theorem data_self (h : R.call s sender (.setData node key.name value) = some s') :
    R.data s' node key = value := by
  unfold PermissionedResolver.data
  rw [(R.call_eq_some h).2]
  exact Store.value_write_self _

theorem value_of_ne (h : R.call s sender (.setData node key.name value) = some s') {r : Record}
    (hne : r ≠ .data node key.name) : (R.store s').value r = (R.store s).value r := by
  rw [(R.call_eq_some h).2]
  exact Store.value_write_of_ne _ hne

theorem data_of_ne (h : R.call s sender (.setData node key.name value) = some s') {node' : Word}
    {key' : DataKey} (hne : ¬ (node' = node ∧ key' = key)) : R.data s' node' key' = R.data s node' key' := by
  apply value_of_ne h
  simpa [DataKey.name_inj] using hne

end Records

theorem sender_of_reported (hforwarder : c.refresher.forwarderAddress ≠ 0) {pair : Word × Word}
    (h : c.reported tx = some pair) : tx.1 = c.refresher.forwarderAddress := by
  obtain ⟨sender, call⟩ := tx
  cases call with
  | onReport metadata report => exact AttestationRefresherReceiver.sender_of_reported hforwarder h
  | _ => cases h

theorem revocations_eq_zero (h : ∀ log ∈ logs, ContractLog.revokes node log = false) :
    revocations node logs = 0 := by
  rw [revocations, List.countP_eq_zero]
  intro log hlog
  rw [h log hlog]
  decide

/-- The events of a revocation, counted. -/
theorem revocations_revoked {submittedBy : Address} {reason : String} {more : List ContractLog}
    (hmore : ∀ log ∈ more, ContractLog.revokes node log = false) :
    revocations node (.watchdog (.revoked node submittedBy reason) :: more) = 1 := by
  have hrest := revocations_eq_zero hmore
  have hfirst : ContractLog.revokes node (.watchdog (.revoked node submittedBy reason)) = true :=
    decide_eq_true rfl
  unfold revocations at hrest ⊢
  rw [List.countP_cons, hrest, if_pos hfirst]

theorem Sound.nothing (hrevoked : c.Triggers keccak256 hash tx node → R.data s node .status = statusRevoked) :
    Sound c keccak256 R node hash s tx [] s where
  stays h := h
  becomes hnot := iff_of_false hnot fun htrigger => hnot (hrevoked htrigger)
  changes h := absurd rfl h
  once hnot htrigger := absurd (hrevoked htrigger) hnot
  silent _ := rfl
  repeated _ _ := rfl
  attestation h := absurd rfl h
  others _ _ := rfl

/-- A transaction that leaves both records of the node alone, and does not revoke it. -/
theorem Sound.of_same (hsame : ∀ key, R.data s' node key = R.data s node key)
    (hnot : ¬ c.Triggers keccak256 hash tx node) (hlogs : ∀ log ∈ logs, ContractLog.revokes node log = false)
    (hothers : ∀ r, (∀ n, r ≠ .data n DataKey.status.name ∧ r ≠ .data n DataKey.attestationBuildHash.name) →
      (R.store s').value r = (R.store s).value r) : Sound c keccak256 R node hash s tx logs s' where
  stays h := (hsame .status).trans h
  becomes hstatus := iff_of_false (fun h => hstatus ((hsame .status).symm.trans h)) hnot
  changes h := absurd (hsame .status) h
  once _ htrigger := absurd htrigger hnot
  silent _ := revocations_eq_zero hlogs
  repeated _ htrigger := absurd htrigger hnot
  attestation h := absurd (hsame .attestationBuildHash) h
  others := hothers

theorem Does.sound (hforwarder : c.refresher.forwarderAddress ≠ 0)
    (h : Does c keccak256 R node hash s tx (logs, s')) : Sound c keccak256 R node hash s tx logs s' := by
  generalize hresult : (logs, s') = result at h
  cases h with
  | nothing hhash hrevoked =>
    obtain ⟨rfl, rfl⟩ := Prod.mk.inj hresult
    exact .nothing hrevoked
  | @revokes reason more s'' hhash htrigger hnot hcall hmore =>
    obtain ⟨rfl, rfl⟩ := Prod.mk.inj hresult
    have hself : R.data s' node .status = statusRevoked := data_self hcall
    have hattestation : R.data s' node .attestationBuildHash = R.data s node .attestationBuildHash :=
      data_of_ne hcall fun h => nomatch h.2
    constructor
    case stays => exact fun _ => hself
    case becomes => exact fun _ => iff_of_true hself htrigger
    case changes => exact fun _ => hself
    case once => exact fun _ _ => revocations_revoked hmore
    case silent => exact fun hsilent => absurd ⟨hnot, htrigger⟩ hsilent
    case repeated => exact fun hrevoked _ => absurd hrevoked hnot
    case attestation => exact fun hne => absurd hattestation hne
    case others =>
      intro r hr
      exact value_of_ne hcall (hr node).1
  | @refreshes newHash s'' hreported hnot hcall =>
    obtain ⟨rfl, rfl⟩ := Prod.mk.inj hresult
    have hstatus : R.data s' node .status = R.data s node .status := data_of_ne hcall fun h => nomatch h.2
    constructor
    case stays => exact hstatus.trans
    case becomes => exact fun hnode => iff_of_false (fun h => hnode (hstatus.symm.trans h)) hnot
    case changes => exact fun hne => absurd hstatus hne
    case once => exact fun _ htrigger => absurd htrigger hnot
    case silent => exact fun _ => rfl
    case repeated => exact fun _ htrigger => absurd htrigger hnot
    case attestation =>
      exact fun _ => ⟨sender_of_reported hforwarder hreported, newHash, hreported, data_self hcall⟩
    case others =>
      intro r hr
      exact value_of_ne hcall (hr node).2
  | @elsewhere n key sender value logs' s'' hne hhash hnot hkey hcall hlogs =>
    obtain ⟨rfl, rfl⟩ := Prod.mk.inj hresult
    apply Sound.of_same
    case hsame =>
      intro key'
      exact data_of_ne hcall fun h => hne h.1.symm
    case hnot => exact hnot
    case hlogs => exact hlogs
    case hothers =>
      intro r hr
      apply value_of_ne hcall
      rcases hkey with rfl | rfl
      · exact (hr n).1
      · exact (hr n).2

/-! ### The hash after a transaction -/

theorem lastHash_concat (initial node : Word) (past : List (Address × Transaction)) :
    c.lastHash initial node (past ++ [tx]) = (c.newHash node tx).getD (c.lastHash initial node past) := by
  rw [lastHash, latest_concat, Option.getD_or]
  rfl

/-- A record is written: the contracts keep their roles. -/
theorem Ready.of_call {hash' : Word} (h : Ready c keccak256 R node hash s) {sender : Address}
    {key : DataKey} {value : Bytes} (hcall : R.call s sender (.setData n key.name value) = some s')
    (hattestation : R.data s' node .attestationBuildHash = hash'.toBytes)
    (hstatus : keccak256 (R.data s' node .status) = keccak256 statusRevoked →
      R.data s' node .status = statusRevoked) : Ready c keccak256 R node hash' s' := by
  have hroles (r : Record) (account : Address) :
      (R.store s').mayWrite r account = (R.store s).mayWrite r account := by
    rw [(R.call_eq_some hcall).2]
    exact Store.mayWrite_write _
  constructor
  · rw [hroles]
    exact h.mayRevoke
  · rw [hroles]
    exact h.mayRefresh
  · exact hattestation
  · exact hstatus

/-- After a transaction the contracts are ready again, with the hash that it reported. -/
theorem Does.ready (h : Does c keccak256 R node hash s tx (logs, s'))
    (hready : Ready c keccak256 R node hash s) :
    Ready c keccak256 R node ((c.newHash node tx).getD hash) s' := by
  generalize hresult : (logs, s') = result at h
  cases h with
  | nothing hhash hrevoked =>
    obtain ⟨rfl, rfl⟩ := Prod.mk.inj hresult
    rw [hhash]
    exact hready
  | @revokes reason more s'' hhash htrigger hnot hcall hmore =>
    obtain ⟨rfl, rfl⟩ := Prod.mk.inj hresult
    have hattestation : R.data s' node .attestationBuildHash = R.data s node .attestationBuildHash :=
      data_of_ne hcall fun h => nomatch h.2
    rw [hhash]
    apply hready.of_call hcall
    · exact hattestation.trans hready.attestation
    · exact fun _ => data_self hcall
  | @refreshes newHash s'' hreported hnot hcall =>
    obtain ⟨rfl, rfl⟩ := Prod.mk.inj hresult
    rw [newHash_of_reported hreported, if_pos rfl]
    apply hready.of_call hcall
    · exact data_self hcall
    · intro hrevoked
      have hsame : R.data s' node .status = R.data s node .status := data_of_ne hcall fun h => nomatch h.2
      rw [hsame] at hrevoked ⊢
      exact hready.status hrevoked
  | @elsewhere n key sender value logs' s'' hne hhash hnot hkey hcall hlogs =>
    obtain ⟨rfl, rfl⟩ := Prod.mk.inj hresult
    have hsame (key : DataKey) : R.data s' node key = R.data s node key :=
      data_of_ne hcall fun h => hne h.1.symm
    rw [hhash]
    apply hready.of_call hcall
    · exact (hsame _).trans hready.attestation
    · intro hrevoked
      rw [hsame] at hrevoked ⊢
      exact hready.status hrevoked

end Does

/-! ### Runs -/

section Runs

variable {R : PermissionedResolver} {hpermits : R.Permits} {keccak256 : Bytes → Word}
  {c : Contracts} {s s₀ : R.State} {node initial : Word}

theorem run_concat (past : List (Address × Transaction)) (tx : Address × Transaction) :
    c.run R hpermits keccak256 s (past ++ [tx]) =
      ((c.run R hpermits keccak256 s past).1 ++
          (c.step R hpermits keccak256 (c.run R hpermits keccak256 s past).2 tx).1,
        (c.step R hpermits keccak256 (c.run R hpermits keccak256 s past).2 tx).2) := by
  induction past generalizing s with
  | nil => simp [run]
  | cons tx' past ih =>
    simp only [List.cons_append, run]
    rw [ih]
    simp

theorem ready_run (h : Ready c keccak256 R node initial s₀) (past : List (Address × Transaction)) :
    Ready c keccak256 R node (c.lastHash initial node past) (c.run R hpermits keccak256 s₀ past).2 := by
  induction past using List.reverseRecOn with
  | nil => exact h
  | append_singleton past tx ih =>
    rw [run_concat, lastHash_concat]
    exact (ih.does hpermits tx).ready ih

theorem sound_run (hpermits : R.Permits) (hforwarder : c.refresher.forwarderAddress ≠ 0)
    (h : Ready c keccak256 R node initial s₀) (past : List (Address × Transaction))
    (tx : Address × Transaction) :
    Sound c keccak256 R node (c.lastHash initial node past)
      (c.run R hpermits keccak256 s₀ past).2 tx
      (c.step R hpermits keccak256 (c.run R hpermits keccak256 s₀ past).2 tx).1
      (c.step R hpermits keccak256 (c.run R hpermits keccak256 s₀ past).2 tx).2 :=
  ((ready_run h past).does hpermits tx).sound hforwarder

theorem stays_run (hforwarder : c.refresher.forwarderAddress ≠ 0) (h : Ready c keccak256 R node initial s₀)
    (hrevoked : R.data s₀ node .status = statusRevoked) (past : List (Address × Transaction)) :
    R.data (c.run R hpermits keccak256 s₀ past).2 node .status = statusRevoked := by
  induction past using List.reverseRecOn with
  | nil => exact hrevoked
  | append_singleton past tx ih =>
    rw [run_concat]
    exact (sound_run hpermits hforwarder h past tx).stays ih

/-- A revocation is logged once, where the node was not revoked at the start. -/
theorem revocations_run (hforwarder : c.refresher.forwarderAddress ≠ 0)
    (h : Ready c keccak256 R node initial s₀) (past : List (Address × Transaction)) :
    revocations node (c.run R hpermits keccak256 s₀ past).1 =
      if R.data s₀ node .status ≠ statusRevoked ∧
        R.data (c.run R hpermits keccak256 s₀ past).2 node .status = statusRevoked then 1 else 0 := by
  induction past using List.reverseRecOn with
  | nil =>
    rw [if_neg fun h => h.1 h.2]
    rfl
  | append_singleton past tx ih =>
    have hsound := sound_run hpermits hforwarder h past tx
    rw [run_concat, revocations, List.countP_append, ← revocations, ← revocations, ih]
    by_cases hrevoked : R.data (c.run R hpermits keccak256 s₀ past).2 node .status = statusRevoked
    · rw [hsound.silent fun h => h.1 hrevoked, Nat.add_zero]
      simp only [hrevoked, hsound.stays hrevoked]
    · rw [if_neg fun h => hrevoked h.2, Nat.zero_add]
      have hinitial : R.data s₀ node .status ≠ statusRevoked := fun h₀ =>
        hrevoked (stays_run hforwarder h h₀ past)
      by_cases htriggers : c.Triggers keccak256 (c.lastHash initial node past) tx node
      · have hnow := (hsound.becomes hrevoked).mpr htriggers
        rw [hsound.once hrevoked htriggers, if_pos ⟨hinitial, hnow⟩]
      · have hnot := (hsound.becomes hrevoked).not.mpr htriggers
        rw [hsound.silent fun h => htriggers h.2, if_neg fun h => hnot h.2]

/-- **The watchdog and the refresher together.**  In any order of calls of the two contracts,
    by anyone and about any nodes, the next transaction is `Sound` for the node and the hash
    of its last report, and a node that has become revoked has one `Revoked` event. -/
theorem revocations_sound (hpermits : R.Permits) (hforwarder : c.refresher.forwarderAddress ≠ 0)
    (hwatchdog : (R.store s₀).mayWrite (.data node DataKey.status.name) c.watchdog.address = true)
    (hrefresher :
      (R.store s₀).mayWrite (.data node DataKey.attestationBuildHash.name) c.refresher.address = true)
    (hlength : (R.data s₀ node .attestationBuildHash).length = 32)
    (hcollision : keccak256 (R.data s₀ node .status) = keccak256 statusRevoked →
      R.data s₀ node .status = statusRevoked)
    (past : List (Address × Transaction)) :
    (∀ tx, Sound c keccak256 R node
      (c.lastHash (Word.ofBytes (R.data s₀ node .attestationBuildHash)) node past)
      (c.run R hpermits keccak256 s₀ past).2 tx
      (c.step R hpermits keccak256 (c.run R hpermits keccak256 s₀ past).2 tx).1
      (c.step R hpermits keccak256 (c.run R hpermits keccak256 s₀ past).2 tx).2) ∧
    revocations node (c.run R hpermits keccak256 s₀ past).1 =
      if R.data s₀ node .status ≠ statusRevoked ∧
        R.data (c.run R hpermits keccak256 s₀ past).2 node .status = statusRevoked then 1 else 0 := by
  have hready : Ready c keccak256 R node (Word.ofBytes (R.data s₀ node .attestationBuildHash)) s₀ :=
    ⟨hwatchdog, hrefresher, (Word.toBytes_ofBytes hlength).symm, hcollision⟩
  exact ⟨sound_run hpermits hforwarder hready past, revocations_run hforwarder hready past⟩

end Runs

end Contracts

/-! ### A run -/

namespace Sample

def contracts : Contracts where
  watchdog := revoker
  refresher :=
    { address := 9, forwarderAddress := 10, expectedAuthor := 0, expectedWorkflowName := 0,
      expectedWorkflowId := 0 }

/-- Every node is active, with a zero hash, and the contracts hold their roles. -/
def deployed : ResolverStore where
  value
    | .text .. => ""
    | .data _ key => if key = DataKey.status.name then statusActive else Word.toBytes 0
  role _ _ := false
  rootRole
    | .text .., _ => false
    | .data _ key, account =>
        key = DataKey.status.name ∧ account = contracts.watchdog.address ∨
          key = DataKey.attestationBuildHash.name ∧ account = contracts.refresher.address
  mayGrant _ account := account = 7

/-- A report for bob, a check of what was built that does not match it, and the check again. -/
def tamperedTwice : List (Address × Transaction) :=
  [(10, .onReport [] (abiEncode [namehash bob.name, keccak256 statusActive])),
    (8, .submitAttestationCheck (namehash bob.name) tampered),
    (11, .submitAttestationCheck (namehash bob.name) tampered)]

end Sample

section Sample

open Sample Contracts

theorem revocations_sound_tampered :
    revocations (namehash bob.name) (contracts.run (storeResolver fun _ => 0)
      (permits_storeResolver fun _ => 0) keccak256 deployed tamperedTwice).1 = 1 := by
  have hcollision : keccak256 statusActive = keccak256 statusRevoked → statusActive = statusRevoked :=
    fun heq => absurd heq (by decide +kernel)
  have hlength : ((storeResolver fun _ => 0).data deployed (namehash bob.name)
      .attestationBuildHash).length = 32 := rfl
  exact ((revocations_sound (c := contracts) (permits_storeResolver fun _ => 0) (by decide +kernel)
    (by decide +kernel) (by decide +kernel) hlength hcollision tamperedTwice).2).trans
      (if_pos (by decide +kernel))

end Sample

end DVoD.Ens
