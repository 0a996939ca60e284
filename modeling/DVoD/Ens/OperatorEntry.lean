import DVoD.Ens.OperationalKeys
import DVoD.Ens.ReadBack

/-!
# The entry of an operator

What discovery reads of a registered operator is changed by its operational key, by the
watchdog and its admin, and by the refresher, in any order.  `Entry` is an operator as a
machine of its own, with a move for each of them; `discovery_follows` is that discovery
reads the entry of the machine, whatever anyone but the admin of the resolver sends.
-/

namespace DVoD.Ens

open DVoD.Access DVoD.Evm DVoD.Session DVoD.Text PermissionedResolver

/-! ### The machine -/

/-- What can change of an operator once it is registered. -/
structure Entry where
  endpoint : String
  tiersSupported : String
  attestationBuildHash : Bytes
  revoked : Bool
deriving DecidableEq

/-- A call at the resolver, or of one of the contracts. -/
inductive EnsCall where
  | resolver (call : ResolverCall)
  | contracts (call : Transaction)

/-- Those who have to do with a node; `mayRefresh` where the refresher was given its role. -/
structure Parties where
  node : Word
  operationalKey : Address
  contracts : Contracts
  mayRefresh : Bool

namespace Entry

def status (e : Entry) : RelayStatus := if e.revoked then .revoked else .active

theorem status_eq_revoked {e : Entry} : e.status = .revoked ↔ e.revoked = true := by
  cases h : e.revoked with
  | true => simp [status, h]
  | false => simp [status, h]

def setText (e : Entry) (value : String) : TextKey → Entry
  | .endpoint => { e with endpoint := value }
  | .tiersSupported => { e with tiersSupported := value }

/-- What the operational key writes. -/
def publish (e : Entry) (node : Word) : ResolverCall → Entry
  | .setText n key value =>
      if n = node ∧ key = TextKey.endpoint.name then e.setText value .endpoint
      else if n = node ∧ key = TextKey.tiersSupported.name then e.setText value .tiersSupported
      else e
  | .setData n key value =>
      if n = node ∧ key = DataKey.attestationBuildHash.name then { e with attestationBuildHash := value }
      else e
  | _ => e

/-- A check with the report goes through, and does not match. -/
def Mismatches (e : Entry) (keccak256 : Bytes → Word) (report : Bytes) : Prop :=
  32 ≤ e.attestationBuildHash.length ∧ keccak256 report ≠ Word.ofBytes e.attestationBuildHash

instance (e : Entry) (keccak256 : Bytes → Word) (report : Bytes) : Decidable (e.Mismatches keccak256 report) :=
  inferInstanceAs (Decidable (_ ∧ _))

/-- What the refresher writes for a report that it takes. -/
def refresh (P : Parties) (e : Entry) : Option (Word × Word) → Entry
  | some (node, newHash) =>
      if P.mayRefresh ∧ node = P.node then { e with attestationBuildHash := newHash.toBytes } else e
  | none => e

def next (P : Parties) (keccak256 : Bytes → Word) (e : Entry) (tx : Address × EnsCall) : Entry :=
  match tx.2 with
  | .resolver call => if tx.1 = P.operationalKey then e.publish P.node call else e
  | .contracts (.submitAttestationCheck node report) =>
      if node = P.node ∧ e.Mismatches keccak256 report then { e with revoked := true } else e
  | .contracts (.submitMisbehaviorProof _ _) => e
  | .contracts (.adminRevoke node) =>
      if node = P.node ∧ tx.1 = P.contracts.watchdog.admin then { e with revoked := true } else e
  | .contracts (.onReport metadata report) => e.refresh P (P.contracts.refresher.reported tx.1 metadata report)

def run (P : Parties) (keccak256 : Bytes → Word) (e : Entry) (txs : List (Address × EnsCall)) : Entry :=
  txs.foldl (next P keccak256) e

/-- The call revokes the operator, unless that has been done. -/
def Revokes (P : Parties) (keccak256 : Bytes → Word) (e : Entry) (tx : Address × EnsCall) : Prop :=
  tx = (P.contracts.watchdog.admin, .contracts (.adminRevoke P.node)) ∨
    ∃ sender report, tx = (sender, .contracts (.submitAttestationCheck P.node report)) ∧
      e.Mismatches keccak256 report

section Revoked

variable {P : Parties} {keccak256 : Bytes → Word} {e : Entry} {tx : Address × EnsCall}
  {txs : List (Address × EnsCall)}

theorem revoked_publish {node : Word} {call : ResolverCall} : (e.publish node call).revoked = e.revoked := by
  cases call with
  | setText n key value =>
    simp only [publish]
    split
    · rfl
    split
    · rfl
    · rfl
  | setData n key value =>
    simp only [publish]
    split
    · rfl
    · rfl
  | _ => rfl

theorem revoked_refresh {reported : Option (Word × Word)} : (e.refresh P reported).revoked = e.revoked := by
  cases reported with
  | none => rfl
  | some pair =>
    simp only [refresh]
    split
    · rfl
    · rfl

theorem revoked_next : (e.next P keccak256 tx).revoked = true ↔ e.revoked = true ∨ e.Revokes P keccak256 tx := by
  obtain ⟨sender, call⟩ := tx
  have hsame (hnot : ¬ e.Revokes P keccak256 (sender, call))
      (hnext : (e.next P keccak256 (sender, call)).revoked = e.revoked) :
      (e.next P keccak256 (sender, call)).revoked = true ↔ e.revoked = true ∨
        e.Revokes P keccak256 (sender, call) := by
    rw [hnext, or_iff_left hnot]
  cases call with
  | resolver call =>
    apply hsame
    · rintro (heq | ⟨_, _, heq, -⟩)
      · cases heq
      · cases heq
    · simp only [next]
      split
      · exact revoked_publish
      · rfl
  | contracts call =>
    cases call with
    | submitMisbehaviorProof node proof =>
      apply hsame
      · rintro (heq | ⟨_, _, heq, -⟩)
        · cases heq
        · cases heq
      · rfl
    | onReport metadata report =>
      apply hsame
      · rintro (heq | ⟨_, _, heq, -⟩)
        · cases heq
        · cases heq
      · exact revoked_refresh
    | adminRevoke node =>
      have hrevokes : e.Revokes P keccak256 (sender, .contracts (.adminRevoke node)) ↔
          node = P.node ∧ sender = P.contracts.watchdog.admin := by
        simp [Revokes, and_comm]
      rw [hrevokes]
      simp only [next]
      split
      · next h => exact iff_of_true rfl (.inr h)
      · next h => exact (or_iff_left h).symm
    | submitAttestationCheck node report =>
      have hrevokes : e.Revokes P keccak256 (sender, .contracts (.submitAttestationCheck node report)) ↔
          node = P.node ∧ e.Mismatches keccak256 report := by
        simp [Revokes, eq_comm]
      rw [hrevokes]
      simp only [next]
      split
      · next h => exact iff_of_true rfl (.inr h)
      · next h => exact (or_iff_left h).symm

/-- **An operator is revoked for good**, and only by the admin of the watchdog or by a report
    that did not match the hash of the time. -/
theorem revoked_run : (e.run P keccak256 txs).revoked = true ↔ e.revoked = true ∨
    ∃ before tx after, txs = before ++ tx :: after ∧ (e.run P keccak256 before).Revokes P keccak256 tx := by
  induction txs using List.reverseRecOn with
  | nil => simp [run]
  | append_singleton txs tx ih =>
    have hrun : e.run P keccak256 (txs ++ [tx]) = (e.run P keccak256 txs).next P keccak256 tx := by
      rw [run, List.foldl_append]
      rfl
    rw [hrun, revoked_next, ih, or_assoc]
    refine or_congr_right ?_
    constructor
    · rintro (⟨before, tx', after, rfl, hrevokes⟩ | hrevokes)
      · exact ⟨before, tx', after ++ [tx], by simp, hrevokes⟩
      · exact ⟨txs, tx, [], rfl, hrevokes⟩
    · rintro ⟨before, tx', after, heq, hrevokes⟩
      rcases List.eq_nil_or_concat after with rfl | ⟨after, tx'', rfl⟩
      · obtain ⟨rfl, hlast⟩ := List.append_inj' heq rfl
        obtain rfl := List.cons.inj hlast |>.1
        exact .inr hrevokes
      · rw [List.concat_eq_append, ← List.cons_append, ← List.append_assoc] at heq
        obtain ⟨rfl, -⟩ := List.append_inj' heq rfl
        exact .inl ⟨before, tx', after, rfl, hrevokes⟩

end Revoked

end Entry

/-! ### The contracts -/

section Perform

variable (R : PermissionedResolver) (hpermits : R.Permits) (keccak256 : Bytes → Word) (c : Contracts)

def perform (s : R.State) (tx : Address × EnsCall) : R.State :=
  match tx.2 with
  | .resolver call => R.transact s (tx.1, call)
  | .contracts call => (c.step R hpermits keccak256 s (tx.1, call)).2

def performAll (s : R.State) (txs : List (Address × EnsCall)) : R.State :=
  txs.foldl (perform R hpermits keccak256 c) s

end Perform

/-- The account sends a transaction, where those that call the resolver themselves are `direct`. -/
def Sends (direct : Address → Prop) (tx : Address × EnsCall) : Prop :=
  match tx.2 with
  | .resolver _ => direct tx.1
  | .contracts _ => True

/-- The roles for the records of a node. -/
structure Parties.Roles (P : Parties) (direct : Address → Prop) (t : ResolverStore) : Prop where
  operationalKey : ∀ r ∈ operationalRecords P.node, t.mayWrite r P.operationalKey = true
  watchdog : t.mayWrite (.data P.node DataKey.status.name) P.contracts.watchdog.address = true
  refresher : t.mayWrite (.data P.node DataKey.attestationBuildHash.name) P.contracts.refresher.address =
    P.mayRefresh
  others : ∀ account, direct account → ∀ r : Record, r.node = P.node → t.mayWrite r account = true →
    account = P.operationalKey ∧ r ∈ operationalRecords P.node
  grants : ∀ account, direct account → ∀ r, t.mayGrant r account = false

/-- The records of the node are those of the entry. -/
structure Shows (P : Parties) (payoutAddress : Address) (e : Entry) (t : Records) : Prop where
  endpoint : t.text P.node .endpoint = e.endpoint
  tiersSupported : t.text P.node .tiersSupported = e.tiersSupported
  attestationBuildHash : t.data P.node .attestationBuildHash = e.attestationBuildHash
  payoutAddress : t.data P.node .payoutAddress = (addressWord payoutAddress).toBytes
  status : t.data P.node .status = statusData e.status

/-! ### Writes -/

section Writes

variable {R : PermissionedResolver} {P : Parties} {direct : Address → Prop} {payoutAddress : Address}
  {e : Entry} {s s' : R.State} {t t' : ResolverStore} {sender : Address} {node : Word}

theorem Parties.Roles.apply_write (h : P.Roles direct t) (r : Record) (v : r.Value) :
    P.Roles direct (t.apply (.write r v)) :=
  ⟨h.operationalKey, h.watchdog, h.refresher, h.others, h.grants⟩

theorem Parties.Roles.call (h : P.Roles direct (R.store s)) {key : DataKey} {value : Bytes}
    (hcall : R.call s sender (.setData node key.name value) = some s') : P.Roles direct (R.store s') := by
  rw [(R.call_eq_some hcall).2]
  exact h.apply_write _ _

theorem Shows.setText (h : Shows P payoutAddress e (R.records s)) {key : TextKey} {value : String}
    (hcall : R.call s sender (.setText P.node key.name value) = some s') :
    Shows P payoutAddress (e.setText value key) (R.records s') := by
  rw [records_setText hcall]
  cases key with
  | endpoint =>
    constructor
    · simp [Records.setText, Entry.setText]
    · simpa [Records.setText, Entry.setText] using h.tiersSupported
    · exact h.attestationBuildHash
    · exact h.payoutAddress
    · exact h.status
  | tiersSupported =>
    constructor
    · simpa [Records.setText, Entry.setText] using h.endpoint
    · simp [Records.setText, Entry.setText]
    · exact h.attestationBuildHash
    · exact h.payoutAddress
    · exact h.status

theorem Shows.setHash (h : Shows P payoutAddress e (R.records s)) {value : Bytes}
    (hcall : R.call s sender (.setData P.node DataKey.attestationBuildHash.name value) = some s') :
    Shows P payoutAddress { e with attestationBuildHash := value } (R.records s') := by
  rw [records_setData hcall]
  constructor
  · exact h.endpoint
  · exact h.tiersSupported
  · simp [Records.setData]
  · simpa [Records.setData] using h.payoutAddress
  · simpa [Records.setData, Entry.status] using h.status

theorem Shows.setRevoked (h : Shows P payoutAddress e (R.records s))
    (hcall : R.call s sender (.setData P.node DataKey.status.name statusRevoked) = some s') :
    Shows P payoutAddress { e with revoked := true } (R.records s') := by
  rw [records_setData hcall]
  constructor
  · exact h.endpoint
  · exact h.tiersSupported
  · simpa [Records.setData] using h.attestationBuildHash
  · simpa [Records.setData] using h.payoutAddress
  · simp only [Records.data_setData_self]
    rfl

/-- Other records do not matter. -/
theorem Shows.write (h : Shows P payoutAddress e (R.records s)) {r : Record} {v : r.Value}
    (hstore : R.store s' = (R.store s).apply (.write r v)) (htext : ∀ key : TextKey, r ≠ .text P.node key.name)
    (hdata : ∀ key : DataKey, r ≠ .data P.node key.name) : Shows P payoutAddress e (R.records s') := by
  have htext' (key : TextKey) : (R.records s').text P.node key = (R.records s).text P.node key := by
    change (R.store s').value _ = (R.store s).value _
    rw [hstore]
    exact Store.value_write_of_ne _ (htext key).symm
  have hdata' (key : DataKey) : (R.records s').data P.node key = (R.records s).data P.node key := by
    change (R.store s').value _ = (R.store s).value _
    rw [hstore]
    exact Store.value_write_of_ne _ (hdata key).symm
  exact ⟨(htext' _).trans h.endpoint, (htext' _).trans h.tiersSupported,
    (hdata' _).trans h.attestationBuildHash, (hdata' _).trans h.payoutAddress, (hdata' _).trans h.status⟩

theorem Shows.elsewhere (h : Shows P payoutAddress e (R.records s)) {key : DataKey} {value : Bytes}
    (hcall : R.call s sender (.setData node key.name value) = some s') (hne : node ≠ P.node) :
    Shows P payoutAddress e (R.records s') := by
  refine h.write (R.call_eq_some hcall).2 (fun _ heq => by cases heq) fun _ heq => hne ?_
  exact (Record.data.inj heq).1

end Writes

/-! ### One call -/

/-- The state shows the entry, and everyone has their roles. -/
structure Kept (P : Parties) (direct : Address → Prop) (payoutAddress : Address) (R : PermissionedResolver)
    (e : Entry) (s : R.State) : Prop where
  shows : Shows P payoutAddress e (R.records s)
  roles : P.Roles direct (R.store s)

section Calls

variable {R : PermissionedResolver} {hpermits : R.Permits} {keccak256 : Bytes → Word} {P : Parties}
  {direct : Address → Prop} {payoutAddress : Address} {e : Entry} {s s' : R.State} {sender : Address}
  {node : Word} {reason : String}

theorem Kept.status_eq (h : Kept P direct payoutAddress R e s)
    (hkeccak : keccak256 (statusData .active) ≠ keccak256 (statusData .revoked))
    (hrevoked : keccak256 ((R.toResolver hpermits).data s P.node .status) = keccak256 statusRevoked) :
    e.revoked = true := by
  have hstatus : (R.toResolver hpermits).data s P.node .status = statusData e.status := h.shows.status
  rw [hstatus] at hrevoked
  cases hr : e.revoked with
  | true => rfl
  | false =>
    rw [Entry.status, hr] at hrevoked
    exact absurd hrevoked hkeccak

theorem Kept.revoke (h : Kept P direct payoutAddress R e s)
    (hkeccak : keccak256 (statusData .active) ≠ keccak256 (statusData .revoked))
    {returned : Returned (R.toResolver hpermits)}
    (hrevoke : P.contracts.watchdog.revoke keccak256 s sender node reason = .ok returned) :
    Kept P direct payoutAddress R (if node = P.node then { e with revoked := true } else e)
      returned.state := by
  rcases WatchdogRevoker.revoke_eq_ok hrevoke with ⟨hsame, hstate⟩ | ⟨-, hset⟩
  · rw [hstate]
    split
    · next heq =>
      rw [heq] at hsame
      have hrevoked := h.status_eq hkeccak hsame
      rw [← hrevoked]
      exact h
    · exact h
  · refine ⟨?_, h.roles.call hset⟩
    split
    · next heq =>
      subst heq
      exact h.shows.setRevoked hset
    · next hne => exact h.shows.elsewhere hset hne

theorem Kept.exists_revoke (h : Kept P direct payoutAddress R e s) (hpermits : R.Permits)
    (keccak256 : Bytes → Word) (sender : Address) (reason : String) :
    ∃ returned, P.contracts.watchdog.revoke (R := R.toResolver hpermits) keccak256 s sender P.node reason =
      .ok returned :=
  WatchdogRevoker.exists_revoke (R := R.toResolver hpermits) h.roles.watchdog keccak256 sender reason

theorem Kept.adminRevoke (h : Kept P direct payoutAddress R e s)
    (hkeccak : keccak256 (statusData .active) ≠ keccak256 (statusData .revoked)) (sender : Address)
    (node : Word) : Kept P direct payoutAddress R
      (e.next P keccak256 (sender, .contracts (.adminRevoke node)))
      (P.contracts.step R hpermits keccak256 s (sender, .adminRevoke node)).2 := by
  simp only [Entry.next]
  rcases hresult : P.contracts.watchdog.adminRevoke (R := R.toResolver hpermits) keccak256 s sender node with
    error | returned
  · rw [Contracts.step_adminRevoke hresult]
    rw [if_neg]
    · exact h
    rintro ⟨rfl, hsender⟩
    obtain ⟨returned, hrevoke⟩ := h.exists_revoke hpermits keccak256 sender
      "admin_manual_revoke"
    cases hresult.symm.trans (WatchdogRevoker.adminRevoke_of_revoke hsender hrevoke)
  · obtain ⟨hsender, returned', hrevoke, hstate⟩ := WatchdogRevoker.adminRevoke_eq_ok hresult
    have hkept := h.revoke hkeccak hrevoke
    rw [← hstate] at hkept
    rw [Contracts.step_adminRevoke hresult]
    simp only [hsender, and_true]
    exact hkept

theorem Kept.submitAttestationCheck (h : Kept P direct payoutAddress R e s)
    (hkeccak : keccak256 (statusData .active) ≠ keccak256 (statusData .revoked)) (sender : Address)
    (node : Word) (report : Bytes) : Kept P direct payoutAddress R
      (e.next P keccak256 (sender, .contracts (.submitAttestationCheck node report)))
      (P.contracts.step R hpermits keccak256 s (sender, .submitAttestationCheck node report)).2 := by
  have hdata : (R.toResolver hpermits).data s P.node .attestationBuildHash = e.attestationBuildHash :=
    h.shows.attestationBuildHash
  simp only [Entry.next]
  rcases hresult : P.contracts.watchdog.submitAttestationCheck (R := R.toResolver hpermits) keccak256 s
    sender node report with error | returned
  · rw [Contracts.step_submitAttestationCheck hresult, if_neg]
    · exact h
    rintro ⟨rfl, hlong, hmismatch⟩
    rw [← hdata] at hlong hmismatch
    obtain ⟨returned, hrevoke⟩ := h.exists_revoke hpermits keccak256 sender
      "attestation_mismatch"
    rw [WatchdogRevoker.submitAttestationCheck_of_long hlong, if_neg hmismatch, hrevoke] at hresult
    cases hresult
  rw [Contracts.step_submitAttestationCheck hresult]
  by_cases hnode : node = P.node
  · subst hnode
    rcases Nat.lt_or_ge e.attestationBuildHash.length 32 with hshort | hlong
    · rw [← hdata] at hshort
      cases hresult.symm.trans (WatchdogRevoker.submitAttestationCheck_of_short hshort)
    have hlong' := hlong
    rw [← hdata] at hlong'
    have hcheck := hresult.symm.trans (WatchdogRevoker.submitAttestationCheck_of_long hlong')
    rw [hdata] at hcheck
    by_cases hmatches : keccak256 report = Word.ofBytes e.attestationBuildHash
    · rw [if_pos hmatches] at hcheck
      obtain rfl := Except.ok.inj hcheck
      rw [if_neg fun hrevokes => hrevokes.2.2 hmatches]
      exact h
    · rw [if_neg hmatches] at hcheck
      have hkept := h.revoke hkeccak hcheck.symm
      rw [if_pos rfl] at hkept
      rw [if_pos ⟨rfl, hlong, hmatches⟩]
      exact hkept
  · rw [if_neg fun hrevokes => hnode hrevokes.1]
    rcases WatchdogRevoker.submitAttestationCheck_eq_ok hresult with hstate | hrevoke
    · change Kept P direct payoutAddress R e returned.state
      rw [hstate]
      exact h
    · have hkept := h.revoke hkeccak hrevoke
      rw [if_neg hnode] at hkept
      exact hkept

theorem Kept.onReport (h : Kept P direct payoutAddress R e s) (sender : Address) (metadata report : Bytes) :
    Kept P direct payoutAddress R (e.next P keccak256 (sender, .contracts (.onReport metadata report)))
      (P.contracts.step R hpermits keccak256 s (sender, .onReport metadata report)).2 := by
  simp only [Entry.next]
  rcases hreported : P.contracts.refresher.reported sender metadata report with _ | ⟨node, newHash⟩
  · obtain ⟨error, herror⟩ := AttestationRefresherReceiver.onReport_of_not_reported
      (R := R.toResolver hpermits) (s := s) hreported
    rw [Contracts.step_onReport herror]
    exact h
  rcases hresult : P.contracts.refresher.onReport (R := R.toResolver hpermits) s sender metadata report with
    error | refreshed
  · have hsame : e.refresh P (some (node, newHash)) = e := by
      refine if_neg ?_
      rintro ⟨hrefresh, rfl⟩
      obtain ⟨refreshed, hok⟩ := AttestationRefresherReceiver.exists_onReport (R := R.toResolver hpermits)
        hreported (h.roles.refresher.trans hrefresh)
      cases hresult.symm.trans hok
    rw [Contracts.step_onReport hresult, hsame]
    exact h
  · obtain ⟨hreported', hset⟩ := AttestationRefresherReceiver.onReport_eq_ok hresult
    obtain ⟨hnode, hhash⟩ := Prod.mk.inj (Option.some.inj (hreported.symm.trans hreported'))
    rw [Contracts.step_onReport hresult]
    rw [← hnode, ← hhash] at hset
    refine ⟨?_, h.roles.call hset⟩
    by_cases heq : node = P.node
    · subst heq
      have hrefresh : P.mayRefresh = true := by
        rw [← h.roles.refresher]
        exact (R.call_eq_some hset).1
      have hwritten : e.refresh P (some (P.node, newHash)) = { e with attestationBuildHash := newHash.toBytes } :=
        if_pos ⟨hrefresh, rfl⟩
      rw [hwritten]
      exact h.shows.setHash hset
    · have hsame : e.refresh P (some (node, newHash)) = e := if_neg fun hwrites => heq hwrites.2
      rw [hsame]
      exact h.shows.elsewhere hset heq

theorem node_of_mem_operationalRecords {r : Record} (h : r ∈ operationalRecords node) : r.node = node := by
  simp only [operationalRecords, List.mem_cons, List.not_mem_nil, or_false] at h
  rcases h with rfl | rfl | rfl <;> rfl

theorem publish_setText_of_not_mem {key value : String}
    (h : .text node key ∉ operationalRecords P.node) : e.publish P.node (.setText node key value) = e := by
  have hendpoint : ¬ (node = P.node ∧ key = TextKey.endpoint.name) := by
    rintro ⟨rfl, rfl⟩
    exact h (by simp [operationalRecords])
  have htiers : ¬ (node = P.node ∧ key = TextKey.tiersSupported.name) := by
    rintro ⟨rfl, rfl⟩
    exact h (by simp [operationalRecords])
  rw [Entry.publish, if_neg hendpoint, if_neg htiers]

theorem publish_setData_of_not_mem {key : String} {value : Bytes}
    (h : .data node key ∉ operationalRecords P.node) : e.publish P.node (.setData node key value) = e := by
  refine if_neg ?_
  rintro ⟨rfl, rfl⟩
  exact h (by simp [operationalRecords])

/-- A call that reverts changes nothing. -/
theorem transact_of_not_allows {call : ResolverCall}
    (h : (R.store s).allows sender (call.access R.nodeOf) ≠ true) : R.transact s (sender, call) = s := by
  unfold transact
  rcases hcall : R.call s sender call with _ | s'
  · rfl
  · exact absurd (R.call_eq_some hcall).1 h

theorem Kept.not_allows_authorize (h : Kept P direct payoutAddress R e s) (hdirect : direct sender) (r : Record)
    (account : Address) (grant : Bool) : (R.store s).allows sender (.authorize r account grant) ≠ true := by
  change (R.store s).mayGrant r sender ≠ true
  rw [h.roles.grants sender hdirect]
  decide

theorem Kept.setText (h : Kept P direct payoutAddress R e s) (hpermits : R.Permits) (hdirect : direct sender)
    (node : Word) (key value : String) : Kept P direct payoutAddress R
      (e.next P keccak256 (sender, .resolver (.setText node key value)))
      (R.transact s (sender, .setText node key value)) := by
  simp only [Entry.next]
  by_cases hallows : (R.store s).mayWrite (.text node key) sender = true
  · obtain ⟨s', hcall⟩ := hpermits s sender (.setText node key value) hallows
    have hstore := (R.call_eq_some hcall).2
    have hroles : P.Roles direct (R.store s') := by
      rw [hstore]
      exact h.roles.apply_write _ _
    rw [transact, hcall, Option.getD_some]
    refine ⟨?_, hroles⟩
    by_cases hnode : node = P.node
    · subst hnode
      obtain ⟨rfl, hmem⟩ := h.roles.others sender hdirect _ rfl hallows
      rw [if_pos rfl]
      have hkey : key = TextKey.endpoint.name ∨ key = TextKey.tiersSupported.name := by
        simpa [operationalRecords] using hmem
      rcases hkey with rfl | rfl
      · rw [Entry.publish, if_pos ⟨rfl, rfl⟩]
        exact h.shows.setText hcall
      · rw [Entry.publish, if_neg (by simp [TextKey.name_inj]), if_pos ⟨rfl, rfl⟩]
        exact h.shows.setText hcall
    · have hsame : e.publish P.node (.setText node key value) = e :=
        publish_setText_of_not_mem fun hmem => hnode (node_of_mem_operationalRecords hmem)
      rw [hsame, ite_self]
      refine h.shows.write hstore (fun key' heq => hnode ?_) (fun key' heq => by cases heq)
      exact (Record.text.inj heq).1
  · have hsame : R.transact s (sender, .setText node key value) = s := transact_of_not_allows hallows
    rw [hsame]
    split
    · next hsender =>
      subst hsender
      rw [publish_setText_of_not_mem fun hmem => hallows (h.roles.operationalKey _ hmem)]
      exact h
    · exact h

theorem Kept.setData (h : Kept P direct payoutAddress R e s) (hpermits : R.Permits) (hdirect : direct sender)
    (node : Word) (key : String) (value : Bytes) : Kept P direct payoutAddress R
      (e.next P keccak256 (sender, .resolver (.setData node key value)))
      (R.transact s (sender, .setData node key value)) := by
  simp only [Entry.next]
  by_cases hallows : (R.store s).mayWrite (.data node key) sender = true
  · obtain ⟨s', hcall⟩ := hpermits s sender (.setData node key value) hallows
    have hstore := (R.call_eq_some hcall).2
    have hroles : P.Roles direct (R.store s') := by
      rw [hstore]
      exact h.roles.apply_write _ _
    rw [transact, hcall, Option.getD_some]
    refine ⟨?_, hroles⟩
    by_cases hnode : node = P.node
    · subst hnode
      obtain ⟨rfl, hmem⟩ := h.roles.others sender hdirect _ rfl hallows
      obtain rfl : key = DataKey.attestationBuildHash.name := by simpa [operationalRecords] using hmem
      rw [if_pos rfl, Entry.publish, if_pos ⟨rfl, rfl⟩]
      exact h.shows.setHash hcall
    · have hsame : e.publish P.node (.setData node key value) = e :=
        publish_setData_of_not_mem fun hmem => hnode (node_of_mem_operationalRecords hmem)
      rw [hsame, ite_self]
      refine h.shows.write hstore (fun key' heq => by cases heq) (fun key' heq => hnode ?_)
      exact (Record.data.inj heq).1
  · have hsame : R.transact s (sender, .setData node key value) = s := transact_of_not_allows hallows
    rw [hsame]
    split
    · next hsender =>
      subst hsender
      rw [publish_setData_of_not_mem fun hmem => hallows (h.roles.operationalKey _ hmem)]
      exact h
    · exact h

/-- **What a call does.** -/
theorem Kept.perform (h : Kept P direct payoutAddress R e s)
    (hkeccak : keccak256 (statusData .active) ≠ keccak256 (statusData .revoked)) {tx : Address × EnsCall}
    (hsends : Sends direct tx) : Kept P direct payoutAddress R (e.next P keccak256 tx)
      (perform R hpermits keccak256 P.contracts s tx) := by
  obtain ⟨sender, call⟩ := tx
  cases call with
  | contracts call =>
    cases call with
    | submitAttestationCheck node report => exact h.submitAttestationCheck hkeccak sender node report
    | submitMisbehaviorProof node proof => exact h
    | adminRevoke node => exact h.adminRevoke hkeccak sender node
    | onReport metadata report => exact h.onReport sender metadata report
  | resolver call =>
    have hauthorize (r : Record) (account : Address) (grant : Bool)
        (haccess : call.access R.nodeOf = .authorize r account grant) (hpublish : e.publish P.node call = e) :
        Kept P direct payoutAddress R (e.next P keccak256 (sender, .resolver call))
          (R.transact s (sender, call)) := by
      have hnot := h.not_allows_authorize hsends r account grant
      rw [← haccess] at hnot
      rw [transact_of_not_allows hnot]
      simp only [Entry.next, hpublish, ite_self]
      exact h
    cases call with
    | setText node key value => exact h.setText hpermits hsends node key value
    | setData node key value => exact h.setData hpermits hsends node key value
    | authorizeTextRoles toName key account grant => exact hauthorize _ _ _ rfl rfl
    | authorizeDataRoles toName key account grant => exact hauthorize _ _ _ rfl rfl

theorem Kept.performAll (h : Kept P direct payoutAddress R e s) (hpermits : R.Permits)
    (hkeccak : keccak256 (statusData .active) ≠ keccak256 (statusData .revoked))
    {txs : List (Address × EnsCall)} (htxs : ∀ tx ∈ txs, Sends direct tx) :
    Kept P direct payoutAddress R (e.run P keccak256 txs)
      (performAll R hpermits keccak256 P.contracts s txs) := by
  induction txs generalizing e s with
  | nil => exact h
  | cons tx txs ih =>
    obtain ⟨htx, htxs⟩ := List.forall_mem_cons.mp htxs
    exact ih (h.perform hkeccak htx) htxs

end Calls

/-! ### Reading -/

/-- `readCapabilityRecord`, on an entry. -/
def Entry.read (e : Entry) (client : Client) (operatorName operationalKey payoutAddress : String) :
    Except ReadError CapabilityRecord :=
  match Json.parse (decodeText e.tiersSupported).toList with
  | none => .error .jsonParse
  | some tiersSupported =>
      (RawCapabilityRecord.parse client.isUrl ⟨operatorName, operationalKey, payoutAddress,
        decodeText e.endpoint, tiersSupported, e.status.name,
        bytesToHex e.attestationBuildHash⟩).mapError .schema

theorem Shows.read {client : Client} (hclient : client.Documented) {P : Parties} {payoutAddress : Address}
    {e : Entry} {t : Records} {operatorName : String} (h : Shows P payoutAddress e t)
    (hnode : P.node = client.namehash operatorName) {payout : String}
    (hdecode : client.decodeAddress (addressWord payoutAddress).toBytes = some payout) (operationalKey : String) :
    readCapabilityRecord client t.reads operatorName operationalKey =
      e.read client operatorName operationalKey payout := by
  have hstatus := hclient.hexToString e.status
  simp only [readCapabilityRecord, Records.reads, ← hnode, h.endpoint, h.tiersSupported,
    h.attestationBuildHash, h.payoutAddress, h.status, hdecode, hstatus, Entry.read]
  cases Json.parse (decodeText e.tiersSupported).toList <;> rfl

/-- What is read comes from the entry. -/
theorem read_eq_ok {e : Entry} {client : Client} {operatorName operationalKey payout : String}
    {record : CapabilityRecord} (h : e.read client operatorName operationalKey payout = .ok record) :
    record.status = e.status ∧ record.attestationBuildHash = bytesToHex e.attestationBuildHash := by
  unfold Entry.read at h
  split at h
  · cases h
  next tiersSupported _ =>
  generalize hraw : (⟨operatorName, operationalKey, payout, decodeText e.endpoint, tiersSupported,
    e.status.name, bytesToHex e.attestationBuildHash⟩ : RawCapabilityRecord) = raw at h
  have hname : RelayStatus.safeParse raw.status = some e.status := by
    rw [← hraw]
    exact safeParse_name e.status
  unfold RawCapabilityRecord.parse at h
  split at h
  · next hsome =>
    obtain rfl := Except.ok.inj h
    refine ⟨Option.some.inj (hsome.symm.trans hname), ?_⟩
    rw [← hraw]
  · cases h

theorem exists_read {e : Entry} {client : Client} {operatorName operationalKey payout : String}
    (h : (e.read client operatorName operationalKey payout).toOption.isSome = true) :
    ∃ record, e.read client operatorName operationalKey payout = .ok record := by
  cases hread : e.read client operatorName operationalKey payout with
  | error error =>
    rw [hread] at h
    cases h
  | ok record => exact ⟨record, rfl⟩

/-! ### Registration -/

/-- The entry of an operator that has just been registered. -/
def RegisterOperatorParams.entry (params : RegisterOperatorParams) : Entry :=
  ⟨params.endpoint, stringifyTiers params.tiersSupported, params.attestationBuildHash, false⟩

/-- The admin may give the refresher its role for an operator. -/
inductive Grants (R : PermissionedResolver) (admin refresher : Address) (operatorName : String) :
    Bool → R.State → R.State → Prop
  | never (s : R.State) : Grants R admin refresher operatorName false s s
  | granted {toName : Bytes} {s s' : R.State} : encodeDnsName operatorName = .ok toName →
      R.call s admin (.authorizeDataRoles toName DataKey.attestationBuildHash.name refresher true) = some s' →
      Grants R admin refresher operatorName true s s'

section Registration

variable {R : PermissionedResolver} {namehash : String → Word}
  {registryAddress resolverAddress admin : Address} {params : RegisterOperatorParams}
  {ops : List RegisterOperatorParams} {s₀ s₁ s₂ : R.State} {c : Contracts} {mayRefresh : Bool}

/-- Those who call the resolver themselves: neither the admin nor one of the contracts. -/
def Direct (admin : Address) (ops : List RegisterOperatorParams) (c : Contracts) (account : Address) : Prop :=
  Outsider admin ops account ∧ account ≠ c.refresher.address

/-- The parties of an operator. -/
def RegisterOperatorParams.parties (params : RegisterOperatorParams) (namehash : String → Word) (c : Contracts)
    (mayRefresh : Bool) : Parties :=
  ⟨namehash params.name, params.operationalKeyAddress, c, mayRefresh⟩

theorem parties_shows (hreads : ReadsNames R namehash)
    (hlabels : ∀ params ∈ ops, NoEmptyLabels params.name)
    (hreg : Registers R namehash registryAddress resolverAddress admin ops s₀ s₁)
    (hnames : (ops.map RegisterOperatorParams.name).Nodup)
    (hhash : ∀ p ∈ ops, ∀ q ∈ ops, namehash p.name = namehash q.name → p.name = q.name)
    (hparams : params ∈ ops) :
    Shows (params.parties namehash c mayRefresh) params.payoutAddress params.entry (R.records s₁) := by
  have hstore := hreg.store_eq hreads hlabels
  obtain ⟨before, after, rfl⟩ := List.append_of_mem hparams
  have hafter : ∀ q ∈ after, namehash q.name ≠ namehash params.name := by
    intro q hq heq
    have hname := hhash q (by simp [hq]) params hparams heq
    rw [List.map_append, List.map_cons, List.nodup_append, List.nodup_cons] at hnames
    exact hnames.2.1.1 (hname ▸ List.mem_map_of_mem hq)
  have hvalue (r : Record) (v : r.Value) (n : ℕ) (rest : List (Call Record Address Record.Value))
      (hnode : r.node = namehash params.name)
      (hsplit : registrationAccesses params (namehash params.name) (namehash params.name) =
        (registrationAccesses params (namehash params.name) (namehash params.name)).take n ++ .write r v :: rest)
      (hrest : ∀ v, .write r v ∉ rest) : (R.store s₁).value r = v := by
    rw [hstore]
    exact value_allAccesses _ hafter hnode hsplit hrest
  constructor
  · exact hvalue (.text _ TextKey.endpoint.name) _ 0 _ rfl rfl (by simp [TextKey.name_inj])
  · exact hvalue (.text _ TextKey.tiersSupported.name) _ 1 _ rfl rfl (by simp)
  · exact hvalue (.data _ DataKey.attestationBuildHash.name) _ 2 _ rfl rfl (by simp [DataKey.name_inj])
  · exact hvalue (.data _ DataKey.payoutAddress.name) _ 3 _ rfl rfl (by simp [DataKey.name_inj])
  · exact hvalue (.data _ DataKey.status.name) _ 4 _ rfl rfl (by simp)

/-- A role that a registration hands out is held after all of them. -/
theorem mayWrite_registered (hreads : ReadsNames R namehash)
    (hlabels : ∀ params ∈ ops, NoEmptyLabels params.name)
    (hreg : Registers R namehash registryAddress resolverAddress admin ops s₀ s₁) (hparams : params ∈ ops)
    {r : Record} {account : Address} (hmem : .authorize r account true ∈
      registrationAccesses params (namehash params.name) (namehash params.name)) :
    (R.store s₁).mayWrite r account = true := by
  rw [hreg.store_eq hreads hlabels]
  refine Store.mayWrite_applyAll_of_not_mem ?_ (.inr (List.mem_flatMap.mpr ⟨params, hparams, hmem⟩))
  intro hrevoke
  obtain ⟨q, -, hq⟩ := List.mem_flatMap.mp hrevoke
  simp [registrationAccesses] at hq

theorem parties_roles (hreads : ReadsNames R namehash) (hadmin : OnlyAdmin admin (R.store s₀))
    (hlabels : ∀ params ∈ ops, NoEmptyLabels params.name)
    (hreg : Registers R namehash registryAddress resolverAddress admin ops s₀ s₁)
    (hnames : (ops.map RegisterOperatorParams.name).Nodup)
    (hhash : ∀ p ∈ ops, ∀ q ∈ ops, namehash p.name = namehash q.name → p.name = q.name)
    (hparams : params ∈ ops) (hwatchdog : c.watchdog.address = params.watchdogAddress)
    (hrefresher : Outsider admin ops c.refresher.address)
    (hkey : c.refresher.address ≠ params.operationalKeyAddress) :
    (params.parties namehash c false).Roles (Direct admin ops c) (R.store s₁) := by
  have hmay {account : Address} (h : Outsider admin ops account) {r : Record}
      (hnode : r.node = namehash params.name) (hwrite : (R.store s₁).mayWrite r account = true) :
      account = params.operationalKeyAddress ∧ r ∈ operationalRecords (namehash params.name) := by
    obtain ⟨q, hq, haccount, hr⟩ := mayWrite_outsider hreads hadmin hlabels hreg h hwrite
    have hname := hhash q hq params hparams ((node_of_mem_operationalRecords hr).symm.trans hnode)
    obtain rfl : q = params := List.inj_on_of_nodup_map hnames hq hparams hname
    exact ⟨haccount, hr⟩
  constructor
  · intro r hr
    apply mayWrite_registered hreads hlabels hreg hparams
    simp only [operationalRecords, RegisterOperatorParams.parties, List.mem_cons, List.not_mem_nil,
      or_false] at hr
    rcases hr with rfl | rfl | rfl <;> simp [registrationAccesses, RegisterOperatorParams.parties]
  · rw [RegisterOperatorParams.parties, hwatchdog]
    apply mayWrite_registered hreads hlabels hreg hparams
    simp [registrationAccesses]
  · refine Bool.eq_false_iff.mpr fun hwrite => hkey ?_
    exact (hmay hrefresher rfl hwrite).1
  · intro account haccount r hnode hwrite
    exact hmay haccount.1 hnode hwrite
  · intro account haccount r
    exact mayGrant_outsider hreads hadmin hlabels hreg haccount.1 r

/-- With its role, the refresher can write the hash of the operator, and nobody else can do
    more than before. -/
theorem Parties.Roles.granted {P : Parties} {t : ResolverStore}
    (h : P.Roles (Direct admin ops P.contracts) t) :
    Parties.Roles { P with mayRefresh := true } (Direct admin ops P.contracts)
      (t.apply (.authorize (.data P.node DataKey.attestationBuildHash.name) P.contracts.refresher.address
        true)) := by
  have hmore {r : Record} {account : Address} (hwrite : t.mayWrite r account = true) :
      (t.apply (.authorize (.data P.node DataKey.attestationBuildHash.name) P.contracts.refresher.address
        true)).mayWrite r account = true := by
    change (t.applyAll [.authorize (.data P.node DataKey.attestationBuildHash.name)
      P.contracts.refresher.address true]).mayWrite r account = true
    exact Store.mayWrite_applyAll_of_not_mem (by simp) (.inl hwrite)
  constructor
  · exact fun r hr => hmore (h.operationalKey r hr)
  · exact hmore h.watchdog
  · exact Store.mayWrite_authorize_self t
  · intro account haccount r hnode hwrite
    rw [Store.mayWrite_authorize_of_ne t fun heq => haccount.2 heq.2] at hwrite
    exact h.others account haccount r hnode hwrite
  · intro account haccount r
    rw [Store.apply_mayGrant]
    exact h.grants account haccount r

theorem kept_registered (hreads : ReadsNames R namehash) (hadmin : OnlyAdmin admin (R.store s₀))
    (hlabels : ∀ params ∈ ops, NoEmptyLabels params.name)
    (hreg : Registers R namehash registryAddress resolverAddress admin ops s₀ s₁)
    (hnames : (ops.map RegisterOperatorParams.name).Nodup)
    (hhash : ∀ p ∈ ops, ∀ q ∈ ops, namehash p.name = namehash q.name → p.name = q.name)
    (hparams : params ∈ ops) (hwatchdog : c.watchdog.address = params.watchdogAddress)
    (hrefresher : Outsider admin ops c.refresher.address)
    (hkey : c.refresher.address ≠ params.operationalKeyAddress)
    (hgrants : Grants R admin c.refresher.address params.name mayRefresh s₁ s₂) :
    Kept (params.parties namehash c mayRefresh) (Direct admin ops c) params.payoutAddress R params.entry s₂ := by
  have hshows (b : Bool) : Shows (params.parties namehash c b) params.payoutAddress params.entry (R.records s₁) :=
    parties_shows hreads hlabels hreg hnames hhash hparams
  have hroles := parties_roles hreads hadmin hlabels hreg hnames hhash hparams hwatchdog hrefresher hkey
  cases hgrants with
  | never => exact ⟨hshows false, hroles⟩
  | granted hname hcall =>
    have hstore := (R.call_eq_some hcall).2
    have hnode := hreads.nodeOf_eq (hlabels params hparams) hname
    rw [ResolverCall.access, hnode] at hstore
    constructor
    · have h := hshows true
      have htext : (R.records s₂).text = (R.records s₁).text := by
        funext n key
        change (R.store s₂).value _ = (R.store s₁).value _
        rw [hstore, Store.value_authorize]
      have hdata : (R.records s₂).data = (R.records s₁).data := by
        funext n key
        change (R.store s₂).value _ = (R.store s₁).value _
        rw [hstore, Store.value_authorize]
      constructor
      · rw [htext]
        exact h.endpoint
      · rw [htext]
        exact h.tiersSupported
      · rw [hdata]
        exact h.attestationBuildHash
      · rw [hdata]
        exact h.payoutAddress
      · rw [hdata]
        exact h.status
    · rw [hstore]
      exact hroles.granted

end Registration

/-- **Discovery follows the entry.**  After the registrations, and after any calls of the
    resolver and of the two contracts, sent in any order by anyone but the admin: what
    discovery reads of an operator is the entry of the machine; and it reads "revoked"
    exactly where the admin of the watchdog has revoked the operator, or a check was sent
    with a report that did not match the hash of that time. -/
theorem discovery_follows {R : PermissionedResolver} (hpermits : R.Permits) {keccak256 : Bytes → Word}
    {client : Client} {registryAddress resolverAddress admin : Address} {params : RegisterOperatorParams}
    {ops : List RegisterOperatorParams} {s₀ s₁ s₂ : R.State} {c : Contracts} {mayRefresh : Bool}
    (hclient : client.Documented) (hreads : ReadsNames R client.namehash)
    (hkeccak : keccak256 (statusData .active) ≠ keccak256 (statusData .revoked))
    (hadmin : OnlyAdmin admin (R.store s₀)) (hlabels : ∀ params ∈ ops, NoEmptyLabels params.name)
    (hreg : Registers R client.namehash registryAddress resolverAddress admin ops s₀ s₁)
    (hnames : (ops.map RegisterOperatorParams.name).Nodup)
    (hhash : ∀ p ∈ ops, ∀ q ∈ ops, client.namehash p.name = client.namehash q.name → p.name = q.name)
    (hparams : params ∈ ops) (hwatchdog : c.watchdog.address = params.watchdogAddress)
    (hrefresher : Outsider admin ops c.refresher.address)
    (hkey : c.refresher.address ≠ params.operationalKeyAddress)
    (hgrants : Grants R admin c.refresher.address params.name mayRefresh s₁ s₂) :
    ∃ payoutAddress, Spells payoutAddress params.payoutAddress ∧
      ∀ (operationalKey : String) (txs : List (Address × EnsCall)), (∀ tx ∈ txs, Sends (Direct admin ops c) tx) →
        readCapabilityRecord client (R.records (performAll R hpermits keccak256 c s₂ txs)).reads params.name
            operationalKey =
          (params.entry.run (params.parties client.namehash c mayRefresh) keccak256 txs).read client params.name
            operationalKey payoutAddress ∧
        ∀ record, readCapabilityRecord client (R.records (performAll R hpermits keccak256 c s₂ txs)).reads
            params.name operationalKey = .ok record →
          (record.status = .revoked ↔ ∃ before tx after, txs = before ++ tx :: after ∧
            (params.entry.run (params.parties client.namehash c mayRefresh) keccak256 before).Revokes
              (params.parties client.namehash c mayRefresh) keccak256 tx) := by
  obtain ⟨payoutAddress, hdecode, hspells⟩ := hclient.decodeAddress params.payoutAddress
  refine ⟨payoutAddress, hspells, fun operationalKey txs htxs => ?_⟩
  have hkept := kept_registered hreads hadmin hlabels hreg hnames hhash hparams hwatchdog hrefresher hkey hgrants
  have hread := (hkept.performAll hpermits hkeccak htxs).shows.read hclient rfl hdecode operationalKey
  refine ⟨hread, fun record hrecord => ?_⟩
  have hstatus := (read_eq_ok (hread.symm.trans hrecord)).1
  have hrevoked : (params.entry.run (params.parties client.namehash c mayRefresh) keccak256 txs).revoked = true ↔
      params.entry.revoked = true ∨ _ := Entry.revoked_run
  have hactive : ¬ params.entry.revoked = true := by
    change ¬ false = true
    decide
  rw [or_iff_right hactive] at hrevoked
  rw [hstatus, Entry.status_eq_revoked, hrevoked]

/-! ### Calls for bob -/

namespace Sample

def deployedContracts : Contracts := ⟨revoker, ⟨12, 13, 0, 0, 0⟩⟩

/-- dave's key and bob's key write bob's endpoint, a report comes, and a check that does not match it. -/
def bobsCalls : List (Address × EnsCall) :=
  [(dave.operationalKeyAddress, .resolver (.setText (nameNode bob.name) TextKey.endpoint.name "https://dave.example")),
    (bob.operationalKeyAddress, .resolver (.setText (nameNode bob.name) TextKey.endpoint.name "https://new.example")),
    (13, .contracts (.onReport [] (abiEncode [nameNode bob.name, keccak256 statusActive]))),
    (8, .contracts (.submitAttestationCheck (nameNode bob.name) tampered))]

theorem labels_both : ∀ params ∈ [bob, dave], NoEmptyLabels params.name := by
  intro params hparams
  have hall : ∀ params ∈ [bob, dave], ∀ label ∈ params.name.toList.splitOn '.', label ≠ [] := by
    decide +kernel
  exact hall params hparams

theorem exists_granted : ∃ s₁ s₂,
    Registers (storeResolver readNames) reader.namehash 5 6 9 [bob, dave] fresh s₁ ∧
    Grants (storeResolver readNames) 9 deployedContracts.refresher.address bob.name true s₁ s₂ := by
  obtain ⟨s₁, hreg⟩ := exists_registered
  have hok : (encodeDnsName bob.name).toOption.isSome = true := by decide +kernel
  cases hname : encodeDnsName bob.name with
  | error err =>
    rw [hname] at hok
    cases hok
  | ok toName =>
    have hmay (r : Record) : ((storeResolver readNames).store s₁).mayGrant r 9 = true := by
      rw [hreg.store_eq readsNames labels_both, Store.applyAll_mayGrant]
      rfl
    obtain ⟨s₂, hcall⟩ := permits_storeResolver readNames s₁ 9 (.authorizeDataRoles toName
      DataKey.attestationBuildHash.name deployedContracts.refresher.address true) (hmay _)
    exact ⟨s₁, s₂, hreg, .granted hname hcall⟩

theorem sends_bobsCalls : ∀ tx ∈ bobsCalls, Sends (Direct 9 [bob, dave] deployedContracts) tx := by
  intro tx htx
  simp only [bobsCalls, List.mem_cons, List.not_mem_nil, or_false] at htx
  rcases htx with rfl | rfl | rfl | rfl
  · exact ⟨⟨by decide, by decide⟩, by decide⟩
  · exact ⟨⟨by decide, by decide⟩, by decide⟩
  · trivial
  · trivial

end Sample

open Sample in
/-- The endpoint is the one that bob's key wrote, the hash that of the report, and the check
    has revoked bob. -/
theorem discovery_follows_bob : ∃ s₁ s₂ payoutAddress,
    Registers (storeResolver readNames) reader.namehash 5 6 9 [bob, dave] fresh s₁ ∧
    Grants (storeResolver readNames) 9 deployedContracts.refresher.address bob.name true s₁ s₂ ∧
    Spells payoutAddress bob.payoutAddress ∧
    readCapabilityRecord reader ((storeResolver readNames).records (performAll (storeResolver readNames)
        (permits_storeResolver readNames) keccak256 deployedContracts s₂ bobsCalls)).reads bob.name
        "0x0000000000000000000000000000000000000002" =
      Entry.read ⟨"https://new.example", stringifyTiers bob.tiersSupported, (keccak256 statusActive).toBytes, true⟩
        reader bob.name "0x0000000000000000000000000000000000000002" payoutAddress := by
  obtain ⟨s₁, s₂, hreg, hgrants⟩ := exists_granted
  obtain ⟨payoutAddress, hspells, hfollows⟩ := discovery_follows (permits_storeResolver readNames)
    documented_reader readsNames
    (by decide +kernel : keccak256 (statusData .active) ≠ keccak256 (statusData .revoked)) onlyAdmin_fresh
    labels_both hreg (by decide) (by decide +kernel) (List.mem_cons_self : bob ∈ [bob, dave]) rfl
    (⟨by decide, by decide⟩ : Outsider 9 [bob, dave] deployedContracts.refresher.address) (by decide) hgrants
  have hrun : bob.entry.run (bob.parties reader.namehash deployedContracts true) keccak256 bobsCalls =
      ⟨"https://new.example", stringifyTiers bob.tiersSupported, (keccak256 statusActive).toBytes, true⟩ := by
    decide +kernel
  refine ⟨s₁, s₂, payoutAddress, hreg, hgrants, hspells, ?_⟩
  rw [← hrun]
  exact (hfollows "0x0000000000000000000000000000000000000002" bobsCalls sends_bobsCalls).1

end DVoD.Ens
