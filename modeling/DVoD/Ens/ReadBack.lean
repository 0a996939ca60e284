import DVoD.Ens.Client
import DVoD.Ens.OperationalKeys
import DVoD.Ens.Revocations

/-!
# What discovery reads back

The records that a registration writes, as `readCapabilityRecord` reads them: right after the
calls, and after any calls of the watchdog.  The functions of viem are as documented.
-/

namespace DVoD.Ens

open DVoD.Access DVoD.Evm DVoD.Session DVoD.Text PermissionedResolver

/-! ### Codecs -/

/-- The hexadecimal digits of an address, in lower case. -/
def addressDigits (a : Address) : List Char :=
  (bigEndian 20 a.toNat).flatMap fun b => [hexDigit (b.toNat / 16), hexDigit (b.toNat % 16)]

/-- The string is the address, up to the case of its letters. -/
def Spells (s : String) (a : Address) : Prop :=
  ∃ digits, s.toList = '0' :: 'x' :: digits ∧ digits.map Char.toLower = addressDigits a

def statusData (status : RelayStatus) : Bytes := Utf8.encode status.name.toList

/-- What is documented of the decoders, and of URLs: they start with a letter or a blank. -/
structure Client.Documented (client : Client) : Prop where
  decodeAddress : ∀ a, ∃ s, client.decodeAddress (addressWord a).toBytes = some s ∧ Spells s a
  hexToString : ∀ status, client.hexToString (statusData status) = status.name
  isUrl : ∀ s, client.isUrl s = true → s.toList.head? ≠ some '\uFEFF'

theorem length_addressDigits (a : Address) : (addressDigits a).length = 40 := by
  simp [addressDigits, List.length_flatMap]

theorem isHexDigit_addressDigits (a : Address) : ∀ c ∈ addressDigits a, Json.isHexDigit c = true := by
  intro c hc
  obtain ⟨b, -, hc⟩ := List.mem_flatMap.mp hc
  have hb : b.toNat < 256 := b.toNat_lt
  rcases List.mem_pair.mp hc with rfl | rfl
  · exact isHexDigit_hexDigit (by omega)
  · exact isHexDigit_hexDigit (by omega)

/-- A letter in upper case is the same digit. -/
theorem digitValue_toLower (c : Char) : JsNumber.digitValue c.toLower = JsNumber.digitValue c := by
  by_cases h : 65 ≤ c.toNat ∧ c.toNat ≤ 90
  · obtain ⟨hlow, hhigh⟩ := h
    rw [← Char.ofNat_toNat c]
    generalize c.toNat = n at hlow hhigh
    interval_cases n <;> decide
  · have hsame : c.toLower = c := by
      apply dif_neg
      simpa [UInt32.le_iff_toNat_le] using h
    rw [hsame]

theorem Spells.isEvmAddress {s : String} {a : Address} (h : Spells s a) : isEvmAddress s = true := by
  obtain ⟨digits, hs, hdigits⟩ := h
  have hlength : digits.length = 40 := by
    rw [← List.length_map (f := Char.toLower), hdigits, length_addressDigits]
  have hall : digits.all Json.isHexDigit = true := by
    rw [List.all_eq_true]
    intro c hc
    rw [Json.isHexDigit, ← digitValue_toLower]
    exact isHexDigit_addressDigits a _ (hdigits ▸ List.mem_map_of_mem hc)
  rw [Session.isEvmAddress, hs]
  simp [hlength, hall]

/-! ### The list of tiers -/

theorem feed_quotes {stack : List Json.Frame} (elements : List Json) (mayClose : Bool) (s : String)
    (ss : List String) :
    Json.feed ⟨.value mayClose, .array elements :: stack⟩ ([','].intercalate ((s :: ss).map quote) ++ [']']) =
      some ⟨.after (.array (elements.reverse ++ (s :: ss).map fun s => .string (utf16 s.toList))), stack⟩ := by
  induction ss generalizing elements mayClose s with
  | nil =>
    rw [List.map_singleton, List.intercalate_singleton, Json.feed_append, feed_quote, Option.bind_some]
    simp [Json.feed_cons, Json.step, Json.stepAfter, Json.isWhiteSpace]
  | cons s' ss ih =>
    have hcomma : Json.feed ⟨.after (.string (utf16 s.toList)), .array elements :: stack⟩ [','] =
        some ⟨.value false, .array (.string (utf16 s.toList) :: elements) :: stack⟩ := rfl
    rw [List.map_cons, List.map_cons, List.intercalate_cons_cons, List.append_assoc, List.append_assoc,
      Json.feed_append, feed_quote, Option.bind_some, Json.feed_append, hcomma, Option.bind_some,
      ← List.map_cons, ih]
    simp

theorem parse_stringifyTiers {tiers : List Tier} (hne : tiers ≠ []) :
    Json.parse (stringifyTiers tiers).toList =
      some (.array (tiers.map fun tier => .string (utf16 tier.name.toList))) := by
  obtain ⟨tier, rest, rfl⟩ := List.exists_cons_of_ne_nil hne
  have hopen : Json.step ⟨.value false, []⟩ '[' = some ⟨.value true, [.array []]⟩ := rfl
  have hmap : (tier :: rest).map (fun tier => quote tier.name) =
      (tier.name :: rest.map Tier.name).map quote := by simp
  rw [stringifyTiers, String.toList_ofList, Json.parse, List.cons_append, Json.feed_cons, hopen,
    Option.bind_some, hmap, feed_quotes]
  simp [Json.finish]

theorem decodeText_stringifyTiers (tiers : List Tier) :
    decodeText (stringifyTiers tiers) = stringifyTiers tiers :=
  decodeText_of_head (by simp [stringifyTiers])

theorem tierOfJson_name (tier : Tier) : tierOfJson (.string (utf16 tier.name.toList)) = some tier := by
  cases tier <;> decide

theorem tiersOfJson_names {tiers : List Tier} (hne : tiers ≠ []) :
    tiersOfJson (.array (tiers.map fun tier => .string (utf16 tier.name.toList))) = some tiers := by
  have hmap : ∀ tiers : List Tier,
      (tiers.map fun tier => Json.string (utf16 tier.name.toList)).mapM tierOfJson = some tiers := by
    intro tiers
    induction tiers with
    | nil => rfl
    | cons tier tiers ih =>
      rw [List.map_cons, List.mapM_cons, tierOfJson_name, ih]
      rfl
  obtain ⟨tier, rest, rfl⟩ := List.exists_cons_of_ne_nil hne
  exact hmap (tier :: rest)

/-! ### The records of a registration -/

/-- The node has the records that a registration writes, with some status. -/
structure Written (params : RegisterOperatorParams) (node : Word) (status : RelayStatus) (t : Records) :
    Prop where
  endpoint : t.text node .endpoint = params.endpoint
  tiersSupported : t.text node .tiersSupported = stringifyTiers params.tiersSupported
  attestationBuildHash : t.data node .attestationBuildHash = params.attestationBuildHash
  payoutAddress : t.data node .payoutAddress = (addressWord params.payoutAddress).toBytes
  status : t.data node .status = statusData status

section Registration

variable {R : PermissionedResolver} {namehash : String → Word} {registryAddress resolverAddress sender : Address}
  {params : RegisterOperatorParams} {calls : List ContractCall} {s s₀ : R.State}

theorem store_registered (hreads : ReadsNames R namehash) (hlabels : NoEmptyLabels params.name)
    (hbuild : buildRegisterOperatorCalls namehash registryAddress resolverAddress params = .ok calls)
    (hexec : R.executeAll sender s₀ calls = some s) :
    R.store s = (R.store s₀).applyAll
      (registrationAccesses params (namehash params.name) (namehash params.name)) := by
  rw [store_executeAll hexec, accesses_eq hreads hlabels hbuild]

/-- The calls write what they are given. -/
theorem written_of_store {node : Word}
    (h : R.store s = (R.store s₀).applyAll (registrationAccesses params node node)) :
    Written params node .active (R.records s) := by
  have hvalue (r : Record) (v : r.Value) (before after : List (Call Record Address Record.Value))
      (hcalls : registrationAccesses params node node = before ++ .write r v :: after)
      (hafter : ∀ v, .write r v ∉ after) : (R.store s).value r = v := by
    rw [h, hcalls]
    exact Store.value_applyAll_write hafter
  constructor
  · exact hvalue (.text node TextKey.endpoint.name) _ [] _ rfl (by simp [TextKey.name_inj])
  · exact hvalue (.text node TextKey.tiersSupported.name) _ [_] _ rfl (by simp)
  · exact hvalue (.data node DataKey.attestationBuildHash.name) _ [_, _] _ rfl (by simp [DataKey.name_inj])
  · exact hvalue (.data node DataKey.payoutAddress.name) _ [_, _, _] _ rfl (by simp [DataKey.name_inj])
  · exact hvalue (.data node DataKey.status.name) _ [_, _, _, _] _ rfl (by simp)

theorem value_of_store {node : Word}
    (h : R.store s = (R.store s₀).applyAll (registrationAccesses params node node)) {r : Record}
    (hr : r.node ≠ node) : (R.store s).value r = (R.store s₀).value r := by
  rw [h]
  apply Store.value_applyAll
  intro v hmem
  cases r with
  | text n key => simp [registrationAccesses, show n ≠ node from hr] at hmem
  | data n key => simp [registrationAccesses, show n ≠ node from hr] at hmem

theorem mayRevoke_of_store {node : Word}
    (h : R.store s = (R.store s₀).applyAll (registrationAccesses params node node)) :
    (R.store s).mayWrite (.data node DataKey.status.name) params.watchdogAddress = true := by
  rw [h]
  apply (Store.mayWrite_applyAll_iff (by simp [registrationAccesses])).mpr
  exact Or.inr (by simp [registrationAccesses])

end Registration

/-! ### Calls of the watchdog -/

section Watchdog

variable {c : Contracts} {R : PermissionedResolver} {hpermits : R.Permits} {keccak256 : Bytes → Word}
  {params : RegisterOperatorParams} {node n : Word} {status : RelayStatus} {s s' : R.State}
  {tx : Address × Transaction} {txs : List (Address × Transaction)}

/-- The node is registered, and the watchdog may write its status. -/
structure Watched (c : Contracts) (params : RegisterOperatorParams) (node : Word) (status : RelayStatus)
    (R : PermissionedResolver) (s : R.State) : Prop where
  written : Written params node status (R.records s)
  mayRevoke : (R.records s).maySetData node .status c.watchdog.address = true

theorem Watched.setStatus (h : Watched c params node status R s) {sender : Address}
    (hcall : R.call s sender (.setData n DataKey.status.name statusRevoked) = some s') :
    Watched c params node (if n = node then .revoked else status) R s' := by
  have hrecords := records_setData hcall
  have hdata (key : DataKey) : (R.records s').data node key =
      if n = node ∧ key = .status then statusRevoked else (R.records s).data node key := by
    rw [hrecords]
    by_cases heq : n = node ∧ key = .status
    · obtain ⟨rfl, rfl⟩ := heq
      simp [Records.setData]
    · rw [if_neg heq]
      exact if_neg fun h => heq ⟨h.1.symm, h.2⟩
  constructor
  · constructor
    · rw [hrecords]
      exact h.written.endpoint
    · rw [hrecords]
      exact h.written.tiersSupported
    · rw [hdata, if_neg (by simp)]
      exact h.written.attestationBuildHash
    · rw [hdata, if_neg (by simp)]
      exact h.written.payoutAddress
    · rw [hdata]
      by_cases heq : n = node
      · rw [if_pos ⟨heq, rfl⟩, if_pos heq]
        rfl
      · rw [if_neg (fun h => heq h.1), if_neg heq]
        exact h.written.status
  · rw [hrecords]
    exact h.mayRevoke

/-- `_revoke` makes the status of the node it is called for "revoked". -/
theorem Watched.revoke (h : Watched c params node status R s)
    (hkeccak : keccak256 (statusData .active) ≠ keccak256 (statusData .revoked)) {sender : Address}
    {reason : String} {returned : Returned (R.toResolver hpermits)}
    (hrevoke : c.watchdog.revoke keccak256 s sender n reason = .ok returned) :
    Watched c params node (if n = node then .revoked else status) R returned.state := by
  rcases WatchdogRevoker.revoke_eq_ok hrevoke with ⟨hsame, hstate⟩ | ⟨-, hset⟩
  · rw [hstate]
    by_cases heq : n = node
    · subst heq
      have hrevoked : status = .revoked := by
        have hdata : R.data s n .status = statusData status := h.written.status
        cases status with
        | active => exact absurd (hdata ▸ hsame) hkeccak
        | revoked => rfl
      rw [if_pos rfl, ← hrevoked]
      exact h
    · rw [if_neg heq]
      exact h
  · exact h.setStatus hset

theorem Watched.exists_revoke (h : Watched c params node status R s) (sender : Address) (reason : String) :
    ∃ returned, c.watchdog.revoke (R := R.toResolver hpermits) keccak256 s sender node reason =
      .ok returned :=
  WatchdogRevoker.exists_revoke (R := R.toResolver hpermits) h.mayRevoke keccak256 sender reason

/-- The transaction leaves the status of the node alone, or revokes the node. -/
def Follows (c : Contracts) (keccak256 : Bytes → Word) (params : RegisterOperatorParams) (node : Word)
    (status : RelayStatus) (R : PermissionedResolver) (tx : Address × Transaction) (s' : R.State) : Prop :=
  ∃ status', Watched c params node status' R s' ∧
    (status' = .revoked ↔ status = .revoked ∨
      c.Triggers keccak256 (Word.ofBytes params.attestationBuildHash) tx node)

theorem Watched.follows_same (h : Watched c params node status R s)
    (hnot : ¬ c.Triggers keccak256 (Word.ofBytes params.attestationBuildHash) tx node) :
    Follows c keccak256 params node status R tx s :=
  ⟨status, h, (or_iff_left hnot).symm⟩

theorem Watched.follows_revoke (h : Watched c params node status R s)
    (hkeccak : keccak256 (statusData .active) ≠ keccak256 (statusData .revoked)) {sender : Address}
    {reason : String} {returned : Returned (R.toResolver hpermits)}
    (hrevoke : c.watchdog.revoke keccak256 s sender n reason = .ok returned)
    (htriggers : c.Triggers keccak256 (Word.ofBytes params.attestationBuildHash) tx node ↔ n = node) :
    Follows c keccak256 params node status R tx returned.state := by
  refine ⟨_, h.revoke hkeccak hrevoke, ?_⟩
  rw [htriggers]
  by_cases heq : n = node
  · simp [heq]
  · simp [heq]

theorem Watched.adminRevoke (h : Watched c params node status R s)
    (hkeccak : keccak256 (statusData .active) ≠ keccak256 (statusData .revoked)) (sender : Address) (n : Word) :
    Follows c keccak256 params node status R (sender, .adminRevoke n)
      (c.step R hpermits keccak256 s (sender, .adminRevoke n)).2 := by
  have htriggers : c.Triggers keccak256 (Word.ofBytes params.attestationBuildHash)
      (sender, .adminRevoke n) node ↔ n = node ∧ sender = c.watchdog.admin := by
    simp [Contracts.Triggers, eq_comm, and_comm]
  rcases hresult : c.watchdog.adminRevoke (R := R.toResolver hpermits) keccak256 s sender n with
    error | returned
  · rw [Contracts.step_adminRevoke hresult]
    apply h.follows_same
    rw [htriggers]
    rintro ⟨rfl, hsender⟩
    obtain ⟨returned, hrevoke⟩ := h.exists_revoke sender "admin_manual_revoke"
    cases hresult.symm.trans (WatchdogRevoker.adminRevoke_of_revoke hsender hrevoke)
  · obtain ⟨hsender, returned', hrevoke, hstate⟩ := WatchdogRevoker.adminRevoke_eq_ok hresult
    rw [Contracts.step_adminRevoke hresult]
    have hfollows := h.follows_revoke hkeccak hrevoke (htriggers.trans (and_iff_left hsender))
    rw [← hstate] at hfollows
    exact hfollows

theorem Watched.submitAttestationCheck (h : Watched c params node status R s)
    (hhash : params.attestationBuildHash.length = 32)
    (hkeccak : keccak256 (statusData .active) ≠ keccak256 (statusData .revoked)) (sender : Address) (n : Word)
    (report : Bytes) : Follows c keccak256 params node status R (sender, .submitAttestationCheck n report)
      (c.step R hpermits keccak256 s (sender, .submitAttestationCheck n report)).2 := by
  have htriggers : c.Triggers keccak256 (Word.ofBytes params.attestationBuildHash)
      (sender, .submitAttestationCheck n report) node ↔
        n = node ∧ keccak256 report ≠ Word.ofBytes params.attestationBuildHash := by
    simp [Contracts.Triggers, eq_comm]
  have hdata : (R.toResolver hpermits).data s node .attestationBuildHash = params.attestationBuildHash :=
    h.written.attestationBuildHash
  have hcheck : c.watchdog.submitAttestationCheck (R := R.toResolver hpermits) keccak256 s sender node report =
      if keccak256 report = Word.ofBytes params.attestationBuildHash then .ok ⟨false, [], s⟩
      else c.watchdog.revoke keccak256 s sender node "attestation_mismatch" := by
    have hlong : 32 ≤ ((R.toResolver hpermits).data s node .attestationBuildHash).length := by
      rw [hdata, hhash]
    rw [← hdata]
    exact WatchdogRevoker.submitAttestationCheck_of_long hlong
  rcases hresult : c.watchdog.submitAttestationCheck (R := R.toResolver hpermits) keccak256 s sender n
    report with error | returned
  · rw [Contracts.step_submitAttestationCheck hresult]
    apply h.follows_same
    rw [htriggers]
    rintro ⟨rfl, hmismatch⟩
    obtain ⟨returned, hrevoke⟩ := h.exists_revoke sender "attestation_mismatch"
    cases hresult.symm.trans ((hcheck.trans (if_neg hmismatch)).trans hrevoke)
  · rw [Contracts.step_submitAttestationCheck hresult]
    by_cases heq : n = node
    · subst heq
      by_cases hmatches : keccak256 report = Word.ofBytes params.attestationBuildHash
      · rw [hcheck, if_pos hmatches] at hresult
        obtain rfl := Except.ok.inj hresult
        exact h.follows_same fun htrigger => (htriggers.mp htrigger).2 hmatches
      · rw [hcheck, if_neg hmatches] at hresult
        exact h.follows_revoke hkeccak hresult (htriggers.trans (and_iff_left hmatches))
    · have hnot := fun htrigger => heq (htriggers.mp htrigger).1
      rcases WatchdogRevoker.submitAttestationCheck_eq_ok hresult with hstate | hrevoke
      · change Follows c keccak256 params node status R _ returned.state
        rw [hstate]
        exact h.follows_same hnot
      · exact h.follows_revoke hkeccak hrevoke (iff_of_false hnot heq)

/-- The transaction is one to the watchdog. -/
def Transaction.ToWatchdog : Transaction → Prop
  | .onReport .. => False
  | _ => True

/-- **What a call of the watchdog does to a registered node.** -/
theorem Watched.step (h : Watched c params node status R s)
    (hhash : params.attestationBuildHash.length = 32)
    (hkeccak : keccak256 (statusData .active) ≠ keccak256 (statusData .revoked)) (htx : tx.2.ToWatchdog) :
    Follows c keccak256 params node status R tx (c.step R hpermits keccak256 s tx).2 := by
  obtain ⟨sender, call⟩ := tx
  cases call with
  | submitAttestationCheck n report => exact h.submitAttestationCheck hhash hkeccak sender n report
  | submitMisbehaviorProof n proof => exact h.follows_same (by simp [Contracts.Triggers])
  | adminRevoke n => exact h.adminRevoke hkeccak sender n
  | onReport metadata report => exact absurd htx id

theorem Watched.run (h : Watched c params node status R s)
    (hhash : params.attestationBuildHash.length = 32)
    (hkeccak : keccak256 (statusData .active) ≠ keccak256 (statusData .revoked))
    (htxs : ∀ tx ∈ txs, tx.2.ToWatchdog) :
    ∃ status', Watched c params node status' R (c.run R hpermits keccak256 s txs).2 ∧
      (status' = .revoked ↔ status = .revoked ∨ ∃ tx ∈ txs,
        c.Triggers keccak256 (Word.ofBytes params.attestationBuildHash) tx node) := by
  induction txs generalizing s status with
  | nil => exact ⟨status, h, by simp⟩
  | cons tx txs ih =>
    obtain ⟨htx, htxs⟩ := List.forall_mem_cons.mp htxs
    have hfollows : Follows c keccak256 params node status R tx (c.step R hpermits keccak256 s tx).2 :=
      h.step hhash hkeccak htx
    obtain ⟨status₁, h₁, hiff₁⟩ := hfollows
    obtain ⟨status', h', hiff'⟩ := ih h₁ htxs
    refine ⟨status', h', ?_⟩
    rw [hiff', hiff₁, List.exists_mem_cons_iff, or_assoc]

end Watchdog

/-! ### Reading -/

/-- What the schema asks of the parameters that are not checked by their types. -/
structure RegisterOperatorParams.Valid (client : Client) (params : RegisterOperatorParams) : Prop where
  labels : NoEmptyLabels params.name
  endpoint : client.isUrl params.endpoint = true
  tiersSupported : params.tiersSupported ≠ []
  attestationBuildHash : params.attestationBuildHash.length = 32

/-- The record that is to be read back. -/
def RegisterOperatorParams.record (params : RegisterOperatorParams) (operationalKey payoutAddress : String)
    (status : RelayStatus) : CapabilityRecord :=
  ⟨params.name, operationalKey, payoutAddress, params.endpoint, params.tiersSupported, status,
    bytesToHex params.attestationBuildHash⟩

section Read

variable {client : Client} {params : RegisterOperatorParams} {operationalKey payoutAddress : String}
  {status : RelayStatus} {t : Records}

theorem safeParse_name (status : RelayStatus) : RelayStatus.safeParse status.name = some status := by
  cases status <;> decide

theorem name_ne_empty (h : NoEmptyLabels params.name) : params.name ≠ "" := by
  intro hempty
  exact h [] (by rw [hempty]; decide) rfl

theorem read_of_written (hclient : client.Documented) (hvalid : params.Valid client)
    (hkey : Spells operationalKey params.operationalKeyAddress)
    (hpayout : Spells payoutAddress params.payoutAddress)
    (hdecode : client.decodeAddress (addressWord params.payoutAddress).toBytes = some payoutAddress)
    (h : Written params (client.namehash params.name) status t) :
    readCapabilityRecord client t.reads params.name operationalKey =
      .ok (params.record operationalKey payoutAddress status) := by
  have hstatus := hclient.hexToString status
  have hendpoint := decodeText_of_head (hclient.isUrl _ hvalid.endpoint)
  have htiers := tiersOfJson_names hvalid.tiersSupported
  have hraw : RawCapabilityRecord.Valid client.isUrl ⟨params.name, operationalKey, payoutAddress,
      params.endpoint, .array (params.tiersSupported.map fun tier => .string (utf16 tier.name.toList)),
      status.name, bytesToHex params.attestationBuildHash⟩ := by
    constructor
    · exact name_ne_empty hvalid.labels
    · exact hkey.isEvmAddress
    · exact hpayout.isEvmAddress
    · exact hvalid.endpoint
    · rw [htiers]
      rfl
    · rw [safeParse_name]
      rfl
    · apply (isHexHash_bytesToHex _).mpr
      intro hnil
      have hlength := hvalid.attestationBuildHash
      rw [hnil] at hlength
      cases hlength
  simp only [readCapabilityRecord, Records.reads, h.endpoint, h.tiersSupported, h.attestationBuildHash,
    h.payoutAddress, h.status, hdecode, decodeText_stringifyTiers, hendpoint,
    parse_stringifyTiers hvalid.tiersSupported, hstatus]
  simp only [RawCapabilityRecord.parse, RawCapabilityRecord.issues_eq_nil.mpr hraw, htiers, safeParse_name]
  rfl

end Read

section ReadBack

variable {R : PermissionedResolver} {hpermits : R.Permits} {keccak256 : Bytes → Word} {client : Client}
  {registryAddress resolverAddress sender : Address} {params : RegisterOperatorParams}
  {operationalKey : String} {calls : List ContractCall} {s s₀ : R.State}

/-- **Discovery reads back what registration wrote**: the record of the operator and no other
    is new, and the calls of the watchdog change its status only. -/
theorem read_registered (hclient : client.Documented) (hvalid : params.Valid client)
    (hkey : Spells operationalKey params.operationalKeyAddress) (hreads : ReadsNames R client.namehash)
    (hkeccak : keccak256 (statusData .active) ≠ keccak256 (statusData .revoked))
    (hbuild : buildRegisterOperatorCalls client.namehash registryAddress resolverAddress params = .ok calls)
    (hexec : R.executeAll sender s₀ calls = some s) :
    ∃ payoutAddress, Spells payoutAddress params.payoutAddress ∧
      readCapabilityRecord client (R.records s).reads params.name operationalKey =
        .ok (params.record operationalKey payoutAddress .active) ∧
      (∀ r : Record, r.node ≠ client.namehash params.name → (R.store s).value r = (R.store s₀).value r) ∧
      ∀ (c : Contracts) (txs : List (Address × Transaction)), c.watchdog.address = params.watchdogAddress →
        (∀ tx ∈ txs, tx.2.ToWatchdog) → ∃ status,
          readCapabilityRecord client (R.records (c.run R hpermits keccak256 s txs).2).reads params.name
            operationalKey = .ok (params.record operationalKey payoutAddress status) ∧
          (status = .revoked ↔ ∃ tx ∈ txs, c.Triggers keccak256 (Word.ofBytes params.attestationBuildHash) tx
            (client.namehash params.name)) := by
  obtain ⟨payoutAddress, hdecode, hpayout⟩ := hclient.decodeAddress params.payoutAddress
  have hstore := store_registered hreads hvalid.labels hbuild hexec
  have hwritten := written_of_store hstore
  refine ⟨payoutAddress, hpayout, read_of_written hclient hvalid hkey hpayout hdecode hwritten,
    fun r => value_of_store hstore, ?_⟩
  intro c txs haddress htxs
  have hwatched : Watched c params (client.namehash params.name) .active R s :=
    ⟨hwritten, haddress ▸ mayRevoke_of_store hstore⟩
  have hrun : ∃ status', Watched c params (client.namehash params.name) status' R
      (c.run R hpermits keccak256 s txs).2 ∧ (status' = .revoked ↔ RelayStatus.active = .revoked ∨
        ∃ tx ∈ txs, c.Triggers keccak256 (Word.ofBytes params.attestationBuildHash) tx
          (client.namehash params.name)) := hwatched.run hvalid.attestationBuildHash hkeccak htxs
  obtain ⟨status, hstatus, hiff⟩ := hrun
  refine ⟨status, read_of_written hclient hvalid hkey hpayout hdecode hstatus.written, ?_⟩
  rw [hiff]
  simp

end ReadBack

/-! ### A registration that is read back -/

namespace Sample

theorem map_toLower_addressDigits (a : Address) : (addressDigits a).map Char.toLower = addressDigits a := by
  have hlower : ∀ n < 16, (hexDigit n).toLower = hexDigit n := by decide
  unfold addressDigits
  rw [List.map_flatMap]
  congr
  funext b
  have hb : b.toNat < 256 := b.toNat_lt
  simp [hlower (b.toNat / 16) (by omega), hlower (b.toNat % 16) (by omega)]

/-- Decoders that give addresses in lower case. -/
def reader : Client where
  namehash := nameNode
  decodeAddress bytes :=
    if bytes.length = 32 then
      some (String.ofList ('0' :: 'x' :: addressDigits (wordAddress (Word.ofBytes bytes))))
    else none
  hexToString bytes := String.ofList (Utf8.decode bytes)
  isUrl s := "https://".toList.isPrefixOf s.toList

theorem documented_reader : reader.Documented where
  decodeAddress a := by
    refine ⟨String.ofList ('0' :: 'x' :: addressDigits a), ?_, addressDigits a, String.toList_ofList,
      map_toLower_addressDigits a⟩
    simp only [reader, Word.length_toBytes, if_true, Word.ofBytes_toBytes, wordAddress_addressWord]
  hexToString status := by
    change String.ofList (Utf8.decode (Utf8.encode status.name.toList)) = status.name
    rw [Utf8.decode_encode, String.ofList_toList]
  isUrl s h hmark := by
    obtain ⟨rest, hs⟩ := List.isPrefixOf_iff_prefix.mp h
    rw [← hs] at hmark
    cases hmark

theorem valid_bob : bob.Valid reader where
  labels := by
    have hall : ∀ label ∈ bob.name.toList.splitOn '.', label ≠ [] := by decide +kernel
    exact hall
  endpoint := by decide +kernel
  tiersSupported := by decide
  attestationBuildHash := Word.length_toBytes _

theorem spells_bob : Spells "0x0000000000000000000000000000000000000002" bob.operationalKeyAddress :=
  ⟨"0000000000000000000000000000000000000002".toList, by decide, by decide +kernel⟩

end Sample

open Sample in
/-- bob is registered, and then revoked by the admin. -/
theorem read_registered_bob : ∃ calls s payoutAddress,
    buildRegisterOperatorCalls reader.namehash 5 6 bob = .ok calls ∧
    (storeResolver readNames).executeAll 9 fresh calls = some s ∧ Spells payoutAddress bob.payoutAddress ∧
    readCapabilityRecord reader ((storeResolver readNames).records s).reads bob.name
      "0x0000000000000000000000000000000000000002" =
        .ok (bob.record "0x0000000000000000000000000000000000000002" payoutAddress .active) ∧
    readCapabilityRecord reader ((storeResolver readNames).records (Contracts.run
      ⟨revoker, ⟨12, 13, 0, 0, 0⟩⟩ (storeResolver readNames) (permits_storeResolver readNames) keccak256 s
      [(revoker.admin, .adminRevoke (nameNode bob.name))]).2).reads bob.name
      "0x0000000000000000000000000000000000000002" =
        .ok (bob.record "0x0000000000000000000000000000000000000002" payoutAddress .revoked) := by
  have hok : (buildRegisterOperatorCalls reader.namehash 5 6 bob).toOption.isSome = true := by
    decide +kernel
  obtain ⟨calls, hbuild⟩ := exists_calls hok
  obtain ⟨s, hexec, -⟩ := exists_executeAll (R := storeResolver readNames) (s := fresh)
    (permits_storeResolver readNames) administers_fresh calls
  obtain ⟨payoutAddress, hpayout, hactive, -, hrun⟩ := read_registered documented_reader valid_bob spells_bob
    readsNames (by decide +kernel : keccak256 (statusData .active) ≠ keccak256 (statusData .revoked))
    hbuild hexec
  obtain ⟨status, hread, hiff⟩ := hrun ⟨revoker, ⟨12, 13, 0, 0, 0⟩⟩
    [(revoker.admin, .adminRevoke (nameNode bob.name))] rfl (by simp [Transaction.ToWatchdog])
  have hrevoked : status = .revoked := hiff.mpr ⟨_, List.mem_singleton_self _, Or.inl rfl⟩
  rw [hrevoked] at hread
  exact ⟨calls, s, payoutAddress, hbuild, hexec, hpayout, hactive, hread⟩

end DVoD.Ens
