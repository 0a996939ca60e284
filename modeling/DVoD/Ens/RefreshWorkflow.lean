import DVoD.Ens.OperatorEntry
import DVoD.Text.Hex

/-!
# The workflow that refreshes attestations

`onCronTrigger` of the attestation refresher: it reports the hash of a build for the node
of an operator, and the forwarder passes the report on to the refresher.  `attested_build`
says what this means for discovery and for the checks of the watchdog, until the hash is
written again.
-/

namespace DVoD.Ens

open DVoD.Evm DVoD.Session DVoD.Text

/-! ### The workflow -/

structure EvmConfig where
  chainSelectorName : String
  contractAddress : String

structure WorkflowConfig where
  evms : List EvmConfig
  operatorNode : String

inductive TxStatus where
  | fatal
  | reverted
  | success
deriving DecidableEq

structure WriteResult where
  txStatus : TxStatus
  txHash : Option Bytes
  errorMessage : Option String

/-- The functions of the CRE SDK that the workflow calls: `rESOLVER` is the read of the
    receiver, `none` where it throws. -/
structure Runtime where
  hasNetwork : String → Bool
  rESOLVER : String → Option String
  writeReport : String → Bytes → WriteResult

inductive WorkflowError where
  | noEvmConfig
  | networkNotFound (chainSelectorName : String)
  | readContract
  | abiEncode
  | refreshFailed (errorMessage : Option String) (txStatus : TxStatus)
deriving DecidableEq

/-- A `bytes32` argument of `encodeAbiParameters`, padded on the right. -/
def bytes32 (hex : String) : Option Word :=
  match hex.toList with
  | '0' :: 'x' :: digits =>
      if (digits.length = 63 ∨ digits.length = 64) ∧ digits.all Json.isHexDigit then
        some (Word.ofBytes (ofHex (digits ++ List.replicate (64 - digits.length) '0')))
      else none
  | _ => none

/-- The stand-in for a build manifest. -/
def buildManifest (contractAddress : String) : Bytes :=
  Utf8.encode ("dvod-tunnel-server-stub-build:" ++ contractAddress).toList

def freshHash (keccak256 : Bytes → Word) (contractAddress : String) : Word :=
  keccak256 (buildManifest contractAddress)

/-- The report of a run. -/
def freshReport (keccak256 : Bytes → Word) (node : Word) (contractAddress : String) : Bytes :=
  abiEncode [node, freshHash keccak256 contractAddress]

def onCronTrigger (keccak256 : Bytes → Word) (runtime : Runtime) (config : WorkflowConfig) :
    Except WorkflowError String :=
  match config.evms with
  | [] => .error .noEvmConfig
  | evmConfig :: _ =>
      if !runtime.hasNetwork evmConfig.chainSelectorName then
        .error (.networkNotFound evmConfig.chainSelectorName)
      else
        match runtime.rESOLVER evmConfig.contractAddress, bytes32 config.operatorNode with
        | none, _ => .error .readContract
        | some _, none => .error .abiEncode
        | some _, some node =>
            let writeResult := runtime.writeReport evmConfig.contractAddress
              (freshReport keccak256 node evmConfig.contractAddress)
            if writeResult.txStatus ≠ .success then
              .error (.refreshFailed (writeResult.errorMessage.filter (· ≠ "")) writeResult.txStatus)
            else
              .ok ("Refreshed - tx: " ++ bytesToHex (writeResult.txHash.getD (List.replicate 32 0)))

section Workflow

variable {keccak256 : Bytes → Word} {runtime : Runtime} {config : WorkflowConfig} {message : String}

/-- A run that returns has written the hash of the build for the node of the config. -/
theorem onCronTrigger_eq_ok (h : onCronTrigger keccak256 runtime config = .ok message) :
    ∃ evmConfig rest node, config.evms = evmConfig :: rest ∧ bytes32 config.operatorNode = some node ∧
      (runtime.writeReport evmConfig.contractAddress
        (freshReport keccak256 node evmConfig.contractAddress)).txStatus = .success := by
  unfold onCronTrigger at h
  split at h
  · cases h
  next evmConfig rest hevms =>
  split at h
  · cases h
  split at h
  · cases h
  · cases h
  next node _ hnode =>
  dsimp only at h
  split at h
  · cases h
  · next hsuccess => exact ⟨evmConfig, rest, node, hevms, hnode, not_not.mp hsuccess⟩

end Workflow

/-! ### The hash of an entry -/

/-- The call writes the hash of the node. -/
def Parties.Rewrites (P : Parties) : Address × EnsCall → Prop
  | (sender, .resolver (.setData node key _)) =>
      sender = P.operationalKey ∧ node = P.node ∧ key = DataKey.attestationBuildHash.name
  | (sender, .contracts (.onReport metadata report)) =>
      ∃ newHash, P.contracts.refresher.reported sender metadata report = some (P.node, newHash)
  | _ => False

section Hash

variable {P : Parties} {keccak256 : Bytes → Word} {e : Entry} {tx : Address × EnsCall}
  {txs : List (Address × EnsCall)}

theorem hash_publish {sender : Address} {call : ResolverCall} (h : ¬ P.Rewrites (sender, .resolver call))
    (hsender : sender = P.operationalKey) :
    (e.publish P.node call).attestationBuildHash = e.attestationBuildHash := by
  cases call with
  | setText node key value =>
    simp only [Entry.publish]
    split
    · rfl
    split
    · rfl
    · rfl
  | setData node key value =>
    have hnot : ¬ (node = P.node ∧ key = DataKey.attestationBuildHash.name) := fun hwrites => h ⟨hsender, hwrites⟩
    rw [Entry.publish, if_neg hnot]
  | _ => rfl

theorem hash_next (h : ¬ P.Rewrites tx) :
    (e.next P keccak256 tx).attestationBuildHash = e.attestationBuildHash := by
  obtain ⟨sender, call⟩ := tx
  cases call with
  | resolver call =>
    simp only [Entry.next]
    split
    · next hsender => exact hash_publish h hsender
    · rfl
  | contracts call =>
    cases call with
    | submitAttestationCheck node report =>
      simp only [Entry.next]
      split
      · rfl
      · rfl
    | submitMisbehaviorProof node proof => rfl
    | adminRevoke node =>
      simp only [Entry.next]
      split
      · rfl
      · rfl
    | onReport metadata report =>
      simp only [Entry.next]
      cases hreported : P.contracts.refresher.reported sender metadata report with
      | none => rfl
      | some pair =>
        obtain ⟨node, newHash⟩ := pair
        have hnot : ¬ (P.mayRefresh = true ∧ node = P.node) := by
          rintro ⟨-, rfl⟩
          exact h ⟨newHash, hreported⟩
        rw [Entry.refresh, if_neg hnot]

theorem hash_run (h : ∀ tx ∈ txs, ¬ P.Rewrites tx) :
    (e.run P keccak256 txs).attestationBuildHash = e.attestationBuildHash := by
  induction txs generalizing e with
  | nil => rfl
  | cons tx txs ih =>
    obtain ⟨htx, htxs⟩ := List.forall_mem_cons.mp h
    exact (ih htxs).trans (hash_next htx)

/-- A report that passes the checks of the receiver is the hash from then on. -/
theorem hash_of_reported (hrefresh : P.mayRefresh = true) {before later : List (Address × EnsCall)}
    {sender : Address} {metadata report : Bytes} {newHash : Word}
    (hreported : P.contracts.refresher.reported sender metadata report = some (P.node, newHash))
    (hlater : ∀ tx ∈ later, ¬ P.Rewrites tx) :
    (e.run P keccak256 (before ++ (sender, .contracts (.onReport metadata report)) :: later)).attestationBuildHash =
      newHash.toBytes := by
  rw [Entry.run, List.foldl_append, List.foldl_cons, ← Entry.run, ← Entry.run, hash_run hlater]
  simp only [Entry.next, hreported, Entry.refresh, hrefresh, and_self, if_true]

/-- The forwarder passes a report on. -/
def Contracts.forwards (c : Contracts) (metadata report : Bytes) : Address × EnsCall :=
  (c.refresher.forwarderAddress, .contracts (.onReport metadata report))

/-- The checks of the node that are sent. -/
def Parties.checks (P : Parties) (reports : List (Address × Bytes)) : List (Address × EnsCall) :=
  reports.map fun pair => (pair.1, .contracts (.submitAttestationCheck P.node pair.2))

theorem Parties.not_rewrites_check (P : Parties) (sender : Address) (node : Word) (report : Bytes) :
    ¬ P.Rewrites (sender, .contracts (.submitAttestationCheck node report)) := not_false

theorem hash_checks (reports : List (Address × Bytes)) :
    (e.run P keccak256 (P.checks reports)).attestationBuildHash = e.attestationBuildHash := by
  refine hash_run ?_
  intro tx htx
  obtain ⟨pair, -, rfl⟩ := List.mem_map.mp htx
  exact P.not_rewrites_check _ _ _

/-- Checks revoke an operator as soon as one report does not have its hash. -/
theorem revoked_checks {hash : Word} (hhash : e.attestationBuildHash = hash.toBytes)
    (reports : List (Address × Bytes)) : (e.run P keccak256 (P.checks reports)).revoked = true ↔
      e.revoked = true ∨ ∃ pair ∈ reports, keccak256 pair.2 ≠ hash := by
  induction reports generalizing e with
  | nil => simp [Parties.checks, Entry.run]
  | cons pair reports ih =>
    have hnext : (e.next P keccak256 (pair.1, .contracts (.submitAttestationCheck P.node pair.2))).attestationBuildHash =
        hash.toBytes := (hash_next (P.not_rewrites_check _ _ _)).trans hhash
    have hmismatches : e.Mismatches keccak256 pair.2 ↔ keccak256 pair.2 ≠ hash := by
      rw [Entry.Mismatches, hhash, Word.length_toBytes, Word.ofBytes_toBytes, and_iff_right le_rfl]
    have hrevokes : e.Revokes P keccak256 (pair.1, .contracts (.submitAttestationCheck P.node pair.2)) ↔
        keccak256 pair.2 ≠ hash := by
      rw [← hmismatches]
      simp [Entry.Revokes, eq_comm]
    calc (e.run P keccak256 (P.checks (pair :: reports))).revoked = true
      _ ↔ (e.next P keccak256 (pair.1, .contracts (.submitAttestationCheck P.node pair.2))).revoked = true ∨
          ∃ pair' ∈ reports, keccak256 pair'.2 ≠ hash := ih hnext
      _ ↔ (e.revoked = true ∨ keccak256 pair.2 ≠ hash) ∨ ∃ pair' ∈ reports, keccak256 pair'.2 ≠ hash := by
        rw [Entry.revoked_next, hrevokes]
      _ ↔ e.revoked = true ∨ ∃ pair' ∈ pair :: reports, keccak256 pair'.2 ≠ hash := by
        rw [or_assoc, List.exists_mem_cons_iff]

end Hash

/-- The receiver takes the report of a run from its forwarder. -/
theorem reported_freshReport {receiver : AttestationRefresherReceiver} {metadata : Bytes}
    (h : receiver.checkWorkflow metadata = .ok ()) (keccak256 : Bytes → Word) (node : Word)
    (contractAddress : String) :
    receiver.reported receiver.forwarderAddress metadata (freshReport keccak256 node contractAddress) =
      some (node, freshHash keccak256 contractAddress) := by
  have hsender : receiver.checkSender receiver.forwarderAddress = .ok () := if_neg fun hne => hne.2 rfl
  rw [AttestationRefresherReceiver.reported, hsender, h, freshReport, AttestationRefresherReceiver.decodeReport_abiEncode]
  rfl

/-- **What a run of the workflow is for.**  Where it returns, it has written a report, and from
    when the forwarder passes that on, until the hash is written again: discovery reads the hash
    of the build, and checks revoke the operator exactly where one of their reports is not the
    build's. -/
theorem attested_build {R : PermissionedResolver} (hpermits : R.Permits) {keccak256 : Bytes → Word}
    {client : Client} {registryAddress resolverAddress admin : Address} {params : RegisterOperatorParams}
    {ops : List RegisterOperatorParams} {s₀ s₁ s₂ : R.State} {c : Contracts} {runtime : Runtime}
    {config : WorkflowConfig} {message : String}
    (hclient : client.Documented) (hreads : ReadsNames R client.namehash)
    (hkeccak : keccak256 (statusData .active) ≠ keccak256 (statusData .revoked))
    (hadmin : OnlyAdmin admin (R.store s₀)) (hlabels : ∀ params ∈ ops, NoEmptyLabels params.name)
    (hreg : Registers R client.namehash registryAddress resolverAddress admin ops s₀ s₁)
    (hnames : (ops.map RegisterOperatorParams.name).Nodup)
    (hhash : ∀ p ∈ ops, ∀ q ∈ ops, client.namehash p.name = client.namehash q.name → p.name = q.name)
    (hparams : params ∈ ops) (hwatchdog : c.watchdog.address = params.watchdogAddress)
    (hrefresher : Outsider admin ops c.refresher.address)
    (hkey : c.refresher.address ≠ params.operationalKeyAddress)
    (hgrants : Grants R admin c.refresher.address params.name true s₁ s₂)
    (hrun : onCronTrigger keccak256 runtime config = .ok message)
    (hconfig : bytes32 config.operatorNode = some (client.namehash params.name)) :
    ∃ evmConfig rest, config.evms = evmConfig :: rest ∧
      (runtime.writeReport evmConfig.contractAddress
        (freshReport keccak256 (client.namehash params.name) evmConfig.contractAddress)).txStatus = .success ∧
      ∀ (before later : List (Address × EnsCall)) (metadata : Bytes) (reports : List (Address × Bytes))
        (operationalKey : String) (record : CapabilityRecord),
        c.refresher.checkWorkflow metadata = .ok () →
        (∀ tx ∈ before ++ later, Sends (Direct admin ops c) tx) →
        (∀ tx ∈ later, ¬ (params.parties client.namehash c true).Rewrites tx) →
        readCapabilityRecord client (R.records (performAll R hpermits keccak256 c s₂
            (before ++ c.forwards metadata
              (freshReport keccak256 (client.namehash params.name) evmConfig.contractAddress) :: later ++
              (params.parties client.namehash c true).checks reports))).reads params.name operationalKey =
          .ok record →
        record.attestationBuildHash = bytesToHex (freshHash keccak256 evmConfig.contractAddress).toBytes ∧
        (record.status = .revoked ↔
          (params.entry.run (params.parties client.namehash c true) keccak256
            (before ++ c.forwards metadata
              (freshReport keccak256 (client.namehash params.name) evmConfig.contractAddress) :: later)).revoked =
              true ∨
          ∃ pair ∈ reports, keccak256 pair.2 ≠ freshHash keccak256 evmConfig.contractAddress) := by
  obtain ⟨evmConfig, rest, node, hevms, hnode, hsuccess⟩ := onCronTrigger_eq_ok hrun
  obtain rfl := Option.some.inj (hnode.symm.trans hconfig)
  refine ⟨evmConfig, rest, hevms, hsuccess, ?_⟩
  intro before later metadata reports operationalKey record hworkflow hsends hlater hrecord
  obtain ⟨payoutAddress, hdecode, -⟩ := hclient.decodeAddress params.payoutAddress
  have hkept := kept_registered hreads hadmin hlabels hreg hnames hhash hparams hwatchdog hrefresher hkey hgrants
  have hall : ∀ tx ∈ before ++ c.forwards metadata
      (freshReport keccak256 (client.namehash params.name) evmConfig.contractAddress) :: later ++
      (params.parties client.namehash c true).checks reports, Sends (Direct admin ops c) tx := by
    intro tx htx
    rcases List.mem_append.mp htx with htx | htx
    · rcases List.mem_append.mp htx with htx | htx
      · exact hsends tx (List.mem_append_left _ htx)
      rcases List.mem_cons.mp htx with rfl | htx
      · trivial
      · exact hsends tx (List.mem_append_right _ htx)
    · obtain ⟨pair, -, rfl⟩ := List.mem_map.mp htx
      trivial
  have hread := (hkept.performAll hpermits hkeccak hall).shows.read hclient rfl hdecode operationalKey
  obtain ⟨hstatus, hbuild⟩ := read_eq_ok (hread.symm.trans hrecord)
  have hreported := reported_freshReport hworkflow keccak256 (client.namehash params.name) evmConfig.contractAddress
  have hwritten : (params.entry.run (params.parties client.namehash c true) keccak256
      (before ++ c.forwards metadata
        (freshReport keccak256 (client.namehash params.name) evmConfig.contractAddress) ::
          later)).attestationBuildHash = (freshHash keccak256 evmConfig.contractAddress).toBytes :=
    hash_of_reported rfl hreported hlater
  rw [Entry.run, List.foldl_append, ← Entry.run, ← Entry.run] at hstatus hbuild
  constructor
  · rw [hbuild, hash_checks, hwritten]
  · rw [hstatus, Entry.status_eq_revoked]
    exact revoked_checks hwritten reports

/-! ### A run for bob -/

namespace Sample

def workflowConfig : WorkflowConfig where
  evms := [⟨"ethereum-testnet-sepolia", "0x000000000000000000000000000000000000000c"⟩]
  operatorNode := "0x6ae42ffccc275cd1d6fc09d379960a2452c614c8f31c574fe0051f1c604b3628"

def workflowRuntime : Runtime where
  hasNetwork name := name = "ethereum-testnet-sepolia"
  rESOLVER _ := some "0x0000000000000000000000000000000000000006"
  writeReport _ _ := ⟨.success, none, none⟩

def keccak256Build (bytes : Bytes) : Word :=
  if bytes = buildManifest "0x000000000000000000000000000000000000000c" then
    0x7d2582e2701882a9975067364de58973845b3a763a2dc3abbf1c8c1e8da5f975
  else keccak256 bytes

/-- bob's key writes its endpoint before the report comes, and its tiers after. -/
def beforeReport : List (Address × EnsCall) :=
  [(bob.operationalKeyAddress, .resolver (.setText (nameNode bob.name) TextKey.endpoint.name "https://new.example"))]

def afterReport : List (Address × EnsCall) :=
  [(bob.operationalKeyAddress, .resolver (.setText (nameNode bob.name) TextKey.tiersSupported.name "[\"lite\"]"))]

/-- The build manifest, and then something else. -/
def checkedReports : List (Address × Bytes) :=
  [(8, buildManifest "0x000000000000000000000000000000000000000c"), (14, tampered)]

def bobsRun : List (Address × EnsCall) :=
  beforeReport ++ deployedContracts.forwards [] (freshReport keccak256Build (nameNode bob.name)
    "0x000000000000000000000000000000000000000c") :: afterReport ++
    (bob.parties nameNode deployedContracts true).checks checkedReports

theorem sends_bobsRun : ∀ tx ∈ bobsRun, Sends (Direct 9 [bob, dave] deployedContracts) tx := by
  intro tx htx
  simp only [bobsRun, beforeReport, afterReport, checkedReports, Parties.checks, List.map_cons, List.map_nil,
    List.cons_append, List.nil_append, List.mem_cons, List.not_mem_nil, or_false] at htx
  rcases htx with rfl | rfl | rfl | rfl | rfl
  · exact ⟨⟨by decide, by decide⟩, by decide⟩
  · trivial
  · exact ⟨⟨by decide, by decide⟩, by decide⟩
  · trivial
  · trivial

theorem bobsRun_aroundReport {tx : Address × EnsCall} (h : tx ∈ beforeReport ++ afterReport) : tx ∈ bobsRun := by
  simp only [bobsRun, List.mem_append, List.mem_cons] at h ⊢
  tauto

theorem read_bobsRun : ∃ record, Entry.read (bob.entry.run (bob.parties nameNode deployedContracts true) keccak256Build
    bobsRun) reader bob.name "0x0000000000000000000000000000000000000002"
    "0x0000000000000000000000000000000000000003" = .ok record := exists_read (by decide +kernel)

end Sample

open Sample in
/-- The first check leaves bob as he is, the second revokes him. -/
theorem attested_build_bob : ∃ s₁ s₂ record,
    Registers (storeResolver readNames) reader.namehash 5 6 9 [bob, dave] fresh s₁ ∧
    Grants (storeResolver readNames) 9 deployedContracts.refresher.address bob.name true s₁ s₂ ∧
    readCapabilityRecord reader ((storeResolver readNames).records (performAll (storeResolver readNames)
        (permits_storeResolver readNames) keccak256Build deployedContracts s₂ bobsRun)).reads bob.name
        "0x0000000000000000000000000000000000000002" = .ok record ∧
    record.attestationBuildHash = "0x7d2582e2701882a9975067364de58973845b3a763a2dc3abbf1c8c1e8da5f975" ∧
    record.status = .revoked := by
  obtain ⟨s₁, s₂, hreg, hgrants⟩ := exists_granted
  have hkeccak : keccak256Build (statusData .active) ≠ keccak256Build (statusData .revoked) := by decide +kernel
  have hnames : ([bob, dave].map RegisterOperatorParams.name).Nodup := by decide
  have hhash : ∀ p ∈ [bob, dave], ∀ q ∈ [bob, dave], nameNode p.name = nameNode q.name → p.name = q.name := by
    decide +kernel
  have hrefresher : Outsider 9 [bob, dave] deployedContracts.refresher.address := ⟨by decide, by decide⟩
  have hdecode : reader.decodeAddress (addressWord bob.payoutAddress).toBytes =
      some "0x0000000000000000000000000000000000000003" := by decide +kernel
  have hkept := kept_registered readsNames onlyAdmin_fresh labels_both hreg hnames hhash
    (List.mem_cons_self : bob ∈ [bob, dave]) rfl hrefresher (by decide) hgrants
  have hread := (hkept.performAll (permits_storeResolver readNames) hkeccak sends_bobsRun).shows.read documented_reader
    rfl hdecode "0x0000000000000000000000000000000000000002"
  obtain ⟨record, hrecord⟩ := read_bobsRun
  obtain ⟨evmConfig, rest, hevms, -, hattested⟩ := attested_build (permits_storeResolver readNames) documented_reader
    readsNames hkeccak onlyAdmin_fresh labels_both hreg hnames hhash (List.mem_cons_self : bob ∈ [bob, dave]) rfl
    hrefresher (by decide) hgrants
    (by decide +kernel : onCronTrigger keccak256Build workflowRuntime workflowConfig =
      .ok "Refreshed - tx: 0x0000000000000000000000000000000000000000000000000000000000000000")
    (by decide +kernel : bytes32 workflowConfig.operatorNode = some (nameNode bob.name))
  obtain ⟨rfl, rfl⟩ := List.cons.inj hevms
  obtain ⟨hbuild, hstatus⟩ := hattested beforeReport afterReport [] checkedReports _ record rfl
    (fun tx htx => sends_bobsRun tx (bobsRun_aroundReport htx))
    (fun tx htx => by
      obtain rfl := List.mem_singleton.mp htx
      exact not_false)
    (hread.trans hrecord)
  refine ⟨s₁, s₂, record, hreg, hgrants, hread.trans hrecord, hbuild.trans (by decide +kernel), hstatus.mpr (.inr ?_)⟩
  exact ⟨(14, tampered), by simp [checkedReports], by decide +kernel⟩

end DVoD.Ens
