import DVoD.Ens.Resolver

/-!
# AttestationRefresherReceiver

The contract that may write the attestation hash of every operator, from reports that the
forwarder passes on.  `reported` is the report that it takes from a call.
-/

namespace DVoD.Ens

open DVoD.Evm

/-! ### The metadata of a workflow -/

/-- The 32 bytes of memory from the offset on, zeros behind the end. -/
def mload (bytes : Bytes) (offset : ℕ) : Word :=
  Word.ofBytes (bytes.drop offset ++ List.replicate 32 0)

structure WorkflowMetadata where
  workflowId : Word
  workflowName : BitVec 80
  workflowOwner : Address

def decodeMetadata (metadata : Bytes) : WorkflowMetadata where
  workflowId := mload metadata 0
  workflowName := (mload metadata 32).extractLsb' 176 80
  workflowOwner := (mload metadata 42).extractLsb' 96 160

/-! ### The contract -/

/-- A deployed `AttestationRefresherReceiver`: its address and the settings of its
    `ReceiverTemplate`, where zero stands for a check that is off. -/
structure AttestationRefresherReceiver where
  address : Address
  forwarderAddress : Address
  expectedAuthor : Address
  expectedWorkflowName : BitVec 80
  expectedWorkflowId : Word

inductive ReceiverError where
  | invalidSender (sender expected : Address)
  | invalidAuthor (received expected : Address)
  | invalidWorkflowName (received expected : BitVec 80)
  | invalidWorkflowId (received expected : Word)
  | workflowNameRequiresAuthorValidation
  | abiDecode
  | resolver

/-- What a report that was processed did. -/
structure Refreshed (R : Resolver) where
  node : Word
  newHash : Word
  state : R.State

namespace AttestationRefresherReceiver

variable {R : Resolver} (receiver : AttestationRefresherReceiver)

def checkSender (sender : Address) : Except ReceiverError Unit :=
  if receiver.forwarderAddress ≠ 0 ∧ sender ≠ receiver.forwarderAddress then
    .error (.invalidSender sender receiver.forwarderAddress)
  else .ok ()

def checkWorkflow (metadata : Bytes) : Except ReceiverError Unit :=
  if receiver.expectedWorkflowId ≠ 0 ∨ receiver.expectedAuthor ≠ 0 ∨ receiver.expectedWorkflowName ≠ 0 then
    let decoded := decodeMetadata metadata
    if receiver.expectedWorkflowId ≠ 0 ∧ decoded.workflowId ≠ receiver.expectedWorkflowId then
      .error (.invalidWorkflowId decoded.workflowId receiver.expectedWorkflowId)
    else if receiver.expectedAuthor ≠ 0 ∧ decoded.workflowOwner ≠ receiver.expectedAuthor then
      .error (.invalidAuthor decoded.workflowOwner receiver.expectedAuthor)
    else if receiver.expectedWorkflowName ≠ 0 then
      if receiver.expectedAuthor = 0 then .error .workflowNameRequiresAuthorValidation
      else if decoded.workflowName ≠ receiver.expectedWorkflowName then
        .error (.invalidWorkflowName decoded.workflowName receiver.expectedWorkflowName)
      else .ok ()
    else .ok ()
  else .ok ()

/-- `abi.decode(report, (bytes32, bytes32))`. -/
def decodeReport (report : Bytes) : Except ReceiverError (Word × Word) :=
  if report.length < 64 then .error .abiDecode else .ok (abiWord report 0, abiWord report 1)

def refresh (s : R.State) (node newHash : Word) : Except ReceiverError (Refreshed R) :=
  match R.setData s receiver.address node .attestationBuildHash (abiEncode [newHash]) with
  | none => .error .resolver
  | some s' => .ok ⟨node, newHash, s'⟩

def processReport (s : R.State) (report : Bytes) : Except ReceiverError (Refreshed R) := do
  let decoded ← decodeReport report
  receiver.refresh s decoded.1 decoded.2

def onReport (s : R.State) (sender : Address) (metadata report : Bytes) :
    Except ReceiverError (Refreshed R) := do
  receiver.checkSender sender
  receiver.checkWorkflow metadata
  receiver.processReport s report

/-- Node and hash of a report that passes the checks. -/
def reported (sender : Address) (metadata report : Bytes) : Option (Word × Word) := do
  (receiver.checkSender sender).toOption
  (receiver.checkWorkflow metadata).toOption
  (decodeReport report).toOption

section Calls

variable {receiver} {s : R.State} {sender : Address} {metadata report : Bytes}

theorem onReport_of_reported {pair : Word × Word}
    (h : receiver.reported sender metadata report = some pair) :
    receiver.onReport s sender metadata report = receiver.refresh s pair.1 pair.2 := by
  revert h
  unfold reported onReport processReport
  rcases receiver.checkSender sender with e | _
  · exact fun h => nomatch h
  rcases receiver.checkWorkflow metadata with e | _
  · exact fun h => nomatch h
  rcases decodeReport report with e | decoded
  · exact fun h => nomatch h
  intro h
  obtain rfl : decoded = pair := Option.some.inj h
  rfl

theorem onReport_of_not_reported (h : receiver.reported sender metadata report = none) :
    ∃ e, receiver.onReport s sender metadata report = .error e := by
  revert h
  unfold reported onReport processReport
  rcases receiver.checkSender sender with e | _
  · exact fun _ => ⟨e, rfl⟩
  rcases receiver.checkWorkflow metadata with e | _
  · exact fun _ => ⟨e, rfl⟩
  rcases decodeReport report with e | decoded
  · exact fun _ => ⟨e, rfl⟩
  · exact fun h => nomatch h

theorem refresh_eq_ok {node newHash : Word} {refreshed : Refreshed R}
    (h : receiver.refresh s node newHash = .ok refreshed) :
    refreshed.node = node ∧ refreshed.newHash = newHash ∧
      R.setData s receiver.address node .attestationBuildHash newHash.toBytes = some refreshed.state := by
  unfold refresh at h
  rw [abiEncode_cons, abiEncode_nil, List.append_nil] at h
  split at h
  · cases h
  · next s' hset =>
    obtain rfl := Except.ok.inj h
    exact ⟨rfl, rfl, hset⟩

/-- A report that was processed has passed the checks, and its hash was written. -/
theorem onReport_eq_ok {refreshed : Refreshed R}
    (h : receiver.onReport s sender metadata report = .ok refreshed) :
    receiver.reported sender metadata report = some (refreshed.node, refreshed.newHash) ∧
      R.setData s receiver.address refreshed.node .attestationBuildHash refreshed.newHash.toBytes =
        some refreshed.state := by
  rcases hreported : receiver.reported sender metadata report with _ | ⟨node, newHash⟩
  · obtain ⟨e, herror⟩ := onReport_of_not_reported (s := s) hreported
    cases h.symm.trans herror
  · rw [onReport_of_reported hreported] at h
    obtain ⟨rfl, rfl, hset⟩ := refresh_eq_ok h
    exact ⟨rfl, hset⟩

/-- A report that passes the checks is processed, where the contract may write the record. -/
theorem exists_onReport {node newHash : Word}
    (h : receiver.reported sender metadata report = some (node, newHash))
    (hmay : (R.records s).maySetData node .attestationBuildHash receiver.address = true) :
    ∃ refreshed, receiver.onReport s sender metadata report = .ok refreshed := by
  obtain ⟨s', hset, -⟩ := Resolver.exists_setData hmay (abiEncode [newHash])
  refine ⟨⟨node, newHash, s'⟩, ?_⟩
  rw [onReport_of_reported h, refresh, hset]

/-- With a forwarder set, only its reports are taken. -/
theorem sender_of_reported (hforwarder : receiver.forwarderAddress ≠ 0) {pair : Word × Word}
    (h : receiver.reported sender metadata report = some pair) : sender = receiver.forwarderAddress := by
  by_contra hne
  have hsender : receiver.checkSender sender =
      .error (.invalidSender sender receiver.forwarderAddress) := if_pos ⟨hforwarder, hne⟩
  rw [reported, hsender] at h
  cases h

/-- A report of the forwarder is ABI-encoded, and what it names is what was encoded. -/
theorem decodeReport_abiEncode (node newHash : Word) :
    decodeReport (abiEncode [node, newHash]) = .ok (node, newHash) := by
  have hlength : ¬ (abiEncode [node, newHash]).length < 64 := by simp
  rw [decodeReport, if_neg hlength, abiWord_zero, abiWord_succ, abiWord_zero]

end Calls

end AttestationRefresherReceiver

end DVoD.Ens
