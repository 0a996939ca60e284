import DVoD.Ens.AttestationRefresher
import DVoD.Log.Latest

/-!
# Who sets the checks of a receiver

`ReceiverTemplate` keeps the checks that a report has to pass, and lets the owner change
them.  `known_run` says what they are after any calls by anyone: what the owners, each
while it was the owner, have set last, which is also what the events say.
`onReport_run_iff` says what that means for a report.
-/

namespace DVoD.Ens

open DVoD.Evm DVoD.Log

/-! ### `Ownable` -/

/-- The contract of OpenZeppelin that the template inherits from, as it is documented. -/
structure Ownable where
  State : Type
  deployed : Address → State
  owner : State → Address
  transferOwnership : State → Address → Address → Option State
  renounceOwnership : State → Address → Option State
  owner_deployed : ∀ initialOwner, initialOwner ≠ 0 → owner (deployed initialOwner) = initialOwner
  owner_transferOwnership : ∀ s sender newOwner, (transferOwnership s sender newOwner).map owner =
    if sender = owner s ∧ newOwner ≠ 0 then some newOwner else none
  owner_renounceOwnership : ∀ s sender, (renounceOwnership s sender).map owner =
    if sender = owner s then some 0 else none

/-- The modifier. -/
def Ownable.onlyOwner (O : Ownable) (s : O.State) (sender : Address) : Option Unit :=
  if sender = O.owner s then some () else none

/-! ### Names of workflows -/

/-- `HEX_CHARS`. -/
def hexChars : Bytes := Text.Utf8.encode "0123456789abcdef".toList

def hexChar (n : ℕ) : UInt8 := hexChars.getD n 0

def bytesToHexString (data : Bytes) : Bytes :=
  data.flatMap fun b : UInt8 => [hexChar (b >>> 4).toNat, hexChar (b &&& 0x0f).toNat]

/-- `bytes10(bytes)`, of ten bytes. -/
def bytes10 (bytes : Bytes) : BitVec 80 := BitVec.ofNat 80 (natOfBytes bytes)

section WorkflowName

variable (sha256 : Bytes → Word)

/-- What `setExpectedWorkflowName` stores for a name. -/
def workflowName (name : Bytes) : BitVec 80 :=
  if name.length = 0 then 0 else bytes10 ((bytesToHexString (sha256 name).toBytes).take 10)

end WorkflowName

/-! ### The contract -/

inductive ReceiverEvent where
  | forwarderAddressUpdated (previousForwarder newForwarder : Address)
  | expectedAuthorUpdated (previousAuthor newAuthor : Address)
  | expectedWorkflowNameUpdated (previousName newName : BitVec 80)
  | expectedWorkflowIdUpdated (previousId newId : Word)
  | securityWarning (message : String)
  | attestationRefreshed (node newHash : Word)

inductive ReceiverCall where
  | setForwarderAddress (forwarder : Address)
  | setExpectedAuthor (author : Address)
  | setExpectedWorkflowName (name : Bytes)
  | setExpectedWorkflowId (id : Word)
  | transferOwnership (newOwner : Address)
  | renounceOwnership
  | onReport (metadata report : Bytes)

/-- The receiver as it is deployed, with its owner, and the resolver that it writes to. -/
structure Deployment (O : Ownable) (R : Resolver) where
  ownable : O.State
  receiver : AttestationRefresherReceiver
  resolver : R.State

namespace Deployment

variable {O : Ownable} {R : Resolver}

/-- The constructors; `address` is where the contract comes to be. -/
def deploy (O : Ownable) {R : Resolver} (resolver : R.State) (address deployer forwarder : Address) :
    Option (List ReceiverEvent × Deployment O R) :=
  if forwarder = 0 then none
  else some ([.forwarderAddressUpdated 0 forwarder],
    ⟨O.deployed deployer, ⟨address, forwarder, 0, 0, 0⟩, resolver⟩)

/-- A setter: for the owner only. -/
def configure (d : Deployment O R) (sender : Address) (events : List ReceiverEvent)
    (receiver : AttestationRefresherReceiver) : Option (List ReceiverEvent × Deployment O R) := do
  O.onlyOwner d.ownable sender
  return (events, { d with receiver := receiver })

def setForwarderAddress (d : Deployment O R) (sender forwarder : Address) :
    Option (List ReceiverEvent × Deployment O R) :=
  let warning := if forwarder = 0 then
    [ReceiverEvent.securityWarning "Forwarder address set to zero - contract is now INSECURE"] else []
  d.configure sender (warning ++ [.forwarderAddressUpdated d.receiver.forwarderAddress forwarder])
    { d.receiver with forwarderAddress := forwarder }

def setExpectedAuthor (d : Deployment O R) (sender author : Address) :
    Option (List ReceiverEvent × Deployment O R) :=
  d.configure sender [.expectedAuthorUpdated d.receiver.expectedAuthor author]
    { d.receiver with expectedAuthor := author }

def setExpectedWorkflowName (sha256 : Bytes → Word) (d : Deployment O R) (sender : Address) (name : Bytes) :
    Option (List ReceiverEvent × Deployment O R) :=
  d.configure sender
    [.expectedWorkflowNameUpdated d.receiver.expectedWorkflowName (workflowName sha256 name)]
    { d.receiver with expectedWorkflowName := workflowName sha256 name }

def setExpectedWorkflowId (d : Deployment O R) (sender : Address) (id : Word) :
    Option (List ReceiverEvent × Deployment O R) :=
  d.configure sender [.expectedWorkflowIdUpdated d.receiver.expectedWorkflowId id]
    { d.receiver with expectedWorkflowId := id }

variable (sha256 : Bytes → Word)

/-- Events and state after a call, or `none` where it reverts. -/
def perform (d : Deployment O R) (sender : Address) :
    ReceiverCall → Option (List ReceiverEvent × Deployment O R)
  | .setForwarderAddress forwarder => d.setForwarderAddress sender forwarder
  | .setExpectedAuthor author => d.setExpectedAuthor sender author
  | .setExpectedWorkflowName name => d.setExpectedWorkflowName sha256 sender name
  | .setExpectedWorkflowId id => d.setExpectedWorkflowId sender id
  | .transferOwnership newOwner =>
      (O.transferOwnership d.ownable sender newOwner).map fun s => ([], { d with ownable := s })
  | .renounceOwnership => (O.renounceOwnership d.ownable sender).map fun s => ([], { d with ownable := s })
  | .onReport metadata report =>
      (d.receiver.onReport d.resolver sender metadata report).toOption.map fun refreshed =>
        ([.attestationRefreshed refreshed.node refreshed.newHash], { d with resolver := refreshed.state })

/-- A call that reverts logs nothing and changes nothing. -/
def step (past : List ReceiverEvent × Deployment O R) (tx : Address × ReceiverCall) :
    List ReceiverEvent × Deployment O R :=
  match past.2.perform sha256 tx.1 tx.2 with
  | none => past
  | some (events, d) => (past.1 ++ events, d)

def run (past : List ReceiverEvent × Deployment O R) (txs : List (Address × ReceiverCall)) :
    List ReceiverEvent × Deployment O R :=
  txs.foldl (step sha256) past

end Deployment

/-! ### What the owners said -/

/-- The owner, and the calls that owners have made, each while it was the owner. -/
structure Ownership where
  owner : Address
  calls : List ReceiverCall

namespace Ownership

def next (o : Ownership) (tx : Address × ReceiverCall) : Ownership :=
  if tx.1 = o.owner then
    { owner := match tx.2 with
        | .transferOwnership newOwner => if newOwner = 0 then o.owner else newOwner
        | .renounceOwnership => 0
        | _ => o.owner
      calls := o.calls ++ [tx.2] }
  else o

/-- From the deployment on. -/
def after (deployer : Address) (txs : List (Address × ReceiverCall)) : Ownership :=
  txs.foldl next ⟨deployer, []⟩

end Ownership

def ReceiverCall.forwarder? : ReceiverCall → Option Address
  | .setForwarderAddress forwarder => some forwarder
  | _ => none

def ReceiverCall.author? : ReceiverCall → Option Address
  | .setExpectedAuthor author => some author
  | _ => none

def ReceiverCall.name? : ReceiverCall → Option Bytes
  | .setExpectedWorkflowName name => some name
  | _ => none

def ReceiverCall.id? : ReceiverCall → Option Word
  | .setExpectedWorkflowId id => some id
  | _ => none

/-- The checks as owners set them last; a check that was never set is off. -/
structure Settings where
  forwarder : Address
  author : Address
  name : Bytes
  id : Word

def Ownership.settings (initialForwarder : Address) (o : Ownership) : Settings where
  forwarder := (latest ReceiverCall.forwarder? o.calls).getD initialForwarder
  author := (latest ReceiverCall.author? o.calls).getD 0
  name := (latest ReceiverCall.name? o.calls).getD []
  id := (latest ReceiverCall.id? o.calls).getD 0

/-- A report from the sender with the metadata passes. -/
structure Settings.Accepts (sha256 : Bytes → Word) (settings : Settings) (sender : Address)
    (metadata : Bytes) : Prop where
  forwarder : settings.forwarder ≠ 0 → sender = settings.forwarder
  id : settings.id ≠ 0 → (decodeMetadata metadata).workflowId = settings.id
  author : settings.author ≠ 0 → (decodeMetadata metadata).workflowOwner = settings.author
  -- a name alone is not enough: a contract with a name and no author takes no report
  name : settings.name ≠ [] → settings.author ≠ 0 ∧
    (decodeMetadata metadata).workflowName =
      bytes10 ((bytesToHexString (sha256 settings.name).toBytes).take 10)

/-! ### The settings and the events -/

/-- The receiver with these settings. -/
def Settings.receiver (sha256 : Bytes → Word) (address : Address) (settings : Settings) :
    AttestationRefresherReceiver where
  address := address
  forwarderAddress := settings.forwarder
  expectedAuthor := settings.author
  expectedWorkflowName := workflowName sha256 settings.name
  expectedWorkflowId := settings.id

def ReceiverEvent.newForwarder? : ReceiverEvent → Option Address
  | .forwarderAddressUpdated _ newForwarder => some newForwarder
  | _ => none

def ReceiverEvent.newAuthor? : ReceiverEvent → Option Address
  | .expectedAuthorUpdated _ newAuthor => some newAuthor
  | _ => none

def ReceiverEvent.newName? : ReceiverEvent → Option (BitVec 80)
  | .expectedWorkflowNameUpdated _ newName => some newName
  | _ => none

def ReceiverEvent.newId? : ReceiverEvent → Option Word
  | .expectedWorkflowIdUpdated _ newId => some newId
  | _ => none

/-- The receiver as the events have it. -/
def receiverOfEvents (address : Address) (events : List ReceiverEvent) : AttestationRefresherReceiver where
  address := address
  forwarderAddress := (latest ReceiverEvent.newForwarder? events).getD 0
  expectedAuthor := (latest ReceiverEvent.newAuthor? events).getD 0
  expectedWorkflowName := (latest ReceiverEvent.newName? events).getD 0
  expectedWorkflowId := (latest ReceiverEvent.newId? events).getD 0

/-- What is known of the contract: owner and checks are what the owners made them, the
    events say the same, and the roles at the resolver are those of the deployment. -/
structure Known (sha256 : Bytes → Word) (initialForwarder address : Address) {O : Ownable} {R : Resolver}
    (records : Records) (o : Ownership) (past : List ReceiverEvent × Deployment O R) : Prop where
  owner : O.owner past.2.ownable = o.owner
  receiver : past.2.receiver = (o.settings initialForwarder).receiver sha256 address
  events : past.2.receiver = receiverOfEvents address past.1
  roles : ∀ node key account, (R.records past.2.resolver).maySetData node key account =
    records.maySetData node key account

section Steps

variable {O : Ownable} {R : Resolver} {sha256 : Bytes → Word} {initialForwarder address sender : Address}
  {records : Records} {o : Ownership} {past : List ReceiverEvent × Deployment O R} {d : Deployment O R}
  {call : ReceiverCall}

theorem settings_next_of_owner (h : sender = o.owner) : (o.next (sender, call)).settings initialForwarder =
    { forwarder := call.forwarder?.getD (o.settings initialForwarder).forwarder
      author := call.author?.getD (o.settings initialForwarder).author
      name := call.name?.getD (o.settings initialForwarder).name
      id := call.id?.getD (o.settings initialForwarder).id } := by
  simp only [Ownership.next, if_pos h, Ownership.settings, latest_concat, Option.getD_or]

theorem next_of_not_owner (h : sender ≠ o.owner) : o.next (sender, call) = o := if_neg h

theorem Deployment.configure_of_owner (h : sender = O.owner d.ownable) (events : List ReceiverEvent)
    (receiver : AttestationRefresherReceiver) :
    d.configure sender events receiver = some (events, { d with receiver := receiver }) := by
  rw [Deployment.configure, Ownable.onlyOwner, if_pos h]
  rfl

theorem Deployment.configure_of_not_owner (h : sender ≠ O.owner d.ownable) (events : List ReceiverEvent)
    (receiver : AttestationRefresherReceiver) : d.configure sender events receiver = none := by
  rw [Deployment.configure, Ownable.onlyOwner, if_neg h]
  rfl

/-- Only reports are taken from others. -/
theorem Deployment.perform_of_not_owner (h : sender ≠ O.owner d.ownable)
    (hcall : ∀ metadata report, call ≠ .onReport metadata report) :
    d.perform sha256 sender call = none := by
  cases call with
  | setForwarderAddress forwarder => exact configure_of_not_owner h _ _
  | setExpectedAuthor author => exact configure_of_not_owner h _ _
  | setExpectedWorkflowName name => exact configure_of_not_owner h _ _
  | setExpectedWorkflowId id => exact configure_of_not_owner h _ _
  | transferOwnership newOwner =>
    have hlaw := O.owner_transferOwnership d.ownable sender newOwner
    rw [if_neg fun hand => h hand.1, Option.map_eq_none_iff] at hlaw
    rw [perform, hlaw]
    rfl
  | renounceOwnership =>
    have hlaw := O.owner_renounceOwnership d.ownable sender
    rw [if_neg h, Option.map_eq_none_iff] at hlaw
    rw [perform, hlaw]
    rfl
  | onReport metadata report => exact absurd rfl (hcall metadata report)

/-- A setter of the owner keeps what is known, if it logs what it sets. -/
theorem Known.configure (h : Known sha256 initialForwarder address records o past)
    (hsender : sender = o.owner) {events : List ReceiverEvent} {receiver : AttestationRefresherReceiver}
    (hperform : past.2.perform sha256 sender call = past.2.configure sender events receiver)
    (howner : (o.next (sender, call)).owner = o.owner)
    (hreceiver : receiver = ((o.next (sender, call)).settings initialForwarder).receiver sha256 address)
    (hevents : receiver = receiverOfEvents address (past.1 ++ events)) :
    Known sha256 initialForwarder address records (o.next (sender, call))
      (Deployment.step sha256 past (sender, call)) := by
  have hstep : Deployment.step sha256 past (sender, call) =
      (past.1 ++ events, { past.2 with receiver := receiver }) := by
    rw [Deployment.step, hperform, Deployment.configure_of_owner (hsender.trans h.owner.symm)]
  rw [hstep]
  exact ⟨h.owner.trans howner.symm, hreceiver, hevents, h.roles⟩

theorem receiverOfEvents_append (events new : List ReceiverEvent) :
    receiverOfEvents address (events ++ new) =
      { address := address
        forwarderAddress := (latest ReceiverEvent.newForwarder? new).getD
          (receiverOfEvents address events).forwarderAddress
        expectedAuthor := (latest ReceiverEvent.newAuthor? new).getD
          (receiverOfEvents address events).expectedAuthor
        expectedWorkflowName := (latest ReceiverEvent.newName? new).getD
          (receiverOfEvents address events).expectedWorkflowName
        expectedWorkflowId := (latest ReceiverEvent.newId? new).getD
          (receiverOfEvents address events).expectedWorkflowId } := by
  simp only [receiverOfEvents, latest_append, Option.getD_or]

theorem latest_newForwarder? (previous forwarder : Address) (warnings : List ReceiverEvent) :
    latest ReceiverEvent.newForwarder? (warnings ++ [.forwarderAddressUpdated previous forwarder]) =
      some forwarder := by
  rw [latest_concat]
  rfl

theorem Known.setForwarderAddress (h : Known sha256 initialForwarder address records o past)
    (hsender : sender = o.owner) (forwarder : Address) :
    Known sha256 initialForwarder address records (o.next (sender, .setForwarderAddress forwarder))
      (Deployment.step sha256 past (sender, .setForwarderAddress forwarder)) := by
  apply h.configure hsender rfl
  · rw [Ownership.next, if_pos hsender]
  · rw [settings_next_of_owner hsender, h.receiver]
    rfl
  · rw [receiverOfEvents_append, h.events, latest_newForwarder?]
    by_cases hzero : forwarder = 0
    · rw [if_pos hzero]
      rfl
    · rw [if_neg hzero]
      rfl

theorem Known.transferOwnership (h : Known sha256 initialForwarder address records o past)
    (hsender : sender = o.owner) (newOwner : Address) :
    Known sha256 initialForwarder address records (o.next (sender, .transferOwnership newOwner))
      (Deployment.step sha256 past (sender, .transferOwnership newOwner)) := by
  have hlaw := O.owner_transferOwnership past.2.ownable sender newOwner
  have hsettings : (o.next (sender, .transferOwnership newOwner)).settings initialForwarder =
      o.settings initialForwarder := settings_next_of_owner hsender
  have hnext : (o.next (sender, .transferOwnership newOwner)).owner =
      if newOwner = 0 then o.owner else newOwner := by
    rw [Ownership.next, if_pos hsender]
  cases htransfer : O.transferOwnership past.2.ownable sender newOwner with
  | none =>
    rw [htransfer, Option.map_none, eq_comm, ite_eq_right_iff] at hlaw
    have hzero : newOwner = 0 := by
      by_contra hne
      cases hlaw ⟨hsender.trans h.owner.symm, hne⟩
    have hstep : Deployment.step sha256 past (sender, .transferOwnership newOwner) = past := by
      simp only [Deployment.step, Deployment.perform, htransfer, Option.map_none]
    rw [hstep]
    refine ⟨?_, ?_, h.events, h.roles⟩
    · rw [hnext, if_pos hzero, h.owner]
    · rw [hsettings]
      exact h.receiver
  | some s =>
    rw [htransfer, Option.map_some, eq_comm, Option.ite_none_right_eq_some] at hlaw
    obtain ⟨⟨-, hne⟩, howner⟩ := hlaw
    have hstep : Deployment.step sha256 past (sender, .transferOwnership newOwner) =
        (past.1 ++ [], { past.2 with ownable := s }) := by
      simp only [Deployment.step, Deployment.perform, htransfer, Option.map_some]
    rw [hstep, List.append_nil]
    refine ⟨?_, ?_, h.events, h.roles⟩
    · rw [hnext, if_neg hne]
      exact (Option.some.inj howner).symm
    · rw [hsettings]
      exact h.receiver

theorem Known.renounceOwnership (h : Known sha256 initialForwarder address records o past)
    (hsender : sender = o.owner) :
    Known sha256 initialForwarder address records (o.next (sender, .renounceOwnership))
      (Deployment.step sha256 past (sender, .renounceOwnership)) := by
  have hlaw := O.owner_renounceOwnership past.2.ownable sender
  rw [if_pos (hsender.trans h.owner.symm)] at hlaw
  obtain ⟨s, hrenounce, howner⟩ := Option.map_eq_some_iff.mp hlaw
  have hstep : Deployment.step sha256 past (sender, .renounceOwnership) =
      (past.1 ++ [], { past.2 with ownable := s }) := by
    simp only [Deployment.step, Deployment.perform, hrenounce, Option.map_some]
  rw [hstep, List.append_nil]
  refine ⟨?_, ?_, h.events, h.roles⟩
  · rw [Ownership.next, if_pos hsender]
    exact howner
  · rw [settings_next_of_owner hsender]
    exact h.receiver

/-- A report leaves owner and checks alone, whoever sends it. -/
theorem Known.onReport (h : Known sha256 initialForwarder address records o past) (sender : Address)
    (metadata report : Bytes) :
    Known sha256 initialForwarder address records (o.next (sender, .onReport metadata report))
      (Deployment.step sha256 past (sender, .onReport metadata report)) := by
  have howner : (o.next (sender, .onReport metadata report)).owner = o.owner := by
    rw [Ownership.next]
    split <;> rfl
  have hsettings : (o.next (sender, .onReport metadata report)).settings initialForwarder =
      o.settings initialForwarder := by
    by_cases hsender : sender = o.owner
    · exact settings_next_of_owner hsender
    · rw [next_of_not_owner hsender]
  cases hreport : past.2.receiver.onReport past.2.resolver sender metadata report with
  | error e =>
    have hstep : Deployment.step sha256 past (sender, .onReport metadata report) = past := by
      simp only [Deployment.step, Deployment.perform, hreport, Except.toOption, Option.map_none]
    rw [hstep]
    exact ⟨h.owner.trans howner.symm, hsettings.symm ▸ h.receiver, h.events, h.roles⟩
  | ok refreshed =>
    have hstep : Deployment.step sha256 past (sender, .onReport metadata report) =
        (past.1 ++ [.attestationRefreshed refreshed.node refreshed.newHash],
          { past.2 with resolver := refreshed.state }) := by
      simp only [Deployment.step, Deployment.perform, hreport, Except.toOption, Option.map_some]
    have hset := (AttestationRefresherReceiver.onReport_eq_ok hreport).2
    rw [hstep]
    refine ⟨h.owner.trans howner.symm, hsettings.symm ▸ h.receiver, ?_, ?_⟩
    · rw [receiverOfEvents_append]
      exact h.events
    · intro node key account
      rw [(Resolver.setData_eq_some hset).2]
      exact h.roles node key account

/-- **A call keeps what is known.** -/
theorem Known.step (h : Known sha256 initialForwarder address records o past)
    (tx : Address × ReceiverCall) :
    Known sha256 initialForwarder address records (o.next tx) (Deployment.step sha256 past tx) := by
  obtain ⟨sender, call⟩ := tx
  by_cases hreport : ∃ metadata report, call = .onReport metadata report
  · obtain ⟨metadata, report, rfl⟩ := hreport
    exact h.onReport sender metadata report
  by_cases hsender : sender = o.owner
  swap
  · have hnone : past.2.perform sha256 sender call = none :=
      Deployment.perform_of_not_owner (fun heq => hsender (heq.trans h.owner))
        fun metadata report heq => hreport ⟨metadata, report, heq⟩
    rw [next_of_not_owner hsender, Deployment.step, hnone]
    exact h
  cases call with
  | setForwarderAddress forwarder => exact h.setForwarderAddress hsender forwarder
  | setExpectedAuthor author =>
    apply h.configure hsender rfl
    · rw [Ownership.next, if_pos hsender]
    · rw [settings_next_of_owner hsender, h.receiver]
      rfl
    · rw [receiverOfEvents_append, h.events]
      rfl
  | setExpectedWorkflowName name =>
    apply h.configure hsender rfl
    · rw [Ownership.next, if_pos hsender]
    · rw [settings_next_of_owner hsender, h.receiver]
      rfl
    · rw [receiverOfEvents_append, h.events]
      rfl
  | setExpectedWorkflowId id =>
    apply h.configure hsender rfl
    · rw [Ownership.next, if_pos hsender]
    · rw [settings_next_of_owner hsender, h.receiver]
      rfl
    · rw [receiverOfEvents_append, h.events]
      rfl
  | transferOwnership newOwner => exact h.transferOwnership hsender newOwner
  | renounceOwnership => exact h.renounceOwnership hsender
  | onReport metadata report => exact absurd ⟨metadata, report, rfl⟩ hreport

end Steps

/-! ### Runs -/

section Runs

variable {O : Ownable} {R : Resolver} {sha256 : Bytes → Word}
  {initialForwarder address deployer forwarder sender : Address} {records : Records} {o : Ownership}
  {past first : List ReceiverEvent × Deployment O R} {resolver : R.State} {metadata report : Bytes}

theorem Known.run (h : Known sha256 initialForwarder address records o past)
    (txs : List (Address × ReceiverCall)) :
    Known sha256 initialForwarder address records (txs.foldl Ownership.next o)
      (Deployment.run sha256 past txs) := by
  induction txs generalizing o past with
  | nil => exact h
  | cons tx txs ih => exact ih (h.step tx)

theorem Known.deploy (hdeployer : deployer ≠ 0)
    (h : Deployment.deploy O resolver address deployer forwarder = some first) :
    Known sha256 forwarder address (R.records resolver) ⟨deployer, []⟩ first := by
  simp only [Deployment.deploy, Option.ite_none_left_eq_some, Option.some.injEq] at h
  obtain ⟨-, rfl⟩ := h
  exact ⟨O.owner_deployed deployer hdeployer, rfl, rfl, fun _ _ _ => rfl⟩

theorem Known.after (hdeployer : deployer ≠ 0)
    (h : Deployment.deploy O resolver address deployer forwarder = some first)
    (txs : List (Address × ReceiverCall)) :
    Known sha256 forwarder address (R.records resolver) (Ownership.after deployer txs)
      (Deployment.run sha256 first txs) :=
  (Known.deploy hdeployer h).run txs

/-- Without an owner, nobody is heard. -/
theorem foldl_next_of_renounced {later : List (Address × ReceiverCall)} (h : o.owner = 0)
    (hsenders : ∀ tx ∈ later, tx.1 ≠ 0) : later.foldl Ownership.next o = o := by
  induction later with
  | nil => rfl
  | cons tx later ih =>
    obtain ⟨hsender, hlater⟩ := List.forall_mem_cons.mp hsenders
    have hnext : o.next tx = o := next_of_not_owner fun heq => hsender (heq.trans h)
    rw [List.foldl_cons, hnext]
    exact ih hlater

/-- **Who sets the checks.**  After any calls by anyone, the checks are those that the
    owners set last, each while it was the owner, and the events say so too; once the
    ownership is renounced, no call changes them. -/
theorem known_run (hdeployer : deployer ≠ 0)
    (hdeploy : Deployment.deploy O resolver address deployer forwarder = some first)
    (txs : List (Address × ReceiverCall)) :
    Known sha256 forwarder address (R.records resolver) (Ownership.after deployer txs)
      (Deployment.run sha256 first txs) ∧
    ((Ownership.after deployer txs).owner = 0 → ∀ later : List (Address × ReceiverCall),
      (∀ tx ∈ later, tx.1 ≠ 0) →
        (Deployment.run sha256 first (txs ++ later)).2.receiver =
          (Deployment.run sha256 first txs).2.receiver) := by
  have hknown (txs : List (Address × ReceiverCall)) : Known sha256 forwarder address (R.records resolver)
      (Ownership.after deployer txs) (Deployment.run sha256 first txs) := Known.after hdeployer hdeploy txs
  refine ⟨hknown txs, ?_⟩
  intro hrenounced later hsenders
  have hsame : Ownership.after deployer (txs ++ later) = Ownership.after deployer txs := by
    rw [Ownership.after, List.foldl_append]
    exact foldl_next_of_renounced hrenounced hsenders
  rw [(hknown (txs ++ later)).receiver, (hknown txs).receiver, hsame]

/-! ### Reports -/

theorem hexChar_ne_zero (b : UInt8) : hexChar (b >>> 4).toNat ≠ 0 ∧ hexChar (b &&& 0x0f).toNat ≠ 0 := by
  have hall : ∀ n < 256, hexChar (UInt8.ofNat n >>> 4).toNat ≠ 0 ∧ hexChar (UInt8.ofNat n &&& 0x0f).toNat ≠ 0 := by
    decide +kernel
  simpa using hall b.toNat b.toNat_lt

theorem ne_zero_of_mem_bytesToHexString {data : Bytes} {c : UInt8} (h : c ∈ bytesToHexString data) : c ≠ 0 := by
  obtain ⟨b, -, hc⟩ := List.mem_flatMap.mp h
  simp only [List.mem_cons, List.not_mem_nil, or_false] at hc
  rcases hc with rfl | rfl
  · exact (hexChar_ne_zero b).1
  · exact (hexChar_ne_zero b).2

theorem length_bytesToHexString (data : Bytes) : (bytesToHexString data).length = 2 * data.length := by
  induction data with
  | nil => rfl
  | cons b data ih =>
    rw [bytesToHexString, List.flatMap_cons, List.length_append, ← bytesToHexString, ih, List.length_cons]
    simp only [List.length_cons, List.length_nil]
    omega

theorem bytes10_ne_zero {bytes : Bytes} (hlength : bytes.length = 10) (h : ∀ c ∈ bytes, c ≠ 0) :
    bytes10 bytes ≠ 0 := by
  have hlt : natOfBytes bytes < 2 ^ 80 := by
    have hlt := natOfBytes_lt bytes
    rw [hlength] at hlt
    norm_num at hlt ⊢
    exact hlt
  have hpos : 0 < natOfBytes bytes := by
    rcases List.eq_nil_or_concat bytes with rfl | ⟨bytes, c, rfl⟩
    · cases hlength
    · have hc : c ≠ 0 := h c (by simp)
      have hvalue : c.toNat ≠ 0 := fun hzero => hc (UInt8.toNat_inj.mp hzero)
      rw [List.concat_eq_append, natOfBytes_concat]
      omega
  intro hzero
  have hvalue := congrArg BitVec.toNat hzero
  simp only [bytes10, BitVec.toNat_ofNat, Nat.mod_eq_of_lt hlt] at hvalue
  exact hpos.ne' hvalue

/-- A name that is set never reads as the zero that stands for no name. -/
theorem workflowName_eq_zero_iff (name : Bytes) : workflowName sha256 name = 0 ↔ name = [] := by
  by_cases hname : name = []
  · rw [hname]
    exact iff_of_true rfl rfl
  · refine iff_of_false ?_ hname
    rw [workflowName, if_neg (by simpa using hname)]
    apply bytes10_ne_zero
    · simp [length_bytesToHexString]
    · intro c hc
      exact ne_zero_of_mem_bytesToHexString (List.mem_of_mem_take hc)

theorem workflowName_of_ne_nil {name : Bytes} (h : name ≠ []) : workflowName sha256 name =
    bytes10 ((bytesToHexString (sha256 name).toBytes).take 10) :=
  if_neg (by simpa using h)

theorem checkSender_eq_ok_iff {receiver : AttestationRefresherReceiver} :
    receiver.checkSender sender = .ok () ↔
      (receiver.forwarderAddress ≠ 0 → sender = receiver.forwarderAddress) := by
  rw [AttestationRefresherReceiver.checkSender]
  split
  · next h => exact iff_of_false nofun fun hall => h.2 (hall h.1)
  · next h =>
    refine iff_of_true rfl fun hne => ?_
    by_contra hsender
    exact h ⟨hne, hsender⟩

theorem checkWorkflow_eq_ok_iff {receiver : AttestationRefresherReceiver} :
    receiver.checkWorkflow metadata = .ok () ↔
      (receiver.expectedWorkflowId ≠ 0 →
        (decodeMetadata metadata).workflowId = receiver.expectedWorkflowId) ∧
      (receiver.expectedAuthor ≠ 0 → (decodeMetadata metadata).workflowOwner = receiver.expectedAuthor) ∧
      (receiver.expectedWorkflowName ≠ 0 → receiver.expectedAuthor ≠ 0 ∧
        (decodeMetadata metadata).workflowName = receiver.expectedWorkflowName) := by
  unfold AttestationRefresherReceiver.checkWorkflow
  grind

theorem reported_eq_some_iff {receiver : AttestationRefresherReceiver} {pair : Word × Word} :
    receiver.reported sender metadata report = some pair ↔
      receiver.checkSender sender = .ok () ∧ receiver.checkWorkflow metadata = .ok () ∧
        64 ≤ report.length ∧ (abiWord report 0, abiWord report 1) = pair := by
  unfold AttestationRefresherReceiver.reported
  rcases receiver.checkSender sender with e | _
  · constructor
    · intro h
      cases h
    · intro h
      cases h.1
  rcases receiver.checkWorkflow metadata with e | _
  · constructor
    · intro h
      cases h
    · intro h
      cases h.2.1
  by_cases hlength : report.length < 64
  · rw [AttestationRefresherReceiver.decodeReport, if_pos hlength]
    constructor
    · intro h
      cases h
    · intro h
      exact absurd hlength (not_lt.mpr h.2.2.1)
  · rw [AttestationRefresherReceiver.decodeReport, if_neg hlength]
    simpa [Except.toOption] using fun _ => not_lt.mp hlength

theorem checks_iff_accepts (settings : Settings) :
    ((settings.receiver sha256 address).checkSender sender = .ok () ∧
      (settings.receiver sha256 address).checkWorkflow metadata = .ok ()) ↔
      settings.Accepts sha256 sender metadata := by
  have hname : workflowName sha256 settings.name = 0 ↔ settings.name = [] :=
    workflowName_eq_zero_iff settings.name
  rw [checkSender_eq_ok_iff, checkWorkflow_eq_ok_iff]
  constructor
  · rintro ⟨hforwarder, hid, hauthor, hchecked⟩
    refine ⟨hforwarder, hid, hauthor, ?_⟩
    intro hne
    have hstored := hchecked fun hzero => hne (hname.mp hzero)
    exact ⟨hstored.1, hstored.2.trans (workflowName_of_ne_nil hne)⟩
  · rintro ⟨hforwarder, hid, hauthor, hchecked⟩
    refine ⟨hforwarder, hid, hauthor, ?_⟩
    intro hne
    have hname' : settings.name ≠ [] := fun hnil => hne (hname.mpr hnil)
    exact ⟨(hchecked hname').1, (hchecked hname').2.trans (workflowName_of_ne_nil hname').symm⟩

/-- A report that is processed passes the checks, and is written. -/
theorem Deployment.perform_onReport_iff {d d' : Deployment O R} {events : List ReceiverEvent} :
    d.perform sha256 sender (.onReport metadata report) = some (events, d') ↔
      (d.receiver.checkSender sender = .ok () ∧ d.receiver.checkWorkflow metadata = .ok ()) ∧
        64 ≤ report.length ∧
        ∃ s, R.setData d.resolver d.receiver.address (abiWord report 0) .attestationBuildHash
            (abiWord report 1).toBytes = some s ∧
          events = [.attestationRefreshed (abiWord report 0) (abiWord report 1)] ∧
          d' = { d with resolver := s } := by
  rw [Deployment.perform]
  constructor
  · intro h
    obtain ⟨refreshed, hreport, hresult⟩ := Option.map_eq_some_iff.mp h
    cases hok : d.receiver.onReport d.resolver sender metadata report with
    | error e =>
      rw [hok] at hreport
      cases hreport
    | ok refreshed' =>
      rw [hok] at hreport
      obtain rfl := Option.some.inj hreport
      obtain ⟨hreported, hset⟩ := AttestationRefresherReceiver.onReport_eq_ok hok
      obtain ⟨hsender, hworkflow, hlength, hpair⟩ := reported_eq_some_iff.mp hreported
      obtain ⟨hnode, hhash⟩ := Prod.mk.inj hpair
      obtain ⟨hevents, hd⟩ := Prod.mk.inj hresult
      rw [hnode, hhash]
      exact ⟨⟨hsender, hworkflow⟩, hlength, refreshed'.state, hset, hevents.symm, hd.symm⟩
  · rintro ⟨⟨hsender, hworkflow⟩, hlength, s, hset, rfl, rfl⟩
    have hreported := reported_eq_some_iff.mpr ⟨hsender, hworkflow, hlength, rfl⟩
    rw [AttestationRefresherReceiver.onReport_of_reported hreported,
      AttestationRefresherReceiver.refresh, abiEncode_cons, abiEncode_nil, List.append_nil, hset]
    rfl

/-- **Which reports are processed.**  After any calls by anyone, a report is processed
    exactly where it passes the checks as the owners set them last, names a record and a
    hash, and the contract holds the role for the record; then that record has the hash,
    and all others are as they were. -/
theorem onReport_run_iff (hdeployer : deployer ≠ 0)
    (hdeploy : Deployment.deploy O resolver address deployer forwarder = some first)
    (txs : List (Address × ReceiverCall)) (sender : Address) (metadata report : Bytes) :
    ((∃ events d, (Deployment.run sha256 first txs).2.perform sha256 sender (.onReport metadata report) =
        some (events, d)) ↔
      ((Ownership.after deployer txs).settings forwarder).Accepts sha256 sender metadata ∧
        64 ≤ report.length ∧
        (R.records resolver).maySetData (abiWord report 0) .attestationBuildHash address = true) ∧
    ∀ events d, (Deployment.run sha256 first txs).2.perform sha256 sender (.onReport metadata report) =
        some (events, d) →
      R.records d.resolver = (R.records (Deployment.run sha256 first txs).2.resolver).setData
        (abiWord report 0) .attestationBuildHash (abiWord report 1).toBytes ∧
      events = [.attestationRefreshed (abiWord report 0) (abiWord report 1)] := by
  have hknown : Known sha256 forwarder address (R.records resolver) (Ownership.after deployer txs)
      (Deployment.run sha256 first txs) := Known.after hdeployer hdeploy txs
  have haddress : (Deployment.run sha256 first txs).2.receiver.address = address := by
    rw [hknown.receiver]
    rfl
  have hchecks : ((Deployment.run sha256 first txs).2.receiver.checkSender sender = .ok () ∧
      (Deployment.run sha256 first txs).2.receiver.checkWorkflow metadata = .ok ()) ↔
        ((Ownership.after deployer txs).settings forwarder).Accepts sha256 sender metadata := by
    rw [hknown.receiver]
    exact checks_iff_accepts _
  constructor
  · rw [← hknown.roles, ← haddress, ← hchecks]
    constructor
    · rintro ⟨events, d, h⟩
      obtain ⟨hpass, hlength, s, hset, -, -⟩ := Deployment.perform_onReport_iff.mp h
      exact ⟨hpass, hlength, (Resolver.setData_eq_some hset).1⟩
    · rintro ⟨hpass, hlength, hmay⟩
      obtain ⟨s, hset, -⟩ := Resolver.exists_setData hmay (abiWord report 1).toBytes
      exact ⟨_, _, Deployment.perform_onReport_iff.mpr ⟨hpass, hlength, s, hset, rfl, rfl⟩⟩
  · intro events d h
    obtain ⟨-, -, s, hset, rfl, rfl⟩ := Deployment.perform_onReport_iff.mp h
    exact ⟨(Resolver.setData_eq_some hset).2, rfl⟩

end Runs

/-! ### A run -/

namespace Sample

/-- The owner, kept in storage. -/
def ownable : Ownable where
  State := Address
  deployed := id
  owner := id
  transferOwnership owner sender newOwner := if sender = owner ∧ newOwner ≠ 0 then some newOwner else none
  renounceOwnership owner sender := if sender = owner then some 0 else none
  owner_deployed _ _ := rfl
  owner_transferOwnership _ _ _ := Option.map_id'
  owner_renounceOwnership _ _ := Option.map_id'

def workflow : Bytes := Text.Utf8.encode "refresh".toList

/-- The hash of the one name that is set. -/
def sha256 (bytes : Bytes) : Word :=
  if bytes = workflow then 0xd6cc0a088c07683c65cd266860cab8d94b3a1937b17420d9da30ca299c09fb77 else 0

/-- Nothing is written, and the contract at 9 may write every hash. -/
def blank : Records where
  text _ _ := ""
  data _ _ := []
  maySetText _ _ _ := false
  maySetData _ key account := key = .attestationBuildHash ∧ account = 9

def deployment : List ReceiverEvent × Deployment ownable Records.resolver :=
  ([.forwarderAddressUpdated 0 10], ⟨(7 : Address), ⟨9, 10, 0, 0, 0⟩, blank⟩)

/-- The deployer names an author and a workflow, and renounces; others try to. -/
def administration : List (Address × ReceiverCall) :=
  [(7, .setExpectedAuthor 5), (8, .setExpectedAuthor 6), (7, .setExpectedWorkflowName workflow),
    (7, .renounceOwnership), (7, .setForwarderAddress 0)]

def metadata : Bytes := Word.toBytes 1 ++ Text.Utf8.encode "d6cc0a088c".toList ++ bigEndian 20 5

end Sample

section Sample

open Sample

theorem Sample.deploy_eq :
    Deployment.deploy ownable (R := Records.resolver) blank 9 7 10 = some deployment := rfl

theorem known_run_administration :
    (Deployment.run Sample.sha256 deployment (administration ++ [(8, .setForwarderAddress 8)])).2.receiver =
      (Deployment.run Sample.sha256 deployment administration).2.receiver :=
  (known_run (by decide) Sample.deploy_eq administration).2 (by decide) [(8, .setForwarderAddress 8)]
    (by decide)

theorem onReport_run_iff_administration :
    ∃ events d, (Deployment.run Sample.sha256 deployment administration).2.perform Sample.sha256 10
      (.onReport metadata (abiEncode [3, 4])) = some (events, d) := by
  refine (onReport_run_iff (by decide) Sample.deploy_eq administration 10 metadata
    (abiEncode [3, 4])).1.mpr ⟨?_, by decide, by decide⟩
  constructor
  · decide +kernel
  · decide +kernel
  · decide +kernel
  · decide +kernel

end Sample

end DVoD.Ens
