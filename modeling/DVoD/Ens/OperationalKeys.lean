import DVoD.Ens.NodeOfName

/-!
# What an operational key may change

All operators share one resolver, and each registration grants one account a few roles on
it.  `operational_keys_confined` says that these accounts, with any calls and together
with anyone else but the admin and the watchdog, change nothing but the endpoint, the
tiers and the attestation hash of their own nodes.
-/

namespace DVoD.Ens

open DVoD.Access DVoD.Evm DVoD.Text PermissionedResolver

section Confined

variable {R : PermissionedResolver} {namehash : String → Word}
  {registryAddress resolverAddress admin : Address} {params : RegisterOperatorParams}
  {ops : List RegisterOperatorParams} {calls : List ContractCall} {s s' s₀ s₁ : R.State} {node : Word}

/-! ### The calls of one registration -/

def labelsOf (name : String) : List Bytes := (name.toList.splitOn '.').map Utf8.encode

/-- A wire name is read as the node of the name with its labels. -/
def ReadsNames (R : PermissionedResolver) (namehash : String → Word) : Prop :=
  ∀ name toName, decodeWireName toName = some (labelsOf name) →
    (∀ label ∈ labelsOf name, label.length ≤ 63) → R.nodeOf toName = namehash name

theorem ReadsNames.nodeOf_eq {name : String} {toName : Bytes} (h : ReadsNames R namehash)
    (hlabels : NoEmptyLabels name) (hname : encodeDnsName name = .ok toName) :
    R.nodeOf toName = namehash name := by
  have hlengths := (encodeDnsName_eq_ok hname).2
  have hdecode := decode_encodeDnsName hname
  rw [filter_eq_self_iff.mpr hlabels] at hlengths hdecode
  exact h name toName hdecode fun label hlabel => (hlengths label hlabel).2

theorem accesses_eq (hreads : ReadsNames R namehash) (hlabels : NoEmptyLabels params.name)
    (h : buildRegisterOperatorCalls namehash registryAddress resolverAddress params = .ok calls) :
    accesses R.nodeOf calls = registrationAccesses params (namehash params.name) (namehash params.name) := by
  obtain ⟨toName, hname, rfl⟩ := exists_toName h
  rw [accesses_operatorCalls, hreads.nodeOf_eq hlabels hname]

/-! ### Registrations -/

/-- The admin executes the calls of each operator, one operator after another. -/
inductive Registers (R : PermissionedResolver) (namehash : String → Word)
    (registryAddress resolverAddress admin : Address) :
    List RegisterOperatorParams → R.State → R.State → Prop
  | nil (s : R.State) : Registers R namehash registryAddress resolverAddress admin [] s s
  | cons {params : RegisterOperatorParams} {ops : List RegisterOperatorParams}
      {calls : List ContractCall} {s s₁ s' : R.State} :
      buildRegisterOperatorCalls namehash registryAddress resolverAddress params = .ok calls →
      R.executeAll admin s calls = some s₁ →
      Registers R namehash registryAddress resolverAddress admin ops s₁ s' →
      Registers R namehash registryAddress resolverAddress admin (params :: ops) s s'

def allAccesses (namehash : String → Word) (ops : List RegisterOperatorParams) :
    List (Call Record Address Record.Value) :=
  ops.flatMap fun params => registrationAccesses params (namehash params.name) (namehash params.name)

theorem Registers.store_eq (h : Registers R namehash registryAddress resolverAddress admin ops s s')
    (hreads : ReadsNames R namehash) (hlabels : ∀ params ∈ ops, NoEmptyLabels params.name) :
    R.store s' = (R.store s).applyAll (allAccesses namehash ops) := by
  induction h with
  | nil s => rfl
  | cons hbuild hexec _ ih =>
    have hall := List.forall_mem_cons.mp hlabels
    rw [ih hall.2, store_executeAll hexec, accesses_eq hreads hall.1 hbuild, ← Store.applyAll_append]
    rfl

/-- The records that a registration lets the operational key change. -/
def operationalRecords (node : Word) : List Record :=
  [.text node TextKey.endpoint.name, .text node TextKey.tiersSupported.name,
    .data node DataKey.attestationBuildHash.name]

section Accesses

variable {r : Record} {account : Address}

theorem node_of_write {v : r.Value} (h : .write r v ∈ registrationAccesses params node node) :
    r.node = node := by
  simp only [registrationAccesses, List.mem_cons, List.not_mem_nil, or_false, Call.write.injEq,
    reduceCtorEq] at h
  rcases h with ⟨rfl, -⟩ | ⟨rfl, -⟩ | ⟨rfl, -⟩ | ⟨rfl, -⟩ | ⟨rfl, -⟩ <;> rfl

theorem granted_of_mem (h : .authorize r account true ∈ registrationAccesses params node node) :
    (account = params.operationalKeyAddress ∧ r ∈ operationalRecords node) ∨
      account = params.watchdogAddress := by
  simp only [registrationAccesses, List.mem_cons, List.not_mem_nil, or_false, Call.authorize.injEq,
    reduceCtorEq, false_or, and_true] at h
  rcases h with ⟨rfl, rfl⟩ | ⟨rfl, rfl⟩ | ⟨rfl, rfl⟩ | ⟨rfl, rfl⟩
  · exact Or.inl ⟨rfl, by simp [operationalRecords]⟩
  · exact Or.inl ⟨rfl, by simp [operationalRecords]⟩
  · exact Or.inl ⟨rfl, by simp [operationalRecords]⟩
  · exact Or.inr rfl

theorem not_mem_operationalRecords {node' : Word} {key : DataKey} (hkey : key ≠ .attestationBuildHash) :
    .data node' key.name ∉ operationalRecords node := by
  intro hmem
  simp only [operationalRecords, List.mem_cons, reduceCtorEq, Record.data.injEq,
    List.not_mem_nil, or_false, false_or, DataKey.name_inj] at hmem
  exact hkey hmem.2

/-- The value that a registration writes last, after the other operators too. -/
theorem value_allAccesses (first : List (Call Record Address Record.Value))
    {before after : List RegisterOperatorParams} {t : ResolverStore}
    (hafter : ∀ q ∈ after, namehash q.name ≠ namehash params.name)
    {rest : List (Call Record Address Record.Value)} {v : r.Value}
    (hnode : r.node = namehash params.name)
    (hsplit : registrationAccesses params (namehash params.name) (namehash params.name) =
      first ++ .write r v :: rest)
    (hrest : ∀ v, .write r v ∉ rest) :
    (t.applyAll (allAccesses namehash (before ++ params :: after))).value r = v := by
  rw [allAccesses, List.flatMap_append, List.flatMap_cons, hsplit, List.append_assoc, List.cons_append,
    ← List.append_assoc]
  apply Store.value_applyAll_write
  intro v hmem
  rcases List.mem_append.mp hmem with hmem | hmem
  · exact hrest v hmem
  · obtain ⟨q, hq, hwrite⟩ := List.mem_flatMap.mp hmem
    exact hafter q hq ((node_of_write hwrite).symm.trans hnode)

end Accesses

/-! ### After the registrations -/

section Registered

/-- Anyone but the admin and the watchdogs of the operators. -/
def Outsider (admin : Address) (ops : List RegisterOperatorParams) (account : Address) : Prop :=
  account ≠ admin ∧ ∀ params ∈ ops, account ≠ params.watchdogAddress

/-- Nobody but the admin holds a role. -/
def OnlyAdmin (admin : Address) (t : ResolverStore) : Prop :=
  ∀ account, account ≠ admin → ∀ r, t.mayWrite r account = false ∧ t.mayGrant r account = false

variable (hreads : ReadsNames R namehash) (hadmin : OnlyAdmin admin (R.store s₀))
  (hlabels : ∀ params ∈ ops, NoEmptyLabels params.name)
  (hreg : Registers R namehash registryAddress resolverAddress admin ops s₀ s₁)

include hreads hadmin hlabels hreg

theorem mayGrant_outsider {account : Address} (h : Outsider admin ops account) (r : Record) :
    (R.store s₁).mayGrant r account = false := by
  rw [hreg.store_eq hreads hlabels, Store.applyAll_mayGrant]
  exact (hadmin account h.1 r).2

theorem mayWrite_outsider {account : Address} (h : Outsider admin ops account) {r : Record}
    (hmay : (R.store s₁).mayWrite r account = true) :
    ∃ params ∈ ops, account = params.operationalKeyAddress ∧
      r ∈ operationalRecords (namehash params.name) := by
  rw [hreg.store_eq hreads hlabels] at hmay
  rcases Store.mayWrite_applyAll hmay with hbefore | hmem
  · rw [(hadmin account h.1 r).1] at hbefore
    cases hbefore
  · obtain ⟨params, hparams, hgrant⟩ := List.mem_flatMap.mp hmem
    rcases granted_of_mem hgrant with ⟨hkey, hr⟩ | hwatchdog
    · exact ⟨params, hparams, hkey, hr⟩
    · exact absurd hwatchdog (h.2 params hparams)

omit hadmin in
theorem registered_values (hnames : (ops.map RegisterOperatorParams.name).Nodup)
    (hhash : ∀ p ∈ ops, ∀ q ∈ ops, namehash p.name = namehash q.name → p.name = q.name)
    (hparams : params ∈ ops) :
    R.data s₁ (namehash params.name) .payoutAddress = (addressWord params.payoutAddress).toBytes ∧
      R.data s₁ (namehash params.name) .status = statusActive := by
  obtain ⟨before, after, rfl⟩ := List.append_of_mem hparams
  have hafter : ∀ q ∈ after, namehash q.name ≠ namehash params.name := by
    intro q hq heq
    have hname := hhash q (by simp [hq]) params hparams heq
    rw [List.map_append, List.map_cons, List.nodup_append, List.nodup_cons] at hnames
    exact hnames.2.1.1 (hname ▸ List.mem_map_of_mem hq)
  unfold PermissionedResolver.data
  rw [hreg.store_eq hreads hlabels]
  constructor
  · refine value_allAccesses
      ((registrationAccesses params (namehash params.name) (namehash params.name)).take 3) hafter rfl rfl ?_
    intro v
    simp [DataKey.name]
  · refine value_allAccesses
      ((registrationAccesses params (namehash params.name) (namehash params.name)).take 4) hafter rfl rfl ?_
    intro v
    simp

/-- **Operational keys are confined.**  After the registrations, whatever calls accounts
    other than the admin and the watchdogs send, payout address and status of every
    operator stay as registered, and who changes any record changes the endpoint, the
    tiers or the attestation hash of a node that the account is the operational key of. -/
theorem operational_keys_confined (hnames : (ops.map RegisterOperatorParams.name).Nodup)
    (hhash : ∀ p ∈ ops, ∀ q ∈ ops, namehash p.name = namehash q.name → p.name = q.name)
    (later : List (Address × ResolverCall)) (hlater : ∀ tx ∈ later, Outsider admin ops tx.1) :
    (∀ params ∈ ops,
      R.data (R.transactAll s₁ later) (namehash params.name) .payoutAddress =
        (addressWord params.payoutAddress).toBytes ∧
      R.data (R.transactAll s₁ later) (namehash params.name) .status = statusActive) ∧
    ∀ before tx after, later = before ++ tx :: after → ∀ r,
      (R.store (R.transact (R.transactAll s₁ before) tx)).value r ≠
        (R.store (R.transactAll s₁ before)).value r →
      ∃ params ∈ ops, tx.1 = params.operationalKeyAddress ∧
        r ∈ operationalRecords (namehash params.name) := by
  have hno : ∀ account, Outsider admin ops account → ∀ r, (R.store s₁).mayGrant r account = false :=
    fun account h r => mayGrant_outsider hreads hadmin hlabels hreg h r
  constructor
  · intro params hparams
    have hkept {key : DataKey} (hkey : key ≠ .attestationBuildHash) :
        R.data (R.transactAll s₁ later) (namehash params.name) key =
          R.data s₁ (namehash params.name) key := by
      refine (reaches_transactAll hlater).value_eq hno ?_
      intro account haccount
      rw [Bool.eq_false_iff]
      intro hmay
      obtain ⟨_, _, _, hr⟩ := mayWrite_outsider hreads hadmin hlabels hreg haccount hmay
      exact not_mem_operationalRecords hkey hr
    rw [hkept (by decide), hkept (by decide)]
    exact registered_values hreads hlabels hreg hnames hhash hparams
  · rintro before tx after rfl r hne
    have hsenders := List.forall_mem_append.mp hlater
    have hsender := (List.forall_mem_cons.mp hsenders.2).1
    rcases store_transact R (R.transactAll s₁ before) tx with hsame | ⟨hallows, happly⟩
    · exact absurd (by rw [hsame]) hne
    · rw [happly] at hne
      have hmay := Store.mayWrite_of_value_ne hallows hne
      rw [(reaches_transactAll hsenders.1).mayWrite_eq hno] at hmay
      exact mayWrite_outsider hreads hadmin hlabels hreg hsender hmay

end Registered

end Confined

/-! ### Two operators -/

namespace Sample

def dave : RegisterOperatorParams :=
  { bob with
    name := "dave.dvod-test.eth"
    operationalKeyAddress := 10
    payoutAddress := 11 }

/-- The nodes of bob and of dave. -/
def nodeOfNames (labels : List Bytes) : Word :=
  if labels = labelsOf bob.name then namehash bob.name
  else if labels = labelsOf dave.name then
    0x0a218655d6f2486bf24acd59f45c8b03ccf5834384d47b950b0a70f17430a5cd
  else 0

def readNames (toName : Bytes) : Word := (decodeWireName toName).elim 0 nodeOfNames

def nameNode (name : String) : Word := nodeOfNames (labelsOf name)

theorem readsNames : ReadsNames (storeResolver readNames) nameNode := by
  intro name toName hdecode _
  change readNames toName = nameNode name
  rw [readNames, hdecode]
  rfl

/-- The operational key of bob turns on the payout address of dave, and on its own status. -/
def attack : List (Address × ResolverCall) :=
  [(bob.operationalKeyAddress, .setData (nameNode dave.name) DataKey.payoutAddress.name []),
    (bob.operationalKeyAddress, .authorizeDataRoles [] DataKey.status.name bob.operationalKeyAddress true),
    (bob.operationalKeyAddress, .setData (nameNode bob.name) DataKey.status.name statusActive),
    (bob.operationalKeyAddress, .setText (nameNode bob.name) TextKey.endpoint.name "https://other.example")]

theorem exists_registered : ∃ s₁,
    Registers (storeResolver readNames) nameNode 5 6 9 [bob, dave] fresh s₁ := by
  have hbob : (buildRegisterOperatorCalls nameNode 5 6 bob).toOption.isSome = true := by
    decide +kernel
  have hdave : (buildRegisterOperatorCalls nameNode 5 6 dave).toOption.isSome = true := by
    decide +kernel
  obtain ⟨calls, hbob⟩ := exists_calls hbob
  obtain ⟨calls', hdave⟩ := exists_calls hdave
  obtain ⟨s, hexec, hadmin⟩ := exists_executeAll (R := storeResolver readNames) (s := fresh)
    (permits_storeResolver readNames) administers_fresh calls
  obtain ⟨s', hexec', -⟩ := exists_executeAll (permits_storeResolver readNames) hadmin calls'
  exact ⟨s', .cons hbob hexec (.cons hdave hexec' (.nil s'))⟩

theorem onlyAdmin_fresh : OnlyAdmin 9 fresh := by
  intro account hne r
  simpa [fresh, Store.mayWrite] using hne

end Sample

open Sample in
/-- The operational key of bob attacks: both payout addresses and statuses stay. -/
theorem operational_keys_confined_attack : ∃ s₁,
    Registers (storeResolver readNames) nameNode 5 6 9 [bob, dave] fresh s₁ ∧
    ∀ params ∈ [bob, dave],
      (storeResolver readNames).data ((storeResolver readNames).transactAll s₁ attack)
        (nameNode params.name) .payoutAddress = (addressWord params.payoutAddress).toBytes ∧
      (storeResolver readNames).data ((storeResolver readNames).transactAll s₁ attack)
        (nameNode params.name) .status = statusActive := by
  obtain ⟨s₁, hreg⟩ := exists_registered
  refine ⟨s₁, hreg, ?_⟩
  have hlabels : ∀ params ∈ [bob, dave], NoEmptyLabels params.name := by
    intro params hparams
    have hall : ∀ params ∈ [bob, dave], ∀ label ∈ params.name.toList.splitOn '.', label ≠ [] := by
      decide +kernel
    exact hall params hparams
  have hattack : ∀ tx ∈ attack, Outsider 9 [bob, dave] tx.1 := by
    intro tx htx
    simp only [attack, List.mem_cons, List.not_mem_nil, or_false] at htx
    rcases htx with rfl | rfl | rfl | rfl <;> exact ⟨by decide, by decide⟩
  exact (operational_keys_confined readsNames onlyAdmin_fresh hlabels hreg (by decide)
    (by decide +kernel) attack hattack).1

end DVoD.Ens
