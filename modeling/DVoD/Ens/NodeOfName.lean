import DVoD.Ens.RegistrationOrder
import DVoD.Evm.Namehash

/-!
# The node that a registration is about

The calls of a registration name their operator three times: by the node of its records, by
the DNS name its roles are granted on, and by the label that is registered.  The node is that
of all pieces between dots, and the DNS name leaves the empty ones out.
-/

namespace DVoD.Ens

open DVoD.Evm DVoD.Session DVoD.Text

/-- `namehash` of viem. -/
def viemNamehash (keccak256 : Bytes → Word) (name : String) : Word :=
  if name = "" then 0 else nodeOfLabels keccak256 ((name.toList.splitOn '.').map Utf8.encode)

/-! ### The DNS name -/

section DnsName

variable {name : String} {pieces : List (List Char)} {encoded : List Bytes} {toName : Bytes}

theorem encodeLabel_eq_ok {label : List Char} {bytes : Bytes} (h : encodeLabel name label = .ok bytes) :
    bytes = wireLabel (Utf8.encode label) ∧ 0 < (Utf8.encode label).length ∧
      (Utf8.encode label).length ≤ 63 := by
  unfold encodeLabel at h
  dsimp only at h
  split at h
  · cases h
  · next hlength => exact ⟨(Except.ok.inj h).symm, by omega, by omega⟩

theorem mapM_encodeLabel (h : pieces.mapM (encodeLabel name) = .ok encoded) :
    encoded = (pieces.map Utf8.encode).map wireLabel ∧
      ∀ label ∈ pieces.map Utf8.encode, 0 < label.length ∧ label.length ≤ 63 := by
  induction pieces generalizing encoded with
  | nil =>
    obtain rfl := Except.ok.inj h
    exact ⟨rfl, nofun⟩
  | cons piece pieces ih =>
    rw [List.mapM_cons] at h
    rcases hpiece : encodeLabel name piece with error | bytes
    · rw [hpiece] at h
      cases h
    rcases hpieces : pieces.mapM (encodeLabel name) with error | rest
    · rw [hpiece, hpieces] at h
      cases h
    rw [hpiece, hpieces] at h
    obtain rfl := Except.ok.inj h
    obtain ⟨rfl, hlength⟩ := encodeLabel_eq_ok hpiece
    obtain ⟨rfl, hlengths⟩ := ih hpieces
    refine ⟨rfl, ?_⟩
    intro label hlabel
    rcases List.mem_cons.mp hlabel with rfl | hlabel
    · exact hlength
    · exact hlengths label hlabel

theorem encodeDnsName_eq_ok (h : encodeDnsName name = .ok toName) :
    toName = wireName (((name.toList.splitOn '.').filter (· ≠ [])).map Utf8.encode) ∧
      ∀ label ∈ ((name.toList.splitOn '.').filter (· ≠ [])).map Utf8.encode,
        0 < label.length ∧ label.length ≤ 63 := by
  unfold encodeDnsName at h
  rcases hlabels : ((name.toList.splitOn '.').filter (· ≠ [])).mapM (encodeLabel name) with
    error | encoded
  · rw [hlabels] at h
    cases h
  · rw [hlabels] at h
    obtain rfl := Except.ok.inj h
    obtain ⟨rfl, hlengths⟩ := mapM_encodeLabel hlabels
    exact ⟨rfl, hlengths⟩

/-- What a resolver decodes: the pieces that are not empty. -/
theorem decode_encodeDnsName (h : encodeDnsName name = .ok toName) :
    decodeWireName toName =
      some (((name.toList.splitOn '.').filter (· ≠ [])).map Utf8.encode) := by
  obtain ⟨rfl, hlengths⟩ := encodeDnsName_eq_ok h
  exact decodeWireName_wireName hlengths

theorem filter_eq_self_iff {pieces : List (List Char)} :
    pieces.filter (· ≠ []) = pieces ↔ ∀ piece ∈ pieces, piece ≠ [] := by
  simp [List.filter_eq_self]

end DnsName

/-! ### The calls -/

/-- The call is about the name with these labels. -/
def ContractFunction.Names (keccak256 : Bytes → Word) (labels : List Bytes) : ContractFunction → Prop
  | .register label _ _ _ _ _ => labels.head? = some (Utf8.encode label.toList)
  | .setText node _ _ => node = nodeOfLabels keccak256 labels
  | .setData node _ _ => node = nodeOfLabels keccak256 labels
  | .authorizeTextRoles toName _ _ _ => decodeWireName toName = some labels
  | .authorizeDataRoles toName _ _ _ => decodeWireName toName = some labels

def NameOne (keccak256 : Bytes → Word) (calls : List ContractCall) : Prop :=
  ∃ labels, ∀ call ∈ calls, call.function.Names keccak256 labels

section Calls

variable {keccak256 : Bytes → Word} {registryAddress resolverAddress : Address}
  {params : RegisterOperatorParams} {calls : List ContractCall} {node : Word} {toName : Bytes}

theorem nameOne_operatorCalls_iff :
    NameOne keccak256 (operatorCalls registryAddress resolverAddress params node toName) ↔
      ∃ labels, decodeWireName toName = some labels ∧ node = nodeOfLabels keccak256 labels ∧
        labels.head? = some (Utf8.encode (split '.' params.name.toList).1) := by
  constructor
  · rintro ⟨labels, h⟩
    refine ⟨labels, ?_, ?_, ?_⟩
    · exact h ⟨resolverAddress, .authorizeDataRoles toName .status params.watchdogAddress true⟩
        (by simp [operatorCalls])
    · exact h ⟨resolverAddress, .setData node .status statusActive⟩ (by simp [operatorCalls])
    · have hregister := h ⟨registryAddress, .register (String.ofList (split '.' params.name.toList).1)
        params.ownerAddress 0 resolverAddress 0 params.expiry⟩ (by simp [operatorCalls])
      simpa [ContractFunction.Names] using hregister
  · rintro ⟨labels, hdecode, hnode, hhead⟩
    refine ⟨labels, ?_⟩
    simp [operatorCalls, ContractFunction.Names, hdecode, hnode, hhead]

theorem head?_splitOn (s : List Char) : (s.splitOn '.').head? = some (split '.' s).1 := by
  rcases split_cases '.' s with ⟨hnot, hsplit⟩ | ⟨piece, piece', rest, hpiece, -, -, rfl, hsplit⟩
  · rw [List.splitOn_eq_singleton hnot, hsplit]
    rfl
  · rw [List.splitOn_append_cons_self_of_not_mem hpiece, hsplit]
    rfl

/-- **When a registration names one node**: exactly if its name has no empty label. -/
theorem names_one_iff
    (h : buildRegisterOperatorCalls (viemNamehash keccak256) registryAddress resolverAddress params = .ok calls)
    (hfree : CollisionFree keccak256
      (hashed keccak256 ((params.name.toList.splitOn '.').map Utf8.encode) ++
        hashed keccak256 (((params.name.toList.splitOn '.').filter (· ≠ [])).map Utf8.encode))) :
    NameOne keccak256 calls ↔ NoEmptyLabels params.name := by
  obtain ⟨toName, htoName, rfl⟩ := exists_toName h
  have hname : params.name ≠ "" := by
    intro hempty
    unfold buildRegisterOperatorCalls at h
    rw [if_pos (by rw [hempty]; rfl)] at h
    cases h
  rw [nameOne_operatorCalls_iff, decode_encodeDnsName htoName, viemNamehash, if_neg hname]
  constructor
  · rintro ⟨labels, hlabels, hnode, -⟩
    obtain rfl := Option.some.inj hlabels
    have heq := nodeOfLabels_injective hfree hnode
    have hpieces := List.map_injective_iff.mpr (fun _ _ => Utf8.encode_injective) heq
    exact filter_eq_self_iff.mp hpieces.symm
  · intro hno
    rw [filter_eq_self_iff.mpr hno]
    refine ⟨_, rfl, rfl, ?_⟩
    rw [List.head?_map, head?_splitOn, Option.map_some]

end Calls

/-! ### A name with two dots -/

namespace Sample

/-- keccak256 of what is hashed for "bob..eth" and "bob.eth". -/
def keccakNames (bytes : Bytes) : Word :=
  let eth : Word := 0x4f5b812789fc606be1b3b16908db13fc7a9adf7ca72641f84d75b47069d3d7f0
  let empty : Word := 0xc5d2460186f7233c927e7db2dcc703c0e500b653ca82273b7bfad8045d85a470
  let bobLabel : Word := 0x38e47a7b719dce63662aeaf43440326f551b8a7ee198cee35cb5d517f2d296a2
  let ethNode : Word := 0x93cdeb708b7545dc668eb9280176169d1c33cfd8ed6f04690a0bcc88a93fc4ae
  let emptyNode : Word := 0x8cc9f31a5e7af6381efc751d98d289e3f3589f1b6f19b9b989ace1788b939cf7
  if bytes = Utf8.encode "eth".toList then eth
  else if bytes = [] then empty
  else if bytes = Utf8.encode "bob".toList then bobLabel
  else if bytes = (0 : Word).toBytes ++ eth.toBytes then ethNode
  else if bytes = ethNode.toBytes ++ empty.toBytes then emptyNode
  else if bytes = emptyNode.toBytes ++ bobLabel.toBytes then
    0x16303600717ded9e6a0166ffdf3af34abede6d06e0d2ae2510deef91aa64fd86
  else if bytes = ethNode.toBytes ++ bobLabel.toBytes then
    0xbe11069ec59144113f438b6ef59dd30497769fc2dce8e2b52e3ae71ac18e47c9
  else 0

def twoDots : RegisterOperatorParams := { bob with name := "bob..eth" }

theorem collisionFree_twoDots : CollisionFree keccakNames
    (hashed keccakNames ((twoDots.name.toList.splitOn '.').map Utf8.encode) ++
      hashed keccakNames (((twoDots.name.toList.splitOn '.').filter (· ≠ [])).map Utf8.encode)) where
  injective := by decide +kernel
  ne_zero := by decide +kernel

theorem exists_calls_twoDots :
    ∃ calls, buildRegisterOperatorCalls (viemNamehash keccakNames) 5 6 twoDots = .ok calls :=
  exists_calls (by decide +kernel)

end Sample

section Sample

open Sample

theorem names_one_iff_twoDots : ∃ calls,
    buildRegisterOperatorCalls (viemNamehash keccakNames) 5 6 twoDots = .ok calls ∧
    (NameOne keccakNames calls ↔ NoEmptyLabels twoDots.name) := by
  obtain ⟨calls, hcalls⟩ := exists_calls_twoDots
  exact ⟨calls, hcalls, names_one_iff hcalls collisionFree_twoDots⟩

/-- The records of "bob..eth" are written under one node, and its roles granted on "bob.eth". -/
theorem two_nodes_named : ∃ calls,
    buildRegisterOperatorCalls (viemNamehash keccakNames) 5 6 twoDots = .ok calls ∧
    (∃ call ∈ calls, call.function = .setData
      0x16303600717ded9e6a0166ffdf3af34abede6d06e0d2ae2510deef91aa64fd86 .status statusActive) ∧
    (∃ call ∈ calls, ∃ toName labels,
      call.function = .authorizeDataRoles toName .status twoDots.watchdogAddress true ∧
      decodeWireName toName = some labels ∧ nodeOfLabels keccakNames labels =
        0xbe11069ec59144113f438b6ef59dd30497769fc2dce8e2b52e3ae71ac18e47c9) ∧
    ¬ NameOne keccakNames calls := by
  obtain ⟨calls, hcalls⟩ := exists_calls_twoDots
  obtain ⟨toName, htoName, rfl⟩ := exists_toName hcalls
  have hnode : viemNamehash keccakNames twoDots.name =
      0x16303600717ded9e6a0166ffdf3af34abede6d06e0d2ae2510deef91aa64fd86 := by decide +kernel
  have hgranted : nodeOfLabels keccakNames
      (((twoDots.name.toList.splitOn '.').filter (· ≠ [])).map Utf8.encode) =
        0xbe11069ec59144113f438b6ef59dd30497769fc2dce8e2b52e3ae71ac18e47c9 := by decide +kernel
  have hdecode := decode_encodeDnsName htoName
  refine ⟨_, hcalls, ?_, ?_, ?_⟩
  · rw [hnode]
    refine ⟨⟨6, .setData _ .status statusActive⟩, ?_, rfl⟩
    simp [operatorCalls]
  · exact ⟨⟨6, .authorizeDataRoles toName .status twoDots.watchdogAddress true⟩,
      by simp [operatorCalls], toName, _, rfl, hdecode, hgranted⟩
  · rw [nameOne_operatorCalls_iff, hdecode, hnode]
    rintro ⟨labels, hlabels, heq, -⟩
    obtain rfl := Option.some.inj hlabels
    rw [hgranted] at heq
    exact absurd heq (by decide)

end Sample

end DVoD.Ens
