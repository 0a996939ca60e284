import DVoD.Ens.Resolver
import DVoD.Session.CapabilityRecord
import DVoD.Text.Stringify

/-!
# Reading a capability record

`readCapabilityRecord`: five reads of the resolver, an ABI decoder, `JSON.parse`, and
the schema.  `readCapabilityRecord_cases` says which records it returns.
-/

namespace DVoD.Ens

open DVoD.Evm DVoD.Session DVoD.Text

/-- What the resolver answers, before it is decoded; `none` where a call fails. -/
structure Reads where
  text : Word → TextKey → Option String
  data : Word → DataKey → Option Bytes

def Records.reads (t : Records) : Reads where
  text node key := some (t.text node key)
  data node key := some (t.data node key)

/-- The functions of viem and zod that the client calls; `decodeAddress` is
    `decodeAbiParameters` for one address, and `none` where it throws. -/
structure Client where
  namehash : String → Word
  decodeAddress : Bytes → Option String
  hexToString : Bytes → String
  isUrl : String → Bool

/-- `TextDecoder`, with which viem decodes strings: it takes a leading byte order mark away. -/
def decodeText (text : String) : String :=
  match text.toList with
  | '\uFEFF' :: rest => String.ofList rest
  | _ => text

theorem decodeText_of_head {text : String} (h : text.toList.head? ≠ some '\uFEFF') :
    decodeText text = text := by
  unfold decodeText
  split
  · next hmark => exact absurd (by rw [hmark]; rfl) h
  · rfl

inductive ReadError where
  | readContract
  | decodeAbiParameters
  | jsonParse
  | schema (issues : List Issue)

def bytesToHex (bytes : Bytes) : String :=
  String.ofList ('0' :: 'x' :: bytes.flatMap fun b => [hexDigit (b.toNat / 16), hexDigit (b.toNat % 16)])

theorem isHexDigit_hexDigit {n : ℕ} (h : n < 16) : Json.isHexDigit (hexDigit n) = true := by
  interval_cases n <;> decide

/-- The schema accepts every hash but the empty one. -/
theorem isHexHash_bytesToHex (bytes : Bytes) : isHexHash (bytesToHex bytes) = true ↔ bytes ≠ [] := by
  have hdigits : (bytes.flatMap fun b => [hexDigit (b.toNat / 16), hexDigit (b.toNat % 16)]).all
      Json.isHexDigit = true := by
    rw [List.all_flatMap, List.all_eq_true]
    intro b _
    have hb : b.toNat < 256 := b.toNat_lt
    simp [isHexDigit_hexDigit (show b.toNat / 16 < 16 by omega),
      isHexDigit_hexDigit (show b.toNat % 16 < 16 by omega)]
  simp only [isHexHash, bytesToHex, String.toList_ofList, hdigits, Bool.and_true, decide_eq_true_eq]
  cases bytes <;> simp

def readCapabilityRecord (client : Client) (reads : Reads) (operatorName operationalKeyAddress : String) :
    Except ReadError CapabilityRecord :=
  let node := client.namehash operatorName
  match reads.text node .endpoint, reads.text node .tiersSupported,
      reads.data node .attestationBuildHash, reads.data node .payoutAddress,
      reads.data node .status with
  | some endpoint, some tiersSupportedJson, some attestationBuildHash, some payoutAddressData,
      some statusData =>
      match client.decodeAddress payoutAddressData,
          Json.parse (decodeText tiersSupportedJson).toList with
      | none, _ => .error .decodeAbiParameters
      | some _, none => .error .jsonParse
      | some payoutAddress, some tiersSupported =>
          (RawCapabilityRecord.parse client.isUrl ⟨operatorName, operationalKeyAddress, payoutAddress,
            decodeText endpoint, tiersSupported, client.hexToString statusData,
            bytesToHex attestationBuildHash⟩).mapError .schema
  | _, _, _, _, _ => .error .readContract

structure Readable (client : Client) (reads : Reads) (operatorName operationalKeyAddress : String) :
    Prop where
  operator : operatorName ≠ ""
  operationalKey : isEvmAddress operationalKeyAddress = true
  payoutAddress : ∃ data address,
    reads.data (client.namehash operatorName) .payoutAddress = some data ∧
      client.decodeAddress data = some address ∧ isEvmAddress address = true
  endpoint : ∃ endpoint, reads.text (client.namehash operatorName) .endpoint = some endpoint ∧
    client.isUrl (decodeText endpoint) = true
  tiersSupported : ∃ text value,
    reads.text (client.namehash operatorName) .tiersSupported = some text ∧
      Json.parse (decodeText text).toList = some value ∧ (tiersOfJson value).isSome = true
  status : ∃ data, reads.data (client.namehash operatorName) .status = some data ∧
    (RelayStatus.safeParse (client.hexToString data)).isSome = true
  attestationBuildHash : ∃ bytes,
    reads.data (client.namehash operatorName) .attestationBuildHash = some bytes ∧ bytes ≠ []

section Read

variable {client : Client} {reads reads' : Reads} {operatorName operationalKeyAddress : String}

theorem readable_iff {endpoint tiersSupportedJson payoutAddress : String}
    {attestationBuildHash payoutAddressData statusData : Bytes} {tiersSupported : Json}
    (hendpoint : reads.text (client.namehash operatorName) .endpoint = some endpoint)
    (htiers : reads.text (client.namehash operatorName) .tiersSupported = some tiersSupportedJson)
    (hattestation : reads.data (client.namehash operatorName) .attestationBuildHash =
      some attestationBuildHash)
    (hpayout : reads.data (client.namehash operatorName) .payoutAddress = some payoutAddressData)
    (hstatus : reads.data (client.namehash operatorName) .status = some statusData)
    (hdecode : client.decodeAddress payoutAddressData = some payoutAddress)
    (hjson : Json.parse (decodeText tiersSupportedJson).toList = some tiersSupported) :
    Readable client reads operatorName operationalKeyAddress ↔
      RawCapabilityRecord.Valid client.isUrl ⟨operatorName, operationalKeyAddress, payoutAddress,
        decodeText endpoint, tiersSupported, client.hexToString statusData,
        bytesToHex attestationBuildHash⟩ := by
  constructor
  · intro h
    obtain ⟨_, _, hdata, haddress, hpayoutAddress⟩ := h.payoutAddress
    obtain rfl := Option.some.inj (hpayout.symm.trans hdata)
    obtain rfl := Option.some.inj (hdecode.symm.trans haddress)
    obtain ⟨_, htext, hurl⟩ := h.endpoint
    obtain rfl := Option.some.inj (hendpoint.symm.trans htext)
    obtain ⟨_, _, htext, hvalue, hsome⟩ := h.tiersSupported
    obtain rfl := Option.some.inj (htiers.symm.trans htext)
    obtain rfl := Option.some.inj (hjson.symm.trans hvalue)
    obtain ⟨_, hdata, hstatusOk⟩ := h.status
    obtain rfl := Option.some.inj (hstatus.symm.trans hdata)
    obtain ⟨_, hdata, hbytes⟩ := h.attestationBuildHash
    obtain rfl := Option.some.inj (hattestation.symm.trans hdata)
    exact ⟨h.operator, h.operationalKey, hpayoutAddress, hurl, hsome, hstatusOk,
      (isHexHash_bytesToHex _).mpr hbytes⟩
  · intro h
    exact ⟨h.operator, h.operationalKey, ⟨_, _, hpayout, hdecode, h.payoutAddress⟩,
      ⟨_, hendpoint, h.endpoint⟩, ⟨_, _, htiers, hjson, h.tiersSupported⟩, ⟨_, hstatus, h.status⟩,
      ⟨_, hattestation, (isHexHash_bytesToHex _).mp h.attestationBuildHash⟩⟩

/-- A record is returned exactly where it is well formed, and under the name asked for. -/
theorem readCapabilityRecord_cases (client : Client) (reads : Reads)
    (operatorName operationalKeyAddress : String) :
    (Readable client reads operatorName operationalKeyAddress ∧
      ∃ record, readCapabilityRecord client reads operatorName operationalKeyAddress = .ok record ∧
        record.operator = operatorName) ∨
    (¬ Readable client reads operatorName operationalKeyAddress ∧
      ∃ error, readCapabilityRecord client reads operatorName operationalKeyAddress = .error error) := by
  simp only [readCapabilityRecord]
  split
  · next hendpoint htiers hattestation hpayout hstatus =>
    split
    · next hdecode =>
      refine Or.inr ⟨?_, _, rfl⟩
      intro h
      obtain ⟨data, address, hdata, haddress, -⟩ := h.payoutAddress
      rw [hpayout] at hdata
      rw [Option.some.inj hdata, haddress] at hdecode
      cases hdecode
    · next hjson =>
      refine Or.inr ⟨?_, _, rfl⟩
      intro h
      obtain ⟨text, value, htext, hvalue, -⟩ := h.tiersSupported
      rw [htiers] at htext
      rw [Option.some.inj htext, hvalue] at hjson
      cases hjson
    · next hdecode hjson =>
      rw [readable_iff hendpoint htiers hattestation hpayout hstatus hdecode hjson]
      rcases RawCapabilityRecord.parse_cases client.isUrl _ with
        ⟨hvalid, record, hparse, hoperator⟩ | ⟨hinvalid, hparse⟩
      · exact Or.inl ⟨hvalid, record, by rw [hparse]; rfl, hoperator⟩
      · exact Or.inr ⟨hinvalid, _, by rw [hparse]; rfl⟩
  · next hnone =>
    refine Or.inr ⟨?_, _, rfl⟩
    intro h
    obtain ⟨_, _, hpayout, -⟩ := h.payoutAddress
    obtain ⟨_, hendpoint, -⟩ := h.endpoint
    obtain ⟨_, _, htiers, -⟩ := h.tiersSupported
    obtain ⟨_, hstatus, -⟩ := h.status
    obtain ⟨_, hattestation, -⟩ := h.attestationBuildHash
    exact hnone _ _ _ _ _ hendpoint htiers hattestation hpayout hstatus

theorem readCapabilityRecord_congr
    (htext : ∀ key, reads'.text (client.namehash operatorName) key =
      reads.text (client.namehash operatorName) key)
    (hdata : ∀ key, reads'.data (client.namehash operatorName) key =
      reads.data (client.namehash operatorName) key) :
    readCapabilityRecord client reads' operatorName operationalKeyAddress =
      readCapabilityRecord client reads operatorName operationalKeyAddress := by
  simp only [readCapabilityRecord, htext, hdata]

end Read

end DVoD.Ens
