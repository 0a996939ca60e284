import DVoD.Ens.NodeOfName
import DVoD.Text.Hex

/-!
# DNS names as text

The text that `encodeDnsName` returns, which names it refuses, and what a reader of the
wire format makes of it.
-/

namespace DVoD.Ens

open DVoD.Evm DVoD.Text

/-- What `encodeDnsName` returns: its bytes behind `0x`. -/
def encodeDnsNameHex (name : String) : Except String String :=
  (encodeDnsName name).map fun bytes => String.ofList ('0' :: 'x' :: toHex bytes)

/-- The labels of `Buffer.from(encoded.slice(2), "hex")`, read by their lengths up to the zero
    byte; `none` where it is not the last byte. -/
def decodeDnsNameHex (encoded : String) : Option (List Bytes) :=
  decodeWireName (ofHex (encoded.toList.drop 2))

section Throws

variable {name : String} {pieces : List (List Char)}

theorem encode_eq_nil_iff {label : List Char} : Utf8.encode label = [] ↔ label = [] := by
  constructor
  · intro h
    exact Utf8.encode_injective h
  · intro h
    rw [h]
    rfl

theorem encodeLabel_throws_iff {label : List Char} (h : label ≠ []) :
    (∃ error, encodeLabel name label = .error error) ↔ 63 < (Utf8.encode label).length := by
  have hpos : (Utf8.encode label).length ≠ 0 := by
    rw [Ne, List.length_eq_zero_iff, encode_eq_nil_iff]
    exact h
  unfold encodeLabel
  dsimp only
  split
  · next hlength => exact iff_of_true ⟨_, rfl⟩ (hlength.resolve_left hpos)
  · next hlength => exact iff_of_false nofun (not_or.mp hlength).2

theorem mapM_throws_iff : (∃ error, pieces.mapM (encodeLabel name) = .error error) ↔
    ∃ piece ∈ pieces, ∃ error, encodeLabel name piece = .error error := by
  induction pieces with
  | nil => exact iff_of_false nofun nofun
  | cons piece pieces ih =>
    rw [List.mapM_cons, List.exists_mem_cons_iff, ← ih]
    cases encodeLabel name piece with
    | error error => exact iff_of_true ⟨error, rfl⟩ (Or.inl ⟨error, rfl⟩)
    | ok bytes =>
      cases pieces.mapM (encodeLabel name) with
      | error error => exact iff_of_true ⟨error, rfl⟩ (Or.inr ⟨error, rfl⟩)
      | ok encoded => exact iff_of_false nofun (not_or.mpr ⟨nofun, nofun⟩)

/-- The names that are refused. -/
theorem encodeDnsName_throws_iff : (∃ error, encodeDnsName name = .error error) ↔
    ∃ label ∈ name.toList.splitOn '.', 63 < (Utf8.encode label).length := by
  have hbind : (∃ error, encodeDnsName name = .error error) ↔ ∃ error,
      ((name.toList.splitOn '.').filter (· ≠ [])).mapM (encodeLabel name) = .error error := by
    unfold encodeDnsName
    cases ((name.toList.splitOn '.').filter (· ≠ [])).mapM (encodeLabel name) with
    | error error => exact iff_of_true ⟨error, rfl⟩ ⟨error, rfl⟩
    | ok encoded => exact iff_of_false nofun nofun
  rw [hbind, mapM_throws_iff]
  constructor
  · rintro ⟨label, hmem, hthrows⟩
    obtain ⟨hlabel, hne⟩ := List.mem_filter.mp hmem
    exact ⟨label, hlabel, (encodeLabel_throws_iff (of_decide_eq_true hne)).mp hthrows⟩
  · rintro ⟨label, hlabel, hlong⟩
    have hne : label ≠ [] := by
      intro hnil
      rw [hnil] at hlong
      exact absurd hlong (by decide)
    exact ⟨label, List.mem_filter.mpr ⟨hlabel, decide_eq_true hne⟩,
      (encodeLabel_throws_iff hne).mpr hlong⟩

end Throws

theorem encodeDnsNameHex_eq_ok {name encoded : String} (h : encodeDnsNameHex name = .ok encoded) :
    ∃ bytes, encodeDnsName name = .ok bytes ∧ ofHex (encoded.toList.drop 2) = bytes := by
  unfold encodeDnsNameHex at h
  cases hbytes : encodeDnsName name with
  | error error =>
    rw [hbytes] at h
    cases h
  | ok bytes =>
    rw [hbytes] at h
    refine ⟨bytes, rfl, ?_⟩
    rw [← Except.ok.inj h, String.toList_ofList]
    exact ofHex_toHex bytes

theorem decode_encodeDnsNameHex {name encoded : String} (h : encodeDnsNameHex name = .ok encoded) :
    decodeDnsNameHex encoded =
      some (((name.toList.splitOn '.').filter (· ≠ [])).map Utf8.encode) := by
  obtain ⟨bytes, hbytes, hhex⟩ := encodeDnsNameHex_eq_ok h
  rw [decodeDnsNameHex, hhex, decode_encodeDnsName hbytes]

theorem splitOn_injective {s s' : List Char} (h : s.splitOn '.' = s'.splitOn '.') : s = s' := by
  have hjoin := congrArg (List.intercalate ['.']) h
  rwa [List.intercalate_splitOn, List.intercalate_splitOn] at hjoin

/-- **DNS names are decodable and faithful.** -/
theorem dns_name_faithful (name : String) :
    ((∃ error, encodeDnsNameHex name = .error error) ↔
      ∃ label ∈ name.toList.splitOn '.', 63 < (Utf8.encode label).length) ∧
    (∀ encoded, encodeDnsNameHex name = .ok encoded →
      decodeDnsNameHex encoded =
        some (((name.toList.splitOn '.').filter (· ≠ [])).map Utf8.encode)) ∧
    ∀ name' encoded, NoEmptyLabels name → NoEmptyLabels name' →
      encodeDnsNameHex name = .ok encoded → encodeDnsNameHex name' = .ok encoded → name = name' := by
  refine ⟨?_, ?_, ?_⟩
  · rw [← encodeDnsName_throws_iff, encodeDnsNameHex]
    cases encodeDnsName name with
    | error error => exact iff_of_true ⟨error, rfl⟩ ⟨error, rfl⟩
    | ok bytes => exact iff_of_false nofun nofun
  · intro encoded h
    exact decode_encodeDnsNameHex h
  · intro name' encoded hno hno' h h'
    have hdecoded := Option.some.inj ((decode_encodeDnsNameHex h).symm.trans (decode_encodeDnsNameHex h'))
    rw [filter_eq_self_iff.mpr hno, filter_eq_self_iff.mpr hno'] at hdecoded
    have hpieces := List.map_injective_iff.mpr (fun _ _ => Utf8.encode_injective) hdecoded
    exact String.toList_injective (splitOn_injective hpieces)

/-- The name of the module's comment. -/
example : encodeDnsNameHex "bob.dvod.eth" = .ok "0x03626f620464766f640365746800" := by
  decide +kernel

end DVoD.Ens
