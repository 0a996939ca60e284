import DVoD.Session.Tier
import DVoD.Text.Json

/-!
# Capability records

The record of a relay operator, and `CapabilityRecordSchema`.  What counts as a URL is
left to the caller of the schema.
-/

namespace DVoD.Session

open DVoD.Text

inductive RelayStatus where
  | active
  | revoked
deriving DecidableEq, Repr

namespace RelayStatus

def name : RelayStatus → String
  | active => "active"
  | revoked => "revoked"

def safeParse (s : String) : Option RelayStatus :=
  [active, revoked].find? fun status => status.name == s

end RelayStatus

structure CapabilityRecord where
  operator : String
  operationalKey : String
  payoutAddress : String
  endpoint : String
  tiersSupported : List Tier
  status : RelayStatus
  attestationBuildHash : String
deriving DecidableEq

/-! ### The schema -/

/-- What is parsed: the tiers are any JSON value. -/
structure RawCapabilityRecord where
  operator : String
  operationalKey : String
  payoutAddress : String
  endpoint : String
  tiersSupported : Json
  status : String
  attestationBuildHash : String

/-- An issue, with its message where the schema words it. -/
structure Issue where
  path : List String
  message : Option String := none

/-- `/^0x[a-fA-F0-9]{40}$/`. -/
def isEvmAddress (s : String) : Bool :=
  match s.toList with
  | '0' :: 'x' :: digits => digits.length = 40 && digits.all Json.isHexDigit
  | _ => false

/-- `/^0x[a-fA-F0-9]+$/`. -/
def isHexHash (s : String) : Bool :=
  match s.toList with
  | '0' :: 'x' :: digits => digits ≠ [] && digits.all Json.isHexDigit
  | _ => false

/-- `TierSchema` on a JSON value. -/
def tierOfJson : Json → Option Tier
  | .string s => Tier.all.find? fun tier => utf16 tier.name.toList == s
  | _ => none

/-- `z.array(TierSchema).min(1)`. -/
def tiersOfJson : Json → Option (List Tier)
  | .array (element :: elements) => (element :: elements).mapM tierOfJson
  | _ => none

def tiersIssues : Json → List Issue
  | .array (element :: elements) => (element :: elements).zipIdx.filterMap fun (element, i) =>
      if (tierOfJson element).isNone then some ⟨["tiers_supported", toString i], none⟩ else none
  | _ => [⟨["tiers_supported"], none⟩]

def issueUnless (ok : Bool) (issue : Issue) : List Issue := if ok then [] else [issue]

def evmAddressIssues (field : String) (s : String) : List Issue :=
  issueUnless (isEvmAddress s) ⟨[field], "not a valid EVM address"⟩

def hexHashIssues (field : String) (s : String) : List Issue :=
  issueUnless (isHexHash s) ⟨[field], "not a valid hex hash"⟩

def RawCapabilityRecord.issues (isUrl : String → Bool) (raw : RawCapabilityRecord) : List Issue :=
  issueUnless (raw.operator ≠ "") ⟨["operator"], none⟩ ++
    evmAddressIssues "operational_key" raw.operationalKey ++
    evmAddressIssues "payout_address" raw.payoutAddress ++
    issueUnless (isUrl raw.endpoint) ⟨["endpoint"], none⟩ ++
    tiersIssues raw.tiersSupported ++
    issueUnless (RelayStatus.safeParse raw.status).isSome ⟨["status"], none⟩ ++
    hexHashIssues "attestation_build_hash" raw.attestationBuildHash

/-- `CapabilityRecordSchema.parse`. -/
def RawCapabilityRecord.parse (isUrl : String → Bool) (raw : RawCapabilityRecord) :
    Except (List Issue) CapabilityRecord :=
  match raw.issues isUrl, tiersOfJson raw.tiersSupported, RelayStatus.safeParse raw.status with
  | [], some tiersSupported, some status =>
      .ok ⟨raw.operator, raw.operationalKey, raw.payoutAddress, raw.endpoint, tiersSupported, status,
        raw.attestationBuildHash⟩
  | issues, _, _ => .error issues

@[simp] theorem issueUnless_eq_nil {ok : Bool} {issue : Issue} :
    issueUnless ok issue = [] ↔ ok = true := by
  cases ok <;> simp [issueUnless]

theorem isSome_mapM_tierOfJson (elements : List Json) :
    (elements.mapM tierOfJson).isSome ↔ ∀ element ∈ elements, (tierOfJson element).isSome := by
  induction elements with
  | nil => simp
  | cons element elements ih =>
    rw [List.forall_mem_cons, ← ih]
    rcases helement : tierOfJson element with _ | tier
    · simp [List.mapM_cons, helement]
    · rcases helements : elements.mapM tierOfJson with _ | tiers <;>
        simp [List.mapM_cons, helement, helements]

theorem tiersIssues_eq_nil {value : Json} : tiersIssues value = [] ↔ (tiersOfJson value).isSome := by
  cases value with
  | array elements =>
    rcases elements with _ | ⟨element, elements⟩
    · simp [tiersIssues, tiersOfJson]
    · rw [tiersIssues, tiersOfJson, isSome_mapM_tierOfJson, List.filterMap_eq_nil_iff]
      constructor
      · intro h element' hmem
        obtain ⟨i, hi⟩ := List.mem_iff_getElem?.mp hmem
        have hnone := h (element', i) (List.mem_zipIdx_iff_getElem?.mpr hi)
        simpa [Option.isSome_iff_ne_none] using hnone
      · rintro h ⟨element', i⟩ hmem
        have hsome := h element' (List.mem_of_getElem? (List.mem_zipIdx_iff_getElem?.mp hmem))
        simpa [Option.isSome_iff_ne_none] using hsome
  | _ => simp [tiersIssues, tiersOfJson]

namespace RawCapabilityRecord

structure Valid (isUrl : String → Bool) (raw : RawCapabilityRecord) : Prop where
  operator : raw.operator ≠ ""
  operationalKey : isEvmAddress raw.operationalKey = true
  payoutAddress : isEvmAddress raw.payoutAddress = true
  endpoint : isUrl raw.endpoint = true
  tiersSupported : (tiersOfJson raw.tiersSupported).isSome = true
  status : (RelayStatus.safeParse raw.status).isSome = true
  attestationBuildHash : isHexHash raw.attestationBuildHash = true

variable {isUrl : String → Bool} {raw : RawCapabilityRecord}

theorem issues_eq_nil : raw.issues isUrl = [] ↔ raw.Valid isUrl := by
  simp only [issues, evmAddressIssues, hexHashIssues, List.append_eq_nil_iff, issueUnless_eq_nil,
    tiersIssues_eq_nil, decide_eq_true_eq]
  constructor
  · rintro ⟨⟨⟨⟨⟨⟨h₁, h₂⟩, h₃⟩, h₄⟩, h₅⟩, h₆⟩, h₇⟩
    exact ⟨h₁, h₂, h₃, h₄, h₅, h₆, h₇⟩
  · rintro ⟨h₁, h₂, h₃, h₄, h₅, h₆, h₇⟩
    exact ⟨⟨⟨⟨⟨⟨h₁, h₂⟩, h₃⟩, h₄⟩, h₅⟩, h₆⟩, h₇⟩

/-- The schema returns a record exactly for what it accepts, and its operator is the one
    of the input. -/
theorem parse_cases (isUrl : String → Bool) (raw : RawCapabilityRecord) :
    (raw.Valid isUrl ∧ ∃ record, raw.parse isUrl = .ok record ∧ record.operator = raw.operator) ∨
      (¬ raw.Valid isUrl ∧ raw.parse isUrl = .error (raw.issues isUrl)) := by
  by_cases h : raw.Valid isUrl
  · obtain ⟨tiers, htiers⟩ := Option.isSome_iff_exists.mp h.tiersSupported
    obtain ⟨status, hstatus⟩ := Option.isSome_iff_exists.mp h.status
    refine Or.inl ⟨h, ⟨raw.operator, raw.operationalKey, raw.payoutAddress, raw.endpoint, tiers, status,
      raw.attestationBuildHash⟩, ?_, rfl⟩
    simp only [parse, issues_eq_nil.mpr h, htiers, hstatus]
  · refine Or.inr ⟨h, ?_⟩
    rcases hissues : raw.issues isUrl with _ | ⟨issue, rest⟩
    · exact absurd (issues_eq_nil.mp hissues) h
    · simp only [parse, hissues]

end RawCapabilityRecord

end DVoD.Session
