import DVoD.Log.Choice
import DVoD.MacClient.AppDelegate

/-!
# The network service in use

`activeServiceName` of `SystemProxy.swift` against what it is for, `serviceInUse`.
`networksetup` prints a property to a line, and the source looks for words anywhere in the
text; `activeServiceName_eq_serviceInUse_iff` says where that comes to the same.
-/

namespace DVoD.MacClient.SystemProxy

open DVoD.Log DVoD.Text

section Services

variable (data : CharacterData)

/-! ### What `networksetup` says -/

/-- The first line of `-listallnetworkservices`. -/
def legend : String := "An asterisk (*) denotes that a network service is disabled."

/-- The services that are listed without an asterisk. -/
def enabledServices (setup : NetworkSetup) : List String :=
  (lines data setup.listAllNetworkServices).filter fun line =>
    line ≠ legend && !hasPrefix (data.characters line.toList) (data.characters "*".toList)

/-- There is a line `IP address: A`, and `A` is not `none`. -/
def InUse (info : String) : Prop :=
  ∃ line ∈ characterLines data info, ∃ address,
    line = data.characters "IP address: ".toList ++ address ∧ address ≠ data.characters "none".toList

instance (info : String) : Decidable (InUse data info) :=
  decidable_of_iff (∃ line ∈ characterLines data info,
      data.characters "IP address: ".toList <+: line ∧
        line.drop (data.characters "IP address: ".toList).length ≠ data.characters "none".toList) <| by
    constructor
    · rintro ⟨line, hline, ⟨address, heq⟩, hne⟩
      rw [← heq, List.drop_left] at hne
      exact ⟨line, hline, address, heq.symm, hne⟩
    · rintro ⟨line, hline, address, heq, hne⟩
      refine ⟨line, hline, ⟨address, heq.symm⟩, ?_⟩
      rw [heq, List.drop_left]
      exact hne

/-- The service to set the proxy on: the first enabled one that is in use, or else the first
    enabled one. -/
def serviceInUse (setup : NetworkSetup) : Option String :=
  ((enabledServices data setup).find? fun service => InUse data (setup.getInfo service)).or
    (enabledServices data setup).head?

/-! ### What the source makes of it -/

/-- The name does not have the word by which the source tells the legend. -/
def Kept (service : String) : Prop := contains data service "asterisk" = false

instance (service : String) : Decidable (Kept data service) := inferInstanceAs (Decidable (_ = _))

/-- Some line has the words `IP address`, and none has `IP address: none`. -/
def SeemsInUse (info : String) : Prop :=
  (∃ line ∈ characterLines data info, data.characters "IP address".toList <:+: line) ∧
    ∀ line ∈ characterLines data info, ¬ data.characters "IP address: none".toList <:+: line

instance (info : String) : Decidable (SeemsInUse data info) := inferInstanceAs (Decidable (_ ∧ _))

def Taken (setup : NetworkSetup) (service : String) : Prop :=
  Kept data service ∧ SeemsInUse data (setup.getInfo service)

instance (setup : NetworkSetup) (service : String) : Decidable (Taken data setup service) :=
  inferInstanceAs (Decidable (_ ∧ _))

/-- The first service that is in use, or is taken for one, is both.  Or it is the first of
    all, and none is in use; or it is the first that is kept, and none is taken for one in
    use.  Where there is no such service, the first of all is kept. -/
structure Discernible (setup : NetworkSetup) : Prop where
  first : ∀ service,
    (enabledServices data setup).find?
      (fun s => InUse data (setup.getInfo s) ∨ Taken data setup s) = some service →
    (InUse data (setup.getInfo service) ∧ Taken data setup service) ∨
    ((enabledServices data setup).head? = some service ∧
      ∀ s ∈ enabledServices data setup, ¬ InUse data (setup.getInfo s)) ∨
    ((enabledServices data setup).find? (Kept data ·) = some service ∧
      ∀ s ∈ enabledServices data setup, ¬ Taken data setup s)
  otherwise :
    (∀ s ∈ enabledServices data setup, ¬ InUse data (setup.getInfo s) ∧ ¬ Taken data setup s) →
    ∀ service, (enabledServices data setup).head? = some service → Kept data service

end Services

section Texts

variable {data : CharacterData} {text piece info : String} {service : String}

/-- Words lie within a line. -/
theorem contains_iff_exists_line (hne : piece.toList ≠ []) (hlf : '\n' ∉ piece.toList) :
    contains data text piece = true ↔
      ∃ line ∈ characterLines data text, data.characters piece.toList <:+: line := by
  rw [contains, decide_eq_true_iff]
  apply infix_iff_exists_mem_splitCharacters
  · intro hmem
    exact hlf (data.mem_of_singleton_mem_characters hmem)
  · exact data.characters_ne_nil hne

theorem seemsInUse_iff : SeemsInUse data info ↔
    contains data info "IP address" = true ∧ contains data info "IP address: none" = false := by
  rw [← Bool.not_eq_true, contains_iff_exists_line (by decide) (by decide),
    contains_iff_exists_line (by decide) (by decide)]
  simp only [SeemsInUse, not_exists, not_and]

/-- A service in use is hidden just by the words `IP address: none` in some line. -/
theorem InUse.seemsInUse_iff (hascii : data.Ascii) (h : InUse data info) : SeemsInUse data info ↔
    ∀ line ∈ characterLines data info, ¬ data.characters "IP address: none".toList <:+: line := by
  obtain ⟨line, hline, address, heq, -⟩ := h
  refine and_iff_right ⟨line, hline, ?_⟩
  have hwords : data.characters "IP address".toList <:+: data.characters "IP address: ".toList :=
    hascii.characters_infix (forall_printable (by decide +kernel)) (by decide +kernel)
  rw [heq]
  exact hwords.trans (List.prefix_append _ address).isInfix

theorem ne_empty_of_mem_lines (h : service ∈ lines data text) : service ≠ "" := by
  obtain ⟨line, hline, heq⟩ := List.mem_map.mp h
  have hne : line ≠ [] := of_decide_eq_true (List.mem_filter.mp hline).2
  obtain ⟨character, hmem⟩ := List.exists_mem_of_ne_nil line hne
  have hcharacter := data.ne_nil_of_mem_characters (mem_of_mem_splitCharacters hline hmem).1
  obtain ⟨c, hc⟩ := List.exists_mem_of_ne_nil character hcharacter
  have hflatten : c ∈ line.flatten := List.mem_flatten_of_mem hmem hc
  intro hempty
  rw [hempty] at heq
  have hnil : line.flatten = [] := by simpa using congrArg String.toList heq
  rw [hnil] at hflatten
  cases hflatten

theorem not_kept_legend (hascii : data.Ascii) : ¬ Kept data legend := by
  have hinfix : data.characters "asterisk".toList <:+: data.characters legend.toList :=
    hascii.characters_infix (forall_printable (by decide +kernel)) (by decide +kernel)
  rw [Kept, contains, decide_eq_true hinfix]
  nofun

end Texts

/-! ### The choice -/

section Choice

variable {data : CharacterData} (hascii : data.Ascii) (setup : NetworkSetup)
include hascii

/-- The source drops the legend, and every other line with that word. -/
theorem candidates_eq : candidates data setup = (enabledServices data setup).filter (Kept data ·) := by
  rw [candidates, enabledServices, List.filter_filter]
  apply List.filter_congr
  intro service hmem
  have hne := ne_empty_of_mem_lines hmem
  by_cases hkept : Kept data service
  · have hlegend : service ≠ legend := by
      intro hlegend
      rw [hlegend] at hkept
      exact not_kept_legend hascii hkept
    have hcontains : contains data service "asterisk" = false := hkept
    simp [hne, hlegend, hkept, hcontains]
  · have hcontains : contains data service "asterisk" = true := by simpa [Kept] using hkept
    simp [hkept, hcontains]

/-- It takes the first enabled service that it takes for one in use, or else the first that
    it keeps. -/
theorem activeServiceName_eq : activeServiceName data setup =
    ((enabledServices data setup).find? (Taken data setup ·)).or
      ((enabledServices data setup).find? (Kept data ·)) := by
  rw [activeServiceName, candidates_eq hascii, List.find?_filter, List.head?_filter]
  congr 2
  funext service
  simp [Taken, seemsInUse_iff]

/-- **When the proxy is set on the service in use.**  For every list of services and every
    text on each of them: the service that is chosen is the one in use exactly where that
    can be discerned by the words alone. -/
theorem activeServiceName_eq_serviceInUse_iff :
    activeServiceName data setup = serviceInUse data setup ↔ Discernible data setup := by
  have hhead : (enabledServices data setup).find? (fun _ => True) = (enabledServices data setup).head? :=
    find?_eq_head?_iff.mpr fun _ _ => trivial
  rw [activeServiceName_eq hascii, serviceInUse, ← hhead, choice_eq_choice_iff, hhead,
    find?_eq_none_iff_forall, find?_eq_head?_iff]
  simp only [not_or]
  constructor
  · rintro ⟨hfirst, hotherwise⟩
    exact ⟨hfirst, hotherwise⟩
  · intro h
    exact ⟨h.first, h.otherwise⟩

/-- Where the words `IP address: none` are in every text, no service is told from another. -/
theorem activeServiceName_of_words (h : ∀ service ∈ enabledServices data setup,
      contains data (setup.getInfo service) "IP address: none" = true) :
    activeServiceName data setup = (enabledServices data setup).find? (Kept data ·) := by
  have hnone : (enabledServices data setup).find? (Taken data setup ·) = none := by
    rw [find?_eq_none_iff_forall]
    rintro service hmem ⟨-, hseems⟩
    have hwords := (seemsInUse_iff.mp hseems).2
    rw [h service hmem] at hwords
    cases hwords
  rw [activeServiceName_eq hascii, hnone, Option.none_or]

end Choice

/-! ### A network without IPv6 -/

section Sample

def Sample.setup : NetworkSetup where
  listAllNetworkServices :=
    "An asterisk (*) denotes that a network service is disabled.\nThunderbolt Bridge\nWi-Fi\n"
  getInfo service :=
    if service = "Wi-Fi" then
      "DHCP Configuration\nIP address: 192.168.1.7\nIPv6: Automatic\nIPv6 IP address: none\n"
    else "DHCP Configuration\nIPv6: Automatic\nIPv6 IP address: none\n"

/-- The words in the line on IPv6 hide the service in use. -/
theorem service_hidden :
    serviceInUse sampleCharacterData Sample.setup = some "Wi-Fi" ∧
    activeServiceName sampleCharacterData Sample.setup = some "Thunderbolt Bridge" := by
  have hwords : ∀ service ∈ enabledServices sampleCharacterData Sample.setup,
      contains sampleCharacterData (Sample.setup.getInfo service) "IP address: none" = true := by
    decide +kernel
  refine ⟨by decide +kernel, ?_⟩
  rw [activeServiceName_of_words sampleCharacterData_ascii _ hwords]
  decide +kernel

/-- Infos that say nothing of IPv6. -/
theorem discernible_sample : Discernible sampleCharacterData Mac.Sample.networkSetup :=
  (activeServiceName_eq_serviceInUse_iff sampleCharacterData_ascii Mac.Sample.networkSetup).mp
    (by decide +kernel)

end Sample

end DVoD.MacClient.SystemProxy
