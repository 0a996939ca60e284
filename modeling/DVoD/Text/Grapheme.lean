import Mathlib.Data.List.Basic

/-!
# Grapheme clusters

The characters of a Swift string are the extended grapheme clusters of its scalars, which
UAX 29 defines by rules on the properties of the scalars.  The properties are data of the
Unicode version at hand, `CharacterData`; the rules GB3 to GB13 are `joins`.

A cluster has a CR or an LF only as one of these, or as the two together
(`properCluster_of_mem`).
-/

namespace DVoD.Text

/-! ### The rules -/

/-- `Grapheme_Cluster_Break`. -/
inductive ClusterBreak where
  | CR
  | LF
  | Control
  | Extend
  | ZWJ
  | RegionalIndicator
  | Prepend
  | SpacingMark
  | L
  | V
  | T
  | LV
  | LVT
  | Other
deriving DecidableEq

/-- `Indic_Conjunct_Break`. -/
inductive ConjunctBreak where
  | Consonant
  | Extend
  | Linker
  | None
deriving DecidableEq

structure CharacterData where
  clusterBreak : Char → ClusterBreak
  extendedPictographic : Char → Bool
  conjunctBreak : Char → ConjunctBreak
  clusterBreak_cr : ∀ c, clusterBreak c = .CR ↔ c = '\r'
  clusterBreak_lf : ∀ c, clusterBreak c = .LF ↔ c = '\n'

def ClusterBreak.isControl (p : ClusterBreak) : Bool := p = CR || p = LF || p = Control

/-- GB6 to GB8. -/
def ClusterBreak.hangul : ClusterBreak → ClusterBreak → Bool
  | L, next => next = L || next = V || next = LV || next = LVT
  | LV, next => next = V || next = T
  | V, next => next = V || next = T
  | LVT, next => next = T
  | T, next => next = T
  | _, _ => false

namespace CharacterData

variable (data : CharacterData)

/-- GB9c, of what stands before a consonant, the last scalar first. -/
def linked (cluster : List Char) : Bool :=
  let marks := cluster.takeWhile fun c =>
    data.conjunctBreak c = .Extend || data.conjunctBreak c = .Linker
  marks.any (fun c => data.conjunctBreak c = .Linker) &&
    (cluster.drop marks.length).head?.any fun c => data.conjunctBreak c = .Consonant

/-- GB11, of what stands before a joiner. -/
def pictographic (cluster : List Char) : Bool :=
  (cluster.dropWhile fun c => data.clusterBreak c = .Extend).head?.any data.extendedPictographic

/-- GB12 and GB13. -/
def flagOpen (cluster : List Char) : Bool :=
  (cluster.takeWhile fun c => data.clusterBreak c = .RegionalIndicator).length % 2 = 1

/-- Whether `c` goes on with the cluster before it. -/
def joins (cluster : List Char) (c : Char) : Bool :=
  match cluster.reverse with
  | [] => true
  | last :: earlier =>
      let before := data.clusterBreak last
      let after := data.clusterBreak c
      if before = .CR && after = .LF then true
      else if before.isControl || after.isControl then false
      else
        before.hangul after || after = .Extend || after = .ZWJ || after = .SpacingMark ||
          before = .Prepend ||
          (data.conjunctBreak c = .Consonant && data.linked (last :: earlier)) ||
          (before = .ZWJ && data.extendedPictographic c && data.pictographic earlier) ||
          (after = .RegionalIndicator && data.flagOpen (last :: earlier))

def clusters (cluster : List Char) : List Char → List (List Char)
  | [] => if cluster = [] then [] else [cluster]
  | c :: s => if data.joins cluster c then clusters (cluster ++ [c]) s else cluster :: clusters [c] s

/-- The characters of a string. -/
def characters (s : List Char) : List (List Char) := data.clusters [] s

/-- What is true of single scalars, and stays so as scalars join, is true of every cluster. -/
theorem of_mem_clusters {P : List Char → Prop} (hone : ∀ c, P [c])
    (hjoins : ∀ cluster c, cluster ≠ [] → P cluster → data.joins cluster c = true → P (cluster ++ [c]))
    {cluster s character : List Char} (h : cluster = [] ∨ P cluster)
    (hmem : character ∈ data.clusters cluster s) : P character := by
  induction s generalizing cluster with
  | nil =>
    unfold clusters at hmem
    split at hmem
    · cases hmem
    · next hne =>
      rw [List.mem_singleton.mp hmem]
      exact h.resolve_left hne
  | cons c s ih =>
    unfold clusters at hmem
    split at hmem
    · next hjoin =>
      refine ih (Or.inr ?_) hmem
      by_cases hnil : cluster = []
      · rw [hnil]
        exact hone c
      · exact hjoins cluster c hnil (h.resolve_left hnil) hjoin
    · next hjoin =>
      have hne : cluster ≠ [] := by
        intro hnil
        rw [hnil] at hjoin
        exact hjoin rfl
      cases List.mem_cons.mp hmem with
      | inl hcharacter =>
        rw [hcharacter]
        exact h.resolve_left hne
      | inr hmem => exact ih (Or.inr (hone c)) hmem

theorem flatten_clusters (cluster s : List Char) :
    (data.clusters cluster s).flatten = cluster ++ s := by
  induction s generalizing cluster with
  | nil =>
    unfold clusters
    split
    · next hnil => rw [hnil, List.flatten_nil, List.append_nil]
    · rw [List.flatten_singleton, List.append_nil]
  | cons c s ih =>
    unfold clusters
    split
    · rw [ih, List.append_assoc, List.singleton_append]
    · rw [List.flatten_cons, ih, List.singleton_append]

theorem flatten_characters (s : List Char) : (data.characters s).flatten = s :=
  data.flatten_clusters [] s

theorem characters_ne_nil {s : List Char} (h : s ≠ []) : data.characters s ≠ [] := by
  intro hnil
  have hflatten := data.flatten_characters s
  rw [hnil] at hflatten
  exact h hflatten.symm

theorem ne_nil_of_mem_characters {s character : List Char} (h : character ∈ data.characters s) :
    character ≠ [] := by
  refine data.of_mem_clusters (P := (· ≠ [])) ?_ ?_ (Or.inl rfl) h
  · intro c
    exact List.cons_ne_nil c []
  · intro cluster c _ _ _
    exact List.append_ne_nil_of_right_ne_nil cluster (List.cons_ne_nil c [])

theorem mem_of_singleton_mem_characters {s : List Char} {c : Char} (h : [c] ∈ data.characters s) :
    c ∈ s := by
  rw [← data.flatten_characters s]
  exact List.mem_flatten_of_mem h (List.mem_singleton_self c)

/-! ### CR and LF -/

theorem not_control {c : Char} (h : (data.clusterBreak c).isControl = false) : c ≠ '\r' ∧ c ≠ '\n' := by
  constructor
  · intro hc
    rw [(data.clusterBreak_cr c).mpr hc] at h
    cases h
  · intro hc
    rw [(data.clusterBreak_lf c).mpr hc] at h
    cases h

/-- A scalar that goes on with others is the LF of a CR LF, or neither it nor the one before
    is a CR or an LF. -/
theorem joins_cases {cluster : List Char} {c : Char} (hne : cluster ≠ [])
    (h : data.joins cluster c = true) : ∃ last, cluster.getLast? = some last ∧
      (last = '\r' ∧ c = '\n' ∨ (last ≠ '\r' ∧ last ≠ '\n') ∧ c ≠ '\r' ∧ c ≠ '\n') := by
  unfold joins at h
  split at h
  · next hnil => exact absurd (List.reverse_eq_nil_iff.mp hnil) hne
  · next last earlier hreverse =>
    refine ⟨last, by rw [← List.head?_reverse, hreverse, List.head?_cons], ?_⟩
    dsimp only at h
    split at h
    · next hcrlf =>
      rw [Bool.and_eq_true, decide_eq_true_iff, decide_eq_true_iff, data.clusterBreak_cr,
        data.clusterBreak_lf] at hcrlf
      exact Or.inl hcrlf
    · split at h
      · cases h
      · next hcontrol =>
        rw [Bool.not_eq_true, Bool.or_eq_false_iff] at hcontrol
        exact Or.inr ⟨data.not_control hcontrol.1, data.not_control hcontrol.2⟩

/-- A CR or an LF stands alone, or they make a CR LF. -/
def ProperCluster (character : List Char) : Prop :=
  ('\r' ∉ character ∧ '\n' ∉ character) ∨ character = ['\r'] ∨ character = ['\n'] ∨
    character = ['\r', '\n']

theorem properCluster_of_mem {s character : List Char} (h : character ∈ data.characters s) :
    ProperCluster character := by
  refine data.of_mem_clusters ?_ ?_ (Or.inl rfl) h
  · intro c
    by_cases hcr : c = '\r'
    · exact Or.inr (Or.inl (by rw [hcr]))
    · by_cases hlf : c = '\n'
      · exact Or.inr (Or.inr (Or.inl (by rw [hlf])))
      · exact Or.inl ⟨by simpa using Ne.symm hcr, by simpa using Ne.symm hlf⟩
  · intro cluster c hne hproper hjoin
    obtain ⟨last, hlast, hcases⟩ := data.joins_cases hne hjoin
    have hmem : last ∈ cluster := List.mem_of_getLast? hlast
    rcases hproper with ⟨hcr, hlf⟩ | hproper | hproper | hproper
    · rcases hcases with ⟨heq, -⟩ | ⟨-, hc⟩
      · exact absurd (heq ▸ hmem) hcr
      · left
        simp [hcr, hlf, Ne.symm hc.1, Ne.symm hc.2]
    · rcases hcases with ⟨-, heq⟩ | ⟨hother, -⟩
      · rw [hproper, heq]
        exact Or.inr (Or.inr (Or.inr rfl))
      · rw [hproper] at hmem
        exact absurd (List.mem_singleton.mp hmem) hother.1
    · rw [hproper] at hmem
      rcases hcases with ⟨heq, -⟩ | ⟨hother, -⟩
      · rw [heq] at hmem
        exact absurd (List.mem_singleton.mp hmem) (by decide)
      · exact absurd (List.mem_singleton.mp hmem) hother.2
    · rw [hproper] at hlast
      rcases hcases with ⟨heq, -⟩ | ⟨hother, -⟩
      · rw [heq] at hlast
        exact absurd hlast (by decide)
      · exact absurd (Option.some.inj hlast).symm hother.2

end CharacterData

/-! ### Strings as characters -/

/-- `s.split(separator:)`, which leaves out empty pieces. -/
def splitCharacters (separator : List Char) (s : List (List Char)) : List (List (List Char)) :=
  (s.splitOn separator).filter (· ≠ [])

/-- `s.hasPrefix(piece)`. -/
def hasPrefix (s piece : List (List Char)) : Bool := piece.isPrefixOf s

section Split

variable {α : Type} {separator a : α} {s piece : List α}

/-- What has no separator in it lies on one side of it. -/
theorem infix_append_cons_iff {t : List α} (h : separator ∉ piece) :
    piece <:+: s ++ separator :: t ↔ piece <:+: s ∨ piece <:+: t := by
  constructor
  · rintro ⟨before, after, heq⟩
    rcases List.append_eq_append_iff.mp heq with ⟨rest, hs, -⟩ | ⟨rest, hbefore, ht⟩
    · exact Or.inl ⟨before, rest, hs.symm⟩
    · cases rest with
      | nil => exact Or.inl ⟨before, [], by rw [List.append_nil, hbefore, List.append_nil]⟩
      | cons b rest =>
        rw [List.cons_append, List.cons.injEq] at ht
        rw [← ht.1] at hbefore
        rcases List.append_eq_append_iff.mp hbefore with ⟨more, -, hpiece⟩ | ⟨more, -, hrest⟩
        · exact absurd (hpiece ▸ List.mem_append_right more List.mem_cons_self) h
        · cases more with
          | nil =>
            rw [List.nil_append] at hrest
            exact absurd (hrest ▸ List.mem_cons_self) h
          | cons b' more =>
            rw [List.cons_append, List.cons.injEq] at hrest
            right
            exact ⟨more, after, by rw [ht.2, hrest.2]⟩
  · intro h
    rcases h with h | h
    · exact h.trans (List.prefix_append _ _).isInfix
    · exact h.trans ⟨s ++ [separator], [], by simp⟩

variable [BEq α] [LawfulBEq α]

theorem mem_of_mem_splitOn (hpiece : piece ∈ s.splitOn separator) (ha : a ∈ piece) :
    a ∈ s ∧ a ≠ separator := by
  induction s generalizing piece with
  | nil =>
    rw [List.splitOn_nil, List.mem_singleton] at hpiece
    rw [hpiece] at ha
    cases ha
  | cons x s ih =>
    rw [List.splitOn_cons_eq_if_modifyHead] at hpiece
    split at hpiece
    · cases List.mem_cons.mp hpiece with
      | inl hnil =>
        rw [hnil] at ha
        cases ha
      | inr hpiece => exact (ih hpiece ha).imp_left (List.mem_cons_of_mem x)
    · next hx =>
      cases hsplit : s.splitOn separator with
      | nil => exact absurd hsplit (List.splitOn_ne_nil separator s)
      | cons first rest =>
        rw [hsplit] at hpiece ih
        cases List.mem_cons.mp hpiece with
        | inl hfirst =>
          rw [hfirst] at ha
          cases List.mem_cons.mp ha with
          | inl hax =>
            rw [hax]
            exact ⟨List.mem_cons_self, by simpa using hx⟩
          | inr ha => exact (ih List.mem_cons_self ha).imp_left (List.mem_cons_of_mem x)
        | inr hrest => exact (ih (List.mem_cons_of_mem _ hrest) ha).imp_left (List.mem_cons_of_mem x)

/-- It lies within one of the pieces. -/
theorem infix_iff_exists_mem_splitOn (h : separator ∉ piece) :
    piece <:+: s ↔ ∃ line ∈ s.splitOn separator, piece <:+: line := by
  induction hlines : s.splitOn separator generalizing s with
  | nil => exact absurd hlines (List.splitOn_ne_nil separator s)
  | cons line lines ih =>
    by_cases hmem : separator ∈ s
    · obtain ⟨first, rest, hs, hfirst⟩ := List.eq_append_cons_of_mem hmem
      rw [hs, List.splitOn_append_cons_self_of_not_mem hfirst] at hlines
      obtain ⟨hline, hlines⟩ := List.cons.inj hlines
      rw [hs, infix_append_cons_iff h, ih hlines, hline]
      simp only [List.mem_cons, exists_eq_or_imp]
    · rw [List.splitOn_eq_singleton hmem] at hlines
      rw [← hlines]
      simp

end Split

theorem infix_iff_exists_mem_splitCharacters {separator : List Char} {s piece : List (List Char)}
    (h : separator ∉ piece) (hne : piece ≠ []) :
    piece <:+: s ↔ ∃ line ∈ splitCharacters separator s, piece <:+: line := by
  rw [infix_iff_exists_mem_splitOn h]
  constructor
  · rintro ⟨line, hmem, hinfix⟩
    refine ⟨line, List.mem_filter.mpr ⟨hmem, decide_eq_true ?_⟩, hinfix⟩
    intro hnil
    rw [hnil] at hinfix
    exact hne (List.infix_nil.mp hinfix)
  · rintro ⟨line, hmem, hinfix⟩
    exact ⟨line, (List.mem_filter.mp hmem).1, hinfix⟩

theorem mem_of_mem_splitCharacters {separator character : List Char} {s piece : List (List Char)}
    (hpiece : piece ∈ splitCharacters separator s) (h : character ∈ piece) :
    character ∈ s ∧ character ≠ separator :=
  mem_of_mem_splitOn (List.mem_filter.mp hpiece).1 h

/-! ### ASCII -/

def Printable (c : Char) : Prop := 0x20 ≤ c.toNat ∧ c.toNat ≤ 0x7E

instance (c : Char) : Decidable (Printable c) := inferInstanceAs (Decidable (_ ∧ _))

theorem forall_printable {s : List Char} (h : s.all (Printable ·) = true) : ∀ c ∈ s, Printable c := by
  intro c hc
  exact of_decide_eq_true (List.all_eq_true.mp h c hc)

/-- What the properties of the printable scalars are in every version of Unicode. -/
structure CharacterData.Ascii (data : CharacterData) : Prop where
  clusterBreak : ∀ c, Printable c → data.clusterBreak c = .Other
  conjunctBreak : ∀ c, Printable c → data.conjunctBreak c = .None

namespace CharacterData.Ascii

variable {data : CharacterData} {s piece : List Char}

theorem joins_eq_false (h : data.Ascii) {a c : Char} (ha : Printable a) (hc : Printable c) :
    data.joins [a] c = false := by
  simp [joins, h.clusterBreak a ha, h.clusterBreak c hc, h.conjunctBreak c hc,
    ClusterBreak.isControl, ClusterBreak.hangul]

theorem clusters_eq (h : data.Ascii) {a : Char} (ha : Printable a) (hs : ∀ c ∈ s, Printable c) :
    data.clusters [a] s = [a] :: s.map fun c => [c] := by
  induction s generalizing a with
  | nil => rfl
  | cons c s ih =>
    obtain ⟨hc, hs⟩ := List.forall_mem_cons.mp hs
    rw [clusters, h.joins_eq_false ha hc, ih hc hs]
    rfl

/-- Every printable scalar is a character of its own. -/
theorem characters_eq (h : data.Ascii) (hs : ∀ c ∈ s, Printable c) :
    data.characters s = s.map fun c => [c] := by
  cases s with
  | nil => rfl
  | cons c s =>
    obtain ⟨hc, hs⟩ := List.forall_mem_cons.mp hs
    exact h.clusters_eq hc hs

theorem characters_infix (h : data.Ascii) (hs : ∀ c ∈ s, Printable c) (hpiece : piece <:+: s) :
    data.characters piece <:+: data.characters s := by
  rw [h.characters_eq hs, h.characters_eq fun c hc => hs c (hpiece.subset hc)]
  exact hpiece.map _

end CharacterData.Ascii

/-- ASCII, with the combining diacritical marks. -/
def sampleCharacterData : CharacterData where
  clusterBreak c :=
    if c = '\r' then .CR
    else if c = '\n' then .LF
    else if c.toNat < 0x20 ∨ c.toNat = 0x7F then .Control
    else if 0x300 ≤ c.toNat ∧ c.toNat ≤ 0x36F then .Extend
    else .Other
  extendedPictographic _ := false
  conjunctBreak _ := .None
  clusterBreak_cr c := by
    by_cases hcr : c = '\r'
    · simp [hcr]
    · simp only [hcr, if_false, iff_false]
      split_ifs <;> nofun
  clusterBreak_lf c := by
    by_cases hcr : c = '\r'
    · simp [hcr]
    · by_cases hlf : c = '\n'
      · simp [hlf]
      · simp only [hcr, hlf, if_false, iff_false]
        split_ifs <;> nofun

theorem sampleCharacterData_ascii : sampleCharacterData.Ascii where
  clusterBreak c hc := by
    obtain ⟨hlow, hhigh⟩ := hc
    have hcr : c ≠ '\r' := by
      intro hcr
      rw [hcr] at hlow
      exact absurd hlow (by decide)
    have hlf : c ≠ '\n' := by
      intro hlf
      rw [hlf] at hlow
      exact absurd hlow (by decide)
    simp only [sampleCharacterData, hcr, hlf, if_false]
    rw [if_neg (by omega), if_neg (by omega)]
  conjunctBreak _ _ := rfl

end DVoD.Text
