import Mathlib.Data.List.Nodup
import Mathlib.Order.Basic

/-!
# A snapshot of a log and a stream of it

A reader has a first part of a log, read at one time, and some later entries of it that came
to it one by one, and puts behind the first those of the second that are new.  The log has
its entries in the order of their keys.  `merge_prefix_iff` says when the result is a first
part of the log again.
-/

namespace DVoD.Log

variable {α κ : Type} [Preorder κ] {key : α → κ} {log snapshot live : List α} {a b : α}

/-! ### Logs in the order of their keys -/

/-- Some entries of the log are a first part of it where everything older is among them. -/
theorem prefix_iff_of_sublist (hlog : log.Pairwise fun a b => key a < key b)
    (h : live.Sublist log) :
    live <+: log ↔ ∀ a ∈ log, ∀ b ∈ live, key a < key b → a ∈ live := by
  induction h with
  | slnil => simp
  | cons c h ih =>
    next live log =>
    obtain ⟨hc, hlog⟩ := List.pairwise_cons.mp hlog
    cases live with
    | nil => exact iff_of_true (List.nil_prefix) (by simp)
    | cons b live =>
      -- the oldest entry is missing
      have hmem : b ∈ log := h.subset List.mem_cons_self
      refine iff_of_false ?_ ?_
      · intro hprefix
        obtain ⟨rfl, -⟩ := List.cons_prefix_cons.mp hprefix
        exact lt_irrefl _ (hc b hmem)
      · intro hall
        have hmem' := hall c List.mem_cons_self b List.mem_cons_self (hc b hmem)
        exact lt_irrefl _ (hc c (h.subset hmem'))
  | cons_cons c h ih =>
    next live log =>
    obtain ⟨hc, hlog⟩ := List.pairwise_cons.mp hlog
    rw [List.cons_prefix_cons, and_iff_right rfl, ih hlog]
    constructor
    · intro hall a ha b hb hab
      rcases List.mem_cons.mp ha with rfl | ha'
      · exact List.mem_cons_self
      · rcases List.mem_cons.mp hb with rfl | hb'
        · exact absurd hab (hc a ha').asymm
        · exact List.mem_cons_of_mem _ (hall a ha' b hb' hab)
    · intro hall a ha b hb hab
      have hmem := hall a (List.mem_cons_of_mem _ ha) b (List.mem_cons_of_mem _ hb) hab
      rcases List.mem_cons.mp hmem with rfl | hmem
      · exact absurd (hc _ ha) (lt_irrefl _)
      · exact hmem

/-! ### The merge -/

variable [DecidableEq κ]

/-- The snapshot, and behind it what the stream has of other keys. -/
def merge (key : α → κ) (snapshot live : List α) : List α :=
  snapshot ++ live.filter fun a => key a ∉ snapshot.map key

/-- Nothing is lost where all entries are those of a log. -/
theorem mem_merge_iff (hlog : log.Pairwise fun a b => key a < key b)
    (hsnapshot : snapshot <+: log) (hlive : live.Sublist log) :
    a ∈ merge key snapshot live ↔ a ∈ snapshot ∨ a ∈ live := by
  have hkeys : (log.map key).Nodup := List.pairwise_map.mpr (hlog.imp fun hlt => hlt.ne)
  constructor
  · intro h
    rcases List.mem_append.mp h with h | h
    · exact .inl h
    · exact .inr (List.mem_filter.mp h).1
  · rintro (h | h)
    · exact List.mem_append_left _ h
    · by_cases hseen : key a ∈ snapshot.map key
      · obtain ⟨b, hb, hkey⟩ := List.mem_map.mp hseen
        have heq := List.inj_on_of_nodup_map hkeys (hsnapshot.subset hb) (hlive.subset h) hkey
        exact List.mem_append_left _ (heq ▸ hb)
      · exact List.mem_append_right _ (List.mem_filter.mpr ⟨h, decide_eq_true hseen⟩)

/-- **When the merged entries have no gap.** -/
theorem merge_prefix_iff (hlog : log.Pairwise fun a b => key a < key b)
    (hsnapshot : snapshot <+: log) (hlive : live.Sublist log) :
    merge key snapshot live <+: log ↔
      ∀ a ∈ log, ∀ b ∈ live, key a < key b → a ∈ snapshot ∨ a ∈ live := by
  obtain ⟨later, rfl⟩ := hsnapshot
  obtain ⟨hold, hlater, hbetween⟩ := List.pairwise_append.mp hlog
  have hnew : ∀ a ∈ later, key a ∉ snapshot.map key := by
    intro a ha hmem
    obtain ⟨b, hb, hkey⟩ := List.mem_map.mp hmem
    exact (hbetween b hb a ha).ne hkey
  have hseen : ∀ a ∈ snapshot, key a ∈ snapshot.map key := fun a ha => List.mem_map_of_mem ha
  -- what is left of the stream is some of what came after the snapshot
  have hrest : (live.filter fun a => key a ∉ snapshot.map key).Sublist later := by
    have hnone : snapshot.filter (fun a => key a ∉ snapshot.map key) = [] :=
      List.filter_eq_nil_iff.mpr fun a ha h => of_decide_eq_true h (hseen a ha)
    have hall : later.filter (fun a => key a ∉ snapshot.map key) = later :=
      List.filter_eq_self.mpr fun a ha => decide_eq_true (hnew a ha)
    have hfilter := hlive.filter fun a => decide (key a ∉ snapshot.map key)
    rwa [List.filter_append, hnone, hall] at hfilter
  rw [merge, List.prefix_append_right_inj, prefix_iff_of_sublist hlater hrest]
  constructor
  · intro hall a ha b hb hab
    rcases List.mem_append.mp ha with ha | ha
    · exact .inl ha
    · rcases List.mem_append.mp (hlive.subset hb) with hb' | hb'
      · exact absurd hab (hbetween b hb' a ha).asymm
      · have hmem := hall a ha b (List.mem_filter.mpr ⟨hb, decide_eq_true (hnew b hb')⟩) hab
        exact .inr (List.mem_filter.mp hmem).1
  · intro hall a ha b hb hab
    have hb' := (List.mem_filter.mp hb).1
    rcases hall a (List.mem_append_right _ ha) b hb' hab with hmem | hmem
    · exact absurd (hseen a hmem) (hnew a ha)
    · exact List.mem_filter.mpr ⟨hmem, decide_eq_true (hnew a ha)⟩

end DVoD.Log
