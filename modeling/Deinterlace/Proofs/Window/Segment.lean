import Deinterlace.Window.Trim
import Mathlib.Tactic.Common

/-!
# The window as a segment of the stream

A window that has been given the frames `pushed` and has moved on `passed` times stands on the frame
`pushed[passed]`. It holds a contiguous segment of the stream, which reaches from a few frames
before that one to the newest (`StandsAt`), so every view of the window is a view of the stream:
`StandsAt.current?_eq`, `StandsAt.frameAt?_later`, `StandsAt.pending_eq`. Each operation keeps the
window standing, and only the two ways of moving on change the place. A window whose depth has not
changed since it was empty holds as many earlier frames as its depth allows (`Full`).
-/
namespace Deinterlace.Window

variable {w : Window} {pushed : List Frame} {passed : Nat}

/-- The window has been given the frames `pushed`, oldest first, and stands on the one at the place
`passed`, or behind the last. -/
structure StandsAt (w : Window) (pushed : List Frame) (passed : Nat) : Prop where
  frames_eq : w.frames = pushed.drop (passed - w.cursor)
  cursor_le : w.cursor ≤ passed
  passed_le : passed ≤ pushed.length
  cursor_le_depth : w.cursor ≤ w.backwardDepth
  second_lt : w.secondField = true → passed < pushed.length

/-- All the earlier frames that the depth allows are still there. -/
def Full (w : Window) (passed : Nat) : Prop := w.cursor = min passed w.backwardDepth

theorem frames_ne_nil {frame : Frame} (h : w.current? = some frame) : w.frames ≠ [] := by
  intro hnil
  simp [current?, hnil] at h

namespace StandsAt

/-! ## The views of a standing window -/

theorem length_eq (h : w.StandsAt pushed passed) :
    w.frames.length = pushed.length - (passed - w.cursor) := by
  rw [h.frames_eq, List.length_drop]

theorem getElem?_eq (h : w.StandsAt pushed passed) (k : Nat) :
    w.frames[w.cursor + k]? = pushed[passed + k]? := by
  have hc := h.cursor_le
  rw [h.frames_eq, List.getElem?_drop]
  congr 1
  omega

theorem current?_eq (h : w.StandsAt pushed passed) : w.current? = pushed[passed]? :=
  h.getElem?_eq 0

theorem next?_eq (h : w.StandsAt pushed passed) :
    w.frames[w.cursor + 1]? = pushed[passed + 1]? :=
  h.getElem?_eq 1

theorem pending_eq (h : w.StandsAt pushed passed) : w.pending = pushed.length - passed := by
  have hc := h.cursor_le
  have hl := h.length_eq
  unfold pending
  omega

theorem waiting_eq (h : w.StandsAt pushed passed) : w.waiting = pushed.length - (passed + 1) := by
  have hc := h.cursor_le
  have hl := h.length_eq
  unfold waiting
  omega

/-- The place is what has been pushed less what is pending. -/
theorem passed_eq (h : w.StandsAt pushed passed) : passed = pushed.length - w.pending := by
  have hp := h.passed_le
  rw [h.pending_eq]
  omega

/-- A later frame of the window is the one as far on in the stream. -/
theorem frameAt?_later (h : w.StandsAt pushed passed) (k : Nat) :
    w.frameAt? (k : Int) = pushed[passed + k]? := by
  rw [← h.getElem?_eq k]
  have hn : ¬ (w.cursor : Int) + k < 0 := by omega
  have hk : ((w.cursor : Int) + k).toNat = w.cursor + k := by omega
  simp only [frameAt?, if_neg hn, hk]

/-- An earlier frame is the one as far back in the stream, as long as the window holds it. -/
theorem frameAt?_earlier (h : w.StandsAt pushed passed) {k : Nat} (hk : k ≤ w.cursor) :
    w.frameAt? (-(k : Int)) = pushed[passed - k]? := by
  have hc := h.cursor_le
  have hn : ¬ (w.cursor : Int) + -(k : Int) < 0 := by omega
  have hi : ((w.cursor : Int) + -(k : Int)).toNat = w.cursor - k := by omega
  simp only [frameAt?, if_neg hn, hi]
  rw [h.frames_eq, List.getElem?_drop]
  congr 1
  omega

theorem current?_isSome (h : w.StandsAt pushed passed) :
    w.current?.isSome = true ↔ passed < pushed.length := by
  rw [h.current?_eq]
  simp

theorem lt_of_hasOutput (h : w.StandsAt pushed passed) (ho : w.hasOutput = true) :
    passed < pushed.length := by
  rw [hasOutput, Bool.and_eq_true] at ho
  exact h.current?_isSome.1 ho.1

/-- Once the stream has ended, no output is left only when every frame has been passed. -/
theorem passed_eq_length (h : w.StandsAt pushed passed) (he : w.ended = true)
    (ho : w.hasOutput = false) : passed = pushed.length := by
  have hp := h.passed_le
  by_contra hne
  have hlt : passed < pushed.length := by omega
  have hcur := h.current?_isSome.2 hlt
  simp [hasOutput, needsInput, hcur, he] at ho

/-! ## What the operations do to the place -/

/-- Letting go of earlier frames leaves the place alone. The cursor may have been too far on. -/
theorem of_trim (hf : w.frames = pushed.drop (passed - w.cursor)) (hc : w.cursor ≤ passed)
    (hp : passed ≤ pushed.length) (hs : w.secondField = true → passed < pushed.length) :
    w.trim.StandsAt pushed passed where
  frames_eq := by
    simp only [trim, hf, List.drop_drop]
    congr 1
    omega
  cursor_le := Nat.le_trans (Nat.min_le_left _ _) hc
  passed_le := hp
  cursor_le_depth := Nat.min_le_right _ _
  second_lt := hs

theorem empty {w : Window} (hf : w.frames = []) (hc : w.cursor = 0) (hs : w.secondField = false) :
    w.StandsAt [] 0 where
  frames_eq := by simp [hf]
  cursor_le := by omega
  passed_le := Nat.le_refl _
  cursor_le_depth := by omega
  second_lt := by simp [hs]

theorem flush (w : Window) : w.flush.StandsAt [] 0 := empty rfl rfl rfl

theorem push (h : w.StandsAt pushed passed) (frame : Frame) :
    (w.push frame).StandsAt (pushed ++ [frame]) passed where
  frames_eq := by
    have hp := h.passed_le
    show w.frames ++ [frame] = (pushed ++ [frame]).drop (passed - w.cursor)
    rw [List.drop_append_of_le_length (by omega), ← h.frames_eq]
  cursor_le := h.cursor_le
  passed_le := by
    have hp := h.passed_le
    rw [List.length_append]
    omega
  cursor_le_depth := h.cursor_le_depth
  second_lt hs := by
    have hlt := h.second_lt hs
    rw [List.length_append]
    omega

theorem finish (h : w.StandsAt pushed passed) : w.finish.StandsAt pushed passed :=
  ⟨h.frames_eq, h.cursor_le, h.passed_le, h.cursor_le_depth, h.second_lt⟩

theorem setMode (h : w.StandsAt pushed passed) (mode : WindowMode) :
    (w.setMode mode).StandsAt pushed passed :=
  ⟨h.frames_eq, h.cursor_le, h.passed_le, h.cursor_le_depth, h.second_lt⟩

theorem setDepths (h : w.StandsAt pushed passed) (backward forward : Nat) :
    (w.setDepths backward forward).StandsAt pushed passed :=
  of_trim h.frames_eq h.cursor_le h.passed_le h.second_lt

/-- Moving on from a frame. -/
theorem advanceFrame (h : w.StandsAt pushed passed) (hlt : passed < pushed.length) :
    w.advanceFrame.StandsAt pushed (passed + 1) := by
  have hcur := h.current?_isSome.2 hlt
  have hc := h.cursor_le
  rw [Window.advanceFrame, if_neg (by simp [Option.isSome_iff_ne_none.1 hcur])]
  refine of_trim ?_ ?_ ?_ ?_
  · show w.frames = pushed.drop (passed + 1 - (w.cursor + 1))
    rw [h.frames_eq]
    congr 1
    omega
  · show w.cursor + 1 ≤ passed + 1
    omega
  · omega
  · intro hs
    cases hs

/-- Moving on from a field leads to the second field of the frame or to the next frame. -/
theorem advanceField (h : w.StandsAt pushed passed) (hlt : passed < pushed.length) :
    w.advanceField.StandsAt pushed (if w.hasSecondField then passed else passed + 1) := by
  have hcur := h.current?_isSome.2 hlt
  rw [Window.advanceField, if_neg (by simp [Option.isSome_iff_ne_none.1 hcur])]
  split
  · exact ⟨h.frames_eq, h.cursor_le, h.passed_le, h.cursor_le_depth, fun _ => hlt⟩
  · exact h.advanceFrame hlt

end StandsAt

/-! ## What moving on leaves alone -/

section Settings

variable (w : Window)

@[simp] theorem backwardDepth_advanceFrame :
    w.advanceFrame.backwardDepth = w.backwardDepth := by
  unfold advanceFrame
  split <;> rfl

@[simp] theorem forwardDepth_advanceFrame : w.advanceFrame.forwardDepth = w.forwardDepth := by
  unfold advanceFrame
  split <;> rfl

@[simp] theorem mode_advanceFrame : w.advanceFrame.mode = w.mode := by
  unfold advanceFrame
  split <;> rfl

@[simp] theorem ended_advanceFrame : w.advanceFrame.ended = w.ended := by
  unfold advanceFrame
  split <;> rfl

@[simp] theorem lastStep_advanceFrame : w.advanceFrame.lastStep = w.lastStep := by
  unfold advanceFrame
  split <;> rfl

/-- Moving on from a field leaves alone what moving on from a frame leaves alone, as long as the
second field does not matter to it. -/
theorem advanceField_induction {α : Type} (view : Window → α)
    (hsecond : view { w with secondField := true } = view w)
    (hframe : view w.advanceFrame = view w) : view w.advanceField = view w := by
  unfold advanceField
  split
  · rfl
  · split
    · exact hsecond
    · exact hframe

@[simp] theorem backwardDepth_advanceField :
    w.advanceField.backwardDepth = w.backwardDepth :=
  w.advanceField_induction backwardDepth rfl w.backwardDepth_advanceFrame

@[simp] theorem forwardDepth_advanceField : w.advanceField.forwardDepth = w.forwardDepth :=
  w.advanceField_induction forwardDepth rfl w.forwardDepth_advanceFrame

@[simp] theorem mode_advanceField : w.advanceField.mode = w.mode :=
  w.advanceField_induction mode rfl w.mode_advanceFrame

@[simp] theorem ended_advanceField : w.advanceField.ended = w.ended :=
  w.advanceField_induction ended rfl w.ended_advanceFrame

@[simp] theorem lastStep_advanceField : w.advanceField.lastStep = w.lastStep :=
  w.advanceField_induction lastStep rfl w.lastStep_advanceFrame

theorem secondField_advanceFrame {w : Window} (h : w.current?.isSome = true) :
    w.advanceFrame.secondField = false := by
  rw [advanceFrame, if_neg (by simp [Option.isSome_iff_ne_none.1 h])]
  rfl

theorem secondField_advanceField {w : Window} (h : w.current?.isSome = true) :
    w.advanceField.secondField = w.hasSecondField := by
  rw [advanceField, if_neg (by simp [Option.isSome_iff_ne_none.1 h])]
  split
  · rename_i hs
    exact hs.symm
  · rename_i hs
    rw [secondField_advanceFrame h, Bool.eq_false_iff.2 hs]

end Settings

/-! ## What is left to output -/

theorem pending_advanceFrame {w : Window} (h : w.current?.isSome = true) :
    w.advanceFrame.pending = w.pending - 1 := by
  rw [advanceFrame, if_neg (by simp [Option.isSome_iff_ne_none.1 h]), pending_trim]
  unfold pending
  show w.frames.length - (w.cursor + 1) = _
  omega

theorem ticksLeft_advanceFrame_lt {w : Window} (h : w.current?.isSome = true) :
    w.advanceFrame.ticksLeft < w.ticksLeft := by
  have hcursor := w.current?_isSome.1 h
  have hsecond := Bool.toNat_le w.secondField
  unfold ticksLeft
  rw [pending_advanceFrame h, secondField_advanceFrame h]
  unfold pending
  show 2 * (w.frames.length - w.cursor - 1) - 0 < _
  omega

theorem ticksLeft_advanceField_lt {w : Window} (h : w.current?.isSome = true) :
    w.advanceField.ticksLeft < w.ticksLeft := by
  rw [advanceField, if_neg (by simp [Option.isSome_iff_ne_none.1 h])]
  split
  · rename_i hs
    have hcursor := w.current?_isSome.1 h
    simp only [hasSecondField, Bool.and_eq_true, Bool.not_eq_true'] at hs
    unfold ticksLeft
    rw [hs.1.1]
    unfold pending
    show 2 * (w.frames.length - w.cursor) - 1 < 2 * (w.frames.length - w.cursor) - 0
    omega
  · exact ticksLeft_advanceFrame_lt h

/-! ## Windows that hold all they may -/

namespace Full

theorem advanceFrame (h : w.Full passed) (hcur : w.current?.isSome = true) :
    w.advanceFrame.Full (passed + 1) := by
  unfold Full at h ⊢
  rw [Window.backwardDepth_advanceFrame, Window.advanceFrame,
    if_neg (by simp [Option.isSome_iff_ne_none.1 hcur])]
  show min (w.cursor + 1) w.backwardDepth = min (passed + 1) w.backwardDepth
  omega

theorem advanceField (h : w.Full passed) (hcur : w.current?.isSome = true) :
    w.advanceField.Full (if w.hasSecondField then passed else passed + 1) := by
  rw [Window.advanceField, if_neg (by simp [Option.isSome_iff_ne_none.1 hcur])]
  split
  · exact h
  · exact h.advanceFrame hcur

/-- A window that has passed nothing is full at any depth. -/
theorem of_zero (h : w.StandsAt pushed 0) : w.Full 0 := by
  have hcursor := h.cursor_le
  unfold Full
  omega

end Full

end Deinterlace.Window
