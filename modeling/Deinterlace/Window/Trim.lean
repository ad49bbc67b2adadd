import Deinterlace.Window

/-!
# Trimming the window

What `Window.trim` does to the views of a window: earlier frames go, and seen from the current
frame nothing else changes. Hence `Window.trim` has no effect on a window that is not too deep
(`trim_of_cursor_le`), and a second time none at all (`trim_trim`).
-/
namespace Deinterlace.Window

variable (w : Window)

theorem cursor_trim_le : w.trim.cursor ≤ w.backwardDepth := Nat.min_le_right _ _

theorem trim_of_cursor_le (h : w.cursor ≤ w.backwardDepth) : w.trim = w := by
  simp [trim, Nat.sub_eq_zero_of_le h, Nat.min_eq_left h]

@[simp] theorem trim_trim : w.trim.trim = w.trim :=
  trim_of_cursor_le _ (cursor_trim_le w)

@[simp] theorem current?_trim : w.trim.current? = w.current? := by
  simp only [current?, trim, List.getElem?_drop]
  congr 1; omega

@[simp] theorem waiting_trim : w.trim.waiting = w.waiting := by
  simp only [waiting, trim, List.length_drop]; omega

@[simp] theorem pending_trim : w.trim.pending = w.pending := by
  simp only [pending, trim, List.length_drop]; omega

theorem frameAt?_trim {offset : Int} (h : 0 ≤ offset) :
    w.trim.frameAt? offset = w.frameAt? offset := by
  have cursor : (w.trim.cursor : Int) = min w.cursor w.backwardDepth := by simp [trim]
  have before : ¬ (w.trim.cursor : Int) + offset < 0 := by omega
  have after : ¬ (w.cursor : Int) + offset < 0 := by omega
  simp only [frameAt?, if_neg before, if_neg after]
  simp only [trim, List.getElem?_drop]
  congr 1; omega

@[simp] theorem frameAt?_zero : w.frameAt? 0 = w.current? := by
  have h : ¬ (w.cursor : Int) + 0 < 0 := by omega
  simp only [frameAt?, if_neg h, current?]
  congr 1

theorem current?_isSome : w.current?.isSome = true ↔ w.cursor < w.frames.length := by
  simp [current?]

end Deinterlace.Window
