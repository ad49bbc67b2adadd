import Deinterlace.Proofs.Window.Segment

/-!
# Histories of a window

Everything that can be done to a window is an `Operation`, and a window that is in use has come
from the new one by a list of operations. `Chronicle.of` follows such a list and writes down what
the window itself does not remember: all frames pushed since it was last flushed, and how often it
has moved on since then. The window stands where its chronicle says it does (`Chronicle.standsAt`).
-/
namespace Deinterlace

/-- What can be done to a window. -/
inductive Window.Operation
  | push (frame : Frame)
  /-- The end of the stream is announced. -/
  | finish
  | advanceFrame
  | advanceField
  | flush
  | setDepths (backward forward : Nat)
  | setMode (mode : WindowMode)

namespace Window

/-- The window after an operation. -/
def apply (w : Window) : Operation → Window
  | .push frame => w.push frame
  | .finish => w.finish
  | .advanceFrame => w.advanceFrame
  | .advanceField => w.advanceField
  | .flush => w.flush
  | .setDepths backward forward => w.setDepths backward forward
  | .setMode mode => w.setMode mode

/-- Whether an operation makes the window move on to the next frame. -/
def movesOn (w : Window) : Operation → Bool
  | .advanceFrame => w.current?.isSome
  | .advanceField => w.current?.isSome && !w.hasSecondField
  | _ => false

/-- A frame that has been pushed. -/
structure Arrival where
  frame : Frame
  /-- Whether the window still held the frame pushed before this one when this one came. -/
  held : Bool

/-- A window with what has happened to it since it was last flushed. -/
structure Chronicle where
  window : Window := {}
  /-- The frames pushed, latest first. -/
  arrivals : List Arrival := []
  /-- How often the window has moved on to a next frame. -/
  passed : Nat := 0

namespace Chronicle

/-- The frames pushed since the last flush, in order. -/
def pushed (c : Chronicle) : List Frame := (c.arrivals.map (·.frame)).reverse

/-- The frames pushed since the last flush, once an operation is done. -/
def arrivalsAfter (c : Chronicle) : Operation → List Arrival
  | .push frame => ⟨frame, !c.window.frames.isEmpty⟩ :: c.arrivals
  | .flush => []
  | _ => c.arrivals

/-- How often the window has moved on since the last flush, once an operation is done. -/
def passedAfter (c : Chronicle) : Operation → Nat
  | .flush => 0
  | op => if c.window.movesOn op then c.passed + 1 else c.passed

/-- Writes an operation down. -/
def next (c : Chronicle) (op : Operation) : Chronicle :=
  ⟨c.window.apply op, c.arrivalsAfter op, c.passedAfter op⟩

/-- The chronicle of the new window under a list of operations. -/
def of (ops : List Operation) : Chronicle := ops.foldl next {}

/-- What holds of the new window and is kept by every operation holds after all of them. -/
theorem of_induction {P : Chronicle → Prop} (hnew : P {})
    (hnext : ∀ c op, P c → P (c.next op)) (ops : List Operation) : P (of ops) := by
  suffices h : ∀ c, P c → P (ops.foldl next c) from h {} hnew
  intro c hc
  induction ops generalizing c with
  | nil => exact hc
  | cons op ops ih => exact ih (c.next op) (hnext c op hc)

theorem pushed_push (c : Chronicle) (frame : Frame) :
    (c.next (.push frame)).pushed = c.pushed ++ [frame] := by
  simp [next, pushed, arrivalsAfter]

theorem standsAt_next (c : Chronicle) (op : Operation)
    (h : c.window.StandsAt c.pushed c.passed) :
    (c.next op).window.StandsAt (c.next op).pushed (c.next op).passed := by
  cases op with
  | push frame =>
    rw [pushed_push]
    exact h.push frame
  | finish => exact h.finish
  | flush => exact .flush c.window
  | setDepths backward forward => exact h.setDepths backward forward
  | setMode mode => exact h.setMode mode
  | advanceFrame =>
    show c.window.advanceFrame.StandsAt c.pushed (c.passedAfter .advanceFrame)
    by_cases hlt : c.passed < c.pushed.length
    · have hcur := h.current?_isSome.2 hlt
      simpa [passedAfter, movesOn, hcur] using h.advanceFrame hlt
    · have hcur : c.window.current? = none := by simpa using mt h.current?_isSome.1 hlt
      simpa [passedAfter, movesOn, Window.advanceFrame, hcur] using h
  | advanceField =>
    show c.window.advanceField.StandsAt c.pushed (c.passedAfter .advanceField)
    by_cases hlt : c.passed < c.pushed.length
    · have hcur := h.current?_isSome.2 hlt
      have hmoved := h.advanceField hlt
      cases hs : c.window.hasSecondField with
      | true => simpa [passedAfter, movesOn, hcur, hs] using hmoved
      | false => simpa [passedAfter, movesOn, hcur, hs] using hmoved
    · have hcur : c.window.current? = none := by simpa using mt h.current?_isSome.1 hlt
      simpa [passedAfter, movesOn, Window.advanceField, hcur] using h

/-- **The window stands where its history has brought it.** -/
theorem standsAt (ops : List Operation) :
    (of ops).window.StandsAt (of ops).pushed (of ops).passed :=
  of_induction (.empty rfl rfl rfl) standsAt_next ops

end Chronicle

end Window

end Deinterlace
