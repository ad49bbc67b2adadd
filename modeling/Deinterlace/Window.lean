import Deinterlace.Frame

/-!
# The window of frames around the current one

Deinterlacing looks at frames before and after the one being processed. `Window` holds the frames
that are still needed, oldest first, and a cursor on the current one:

```
  oldest                              newest
  x₋₂   x₋₁   current   x₁   x₂   x₃
  |- backwardDepth -|   |- waiting -|
```

Frames left of the cursor are kept as long as `backwardDepth` asks for them. The current frame can
be processed when `forwardDepth` frames follow it, or when the stream has ended. In a cadence with
one picture per field the cursor stays on a frame for both of its fields.
-/
namespace Deinterlace

/-- What the window does with frames. Bits without a meaning are kept. -/
structure WindowMode where
  bits : UInt8 := 0
deriving DecidableEq, Repr

namespace WindowMode

/-- Frames are deinterlaced at all. -/
def deinterlaceBit : UInt8 := 0x01

/-- Every field is output as a picture of its own. -/
def outputFieldsBit : UInt8 := 0x02

/-- Only frames flagged interlaced are deinterlaced. -/
def interlacedOnlyBit : UInt8 := 0x04

/-- Whether frames are deinterlaced at all. -/
def deinterlace (m : WindowMode) : Bool := m.bits &&& deinterlaceBit == deinterlaceBit

/-- Whether every field is output as a picture of its own. -/
def outputFields (m : WindowMode) : Bool := m.bits &&& outputFieldsBit == outputFieldsBit

/-- Whether only frames flagged interlaced are deinterlaced. -/
def interlacedOnly (m : WindowMode) : Bool := m.bits &&& interlacedOnlyBit == interlacedOnlyBit

/-- The mode with the given switches. -/
def ofSwitches (deinterlace outputFields interlacedOnly : Bool) : WindowMode :=
  ⟨(if deinterlace then deinterlaceBit else 0) |||
    ((if outputFields then outputFieldsBit else 0) |||
      (if interlacedOnly then interlacedOnlyBit else 0))⟩

/-- Nothing is deinterlaced. -/
def passThrough : WindowMode := {}

@[simp] theorem deinterlace_ofSwitches (d f i : Bool) : (ofSwitches d f i).deinterlace = d := by
  cases d <;> cases f <;> cases i <;> rfl

@[simp] theorem outputFields_ofSwitches (d f i : Bool) : (ofSwitches d f i).outputFields = f := by
  cases d <;> cases f <;> cases i <;> rfl

@[simp] theorem interlacedOnly_ofSwitches (d f i : Bool) :
    (ofSwitches d f i).interlacedOnly = i := by
  cases d <;> cases f <;> cases i <;> rfl

@[simp] theorem deinterlace_passThrough : passThrough.deinterlace = false := rfl

end WindowMode

/-- The step from one frame's time to the next, if they are in order and less than a second
apart. -/
def frameStep? (time next : Seconds) : Option Seconds :=
  let step := next - time
  if 0 < step ∧ step < 1 then some step else none

/-- The frames around the current one. -/
structure Window where
  /-- Oldest first. -/
  frames : List Frame := []
  /-- The place of the current frame, or the number of frames if there is none. -/
  cursor : Nat := 0
  /-- Whether the second field of the current frame is next. -/
  secondField : Bool := false
  /-- Whether the end of the stream has been announced. -/
  ended : Bool := false
  /-- How many frames have to follow the current one. -/
  forwardDepth : Nat := 0
  /-- How many frames before the current one are kept. -/
  backwardDepth : Nat := 0
  mode : WindowMode := {}
  /-- The last plausible step between the times of two frames. -/
  lastStep : Option Seconds := none

namespace Window

/-- The frame being processed. -/
def current? (w : Window) : Option Frame := w.frames[w.cursor]?

/-- The number of frames after the current one. -/
def waiting (w : Window) : Nat := w.frames.length - (w.cursor + 1)

/-- The number of frames that have not been processed to their end: the current one and those
after it. -/
def pending (w : Window) : Nat := w.frames.length - w.cursor

/-- How many frames have to follow before anything can be output. A second field also waits for
the next frame, since its time lies half-way to that frame's. -/
def lookahead (w : Window) : Nat :=
  if w.secondField then max w.forwardDepth 1 else w.forwardDepth

/-- Whether frames have to arrive before anything can be output. -/
def needsInput (w : Window) : Bool := w.waiting < w.lookahead && !w.ended

/-- Whether the current frame can be processed now. -/
def hasOutput (w : Window) : Bool := w.current?.isSome && !w.needsInput

/-- The frame at a distance from the current one, negative for earlier frames. -/
def frameAt? (w : Window) (offset : Int) : Option Frame :=
  let place := (w.cursor : Int) + offset
  if place < 0 then none else w.frames[place.toNat]?

/-- Whether the frame that can be processed now is to be deinterlaced. -/
def shouldDeinterlace (w : Window) : Bool :=
  w.hasOutput && w.mode.deinterlace &&
    (w.current?.any (·.isInterlaced) || !w.mode.interlacedOnly)

/-- Whether the upper field of the frame that can be processed now was taken first. -/
def topFieldFirst (w : Window) : Bool := w.hasOutput && w.current?.any (·.topFieldFirst)

/-- Whether the field that is output next is the upper one. -/
def isTopField (w : Window) : Bool := w.hasOutput && (w.topFieldFirst != w.secondField)

/-- The time of the field that is output next. A second field lies half-way to the next frame;
at the end of the stream the last step seen stands in for the missing frame's. -/
def currentPts (w : Window) : Option Seconds :=
  match w.current?.bind (·.pts) with
  | none => none
  | some time =>
    if w.secondField then
      let step :=
        match w.frames[w.cursor + 1]? with
        | some next => next.pts.bind (frameStep? time)
        | none => w.lastStep
      match step with
      | some step => some (time + step / 2)
      | none => some time
    else some time

/-- Lets go of earlier frames beyond the backward depth. -/
def trim (w : Window) : Window :=
  { w with
    frames := w.frames.drop (w.cursor - w.backwardDepth)
    cursor := min w.cursor w.backwardDepth }

/-- Sets how many frames are looked at before and after the current one. -/
def setDepths (w : Window) (backward forward : Nat) : Window :=
  { w with backwardDepth := backward, forwardDepth := forward }.trim

/-- Sets what is done with frames. -/
def setMode (w : Window) (mode : WindowMode) : Window := { w with mode }

/-- The step from the newest frame held to a frame that follows it. -/
def stepTo? (w : Window) (frame : Frame) : Option Seconds :=
  match w.frames.getLast?.bind (·.pts), frame.pts with
  | some last, some time => frameStep? last time
  | _, _ => none

/-- Appends a frame. A stream that had ended goes on. -/
def push (w : Window) (frame : Frame) : Window :=
  { w with
    frames := w.frames ++ [frame]
    ended := false
    lastStep := (w.stepTo? frame).or w.lastStep }

/-- Announces the end of the stream, so that the frames held can be output without lookahead. -/
def finish (w : Window) : Window := { w with ended := true }

/-- Forgets all frames and what was learnt from them; depths and mode stay. -/
def flush (w : Window) : Window :=
  { w with frames := [], cursor := 0, secondField := false, ended := false, lastStep := none }

/-- Moves on to the next frame, if there is a current one. -/
def advanceFrame (w : Window) : Window :=
  if w.current?.isNone then w
  else { w with cursor := w.cursor + 1, secondField := false }.trim

/-- Whether the second field of the current frame is output after its first one. -/
def hasSecondField (w : Window) : Bool :=
  !w.secondField && w.mode.outputFields && w.shouldDeinterlace

/-- Moves on to the second field of the current frame, or to the next frame if no second field is
output. -/
def advanceField (w : Window) : Window :=
  if w.current?.isNone then w
  else if w.hasSecondField then { w with secondField := true }
  else w.advanceFrame

/-- The frames that `w` held and `later`, which came from it by letting go of its oldest frames,
no longer holds; oldest first. -/
def retired (w later : Window) : List Frame :=
  w.frames.take (w.frames.length - later.frames.length)

/-- An upper bound on the outputs that the frames held can still yield: two for each frame that
is pending, less one if the current frame's first field is done. -/
def ticksLeft (w : Window) : Nat := 2 * w.pending - w.secondField.toNat

end Window

end Deinterlace
