import Deinterlace.Image

/-!
# Writing NV12

An NV12 buffer holds a plane of luma rows and a plane of rows of interleaved chroma, each with its
own offset and pitch. `Nv12.write` copies an image into such a buffer row by row, cropped to the
smaller of the two sizes. It stops at the first row that does not fit; the rows before it stay
written, so the buffer is part of the answer in either case.
-/
namespace Deinterlace.Nv12

/-- Where the two planes of a mapped image lie: luma first, interleaved chroma second. -/
structure Layout where
  width : Nat
  height : Nat
  lumaPitch : Nat
  chromaPitch : Nat
  lumaOffset : Nat
  chromaOffset : Nat
deriving DecidableEq, Repr

/-- Why an image cannot be written. -/
inductive Failure
  | missingPlane
  | sourceTooSmall
  | bufferTooSmall
  | hardwareFrame
deriving DecidableEq, Repr

def Failure.describe : Failure → String
  | .missingPlane => "missing source plane"
  | .sourceTooSmall => "source plane too small"
  | .bufferTooSmall => "image buffer too small"
  | .hardwareFrame => "hardware frames cannot be uploaded"

/-- The `width` bytes of `samples` from `start` on, if they are all there. -/
def rowAt (samples : Bytes) (start width : Nat) : Option Bytes :=
  if start + width ≤ samples.size then some (samples.extract start (start + width)) else none

theorem rowAt_eq_some_iff {samples row : Bytes} {start width : Nat} :
    rowAt samples start width = some row ↔
      start + width ≤ samples.size ∧ row = samples.extract start (start + width) := by
  unfold rowAt
  split
  · simp_all [eq_comm]
  · simp only [reduceCtorEq, false_iff]
    exact fun h => absurd h.1 ‹_›

def sourceRow (plane : Bytes × Nat) (row width : Nat) : Except Failure Bytes :=
  match rowAt plane.1 (row * plane.2) width with
  | some bytes => .ok bytes
  | none => .error .sourceTooSmall

/-- The buffer with the first `count` of some bytes in place of what it held from `start` on. The
last of them is written first. -/
def overwriteFirst (start : Nat) (bytes : Bytes) : (count : Nat) → Bytes → Bytes
  | 0, buffer => buffer
  | count + 1, buffer =>
    overwriteFirst start bytes count (buffer.setIfInBounds (start + count) (bytes.getD count 0))

/-- The buffer with `bytes` in place of what it held from `start` on. -/
def overwrite (buffer : Bytes) (start : Nat) (bytes : Bytes) : Bytes :=
  overwriteFirst start bytes bytes.size buffer

@[simp] theorem size_overwriteFirst (start : Nat) (bytes : Bytes) (count : Nat) (buffer : Bytes) :
    (overwriteFirst start bytes count buffer).size = buffer.size := by
  induction count generalizing buffer with
  | zero => rfl
  | succ count ih => rw [overwriteFirst, ih, Array.size_setIfInBounds]

@[simp] theorem size_overwrite (buffer bytes : Bytes) (start : Nat) :
    (overwrite buffer start bytes).size = buffer.size :=
  size_overwriteFirst ..

theorem getElem?_overwriteFirst {start count : Nat} {bytes buffer : Bytes}
    (h : start + count ≤ buffer.size) (hb : count ≤ bytes.size) (i : Nat) :
    (overwriteFirst start bytes count buffer)[i]? =
      if start ≤ i ∧ i < start + count then bytes[i - start]? else buffer[i]? := by
  induction count generalizing buffer with
  | zero => rw [if_neg (by omega), overwriteFirst]
  | succ count ih =>
    have hin : start + count < buffer.size := by omega
    rw [overwriteFirst, ih (by rw [Array.size_setIfInBounds]; omega) (by omega),
      Array.getElem?_setIfInBounds]
    by_cases hi : start + count = i
    · subst hi
      have hlt : count < bytes.size := by omega
      simp [hlt, hin]
    · have : (start ≤ i ∧ i < start + (count + 1)) ↔ (start ≤ i ∧ i < start + count) := by omega
      simp [hi, this]

/-- Bytes are replaced where the new ones lie and nowhere else. -/
theorem getElem?_overwrite {buffer bytes : Bytes} {start : Nat}
    (h : start + bytes.size ≤ buffer.size) (i : Nat) :
    (overwrite buffer start bytes)[i]? =
      if start ≤ i ∧ i < start + bytes.size then bytes[i - start]? else buffer[i]? :=
  getElem?_overwriteFirst h (Nat.le_refl _) i

/-- The bytes of two rows in turn, `width` of each. -/
def interleave (u v : Bytes) (width : Nat) : Bytes :=
  Array.ofFn (n := 2 * width) fun i =>
    if i.val % 2 = 0 then u.getD (i.val / 2) 0 else v.getD (i.val / 2) 0

@[simp] theorem size_interleave (u v : Bytes) (width : Nat) :
    (interleave u v width).size = 2 * width := by
  simp [interleave]

/-- Where the rows of one target plane start and how many bytes of each are written. -/
structure Target where
  offset : Nat
  pitch : Nat
  width : Nat
deriving DecidableEq, Repr

def Target.start (t : Target) (row : Nat) : Nat := t.offset + row * t.pitch

/-- Whether a row of a target plane lies inside a buffer of `size` bytes. -/
def Target.fits (t : Target) (row size : Nat) : Bool := t.start row + t.width ≤ size

/-- What came of writing to a buffer: why it was given up, if it was, and the buffer as far as it
was written. -/
abbrev Written : Type := Option Failure × Bytes

/-- Copies one row. The target is looked at before the source. -/
def copyRow (plane : Bytes × Nat) (t : Target) (row : Nat) (buffer : Bytes) : Written :=
  if t.fits row buffer.size then
    match sourceRow plane row t.width with
    | .ok bytes => (none, overwrite buffer (t.start row) bytes)
    | .error failure => (some failure, buffer)
  else (some .bufferTooSmall, buffer)

/-- Interleaves one row of two chroma planes into a target that is twice as wide. The sources are
looked at before the target. -/
def mergeRow (u v : Bytes × Nat) (width : Nat) (t : Target) (row : Nat) (buffer : Bytes) :
    Written :=
  match sourceRow u row width with
  | .error failure => (some failure, buffer)
  | .ok uBytes =>
    match sourceRow v row width with
    | .error failure => (some failure, buffer)
    | .ok vBytes =>
      if t.fits row buffer.size then
        (none, overwrite buffer (t.start row) (interleave uBytes vBytes width))
      else (some .bufferTooSmall, buffer)

/-- Writes the rows `row, row + 1, …`, `count` of them, and stops at the first that fails. -/
def writeRows (step : Nat → Bytes → Written) : (count row : Nat) → Bytes → Written
  | 0, _, buffer => (none, buffer)
  | count + 1, row, buffer =>
    match step row buffer with
    | (none, buffer) => writeRows step count (row + 1) buffer
    | (some failure, buffer) => (some failure, buffer)

def croppedSize (layout : Layout) (image : SoftwareImage) : Nat × Nat :=
  (min image.width layout.width, min image.height layout.height)

def writeLuma (layout : Layout) (image : SoftwareImage) (buffer : Bytes) : Written :=
  match image.plane? 0 with
  | none => (some .missingPlane, buffer)
  | some luma =>
    let (w, h) := croppedSize layout image
    writeRows (copyRow luma ⟨layout.lumaOffset, layout.lumaPitch, w⟩) h 0 buffer

/-- Writes the chroma rows. Interleaved chroma is cut to its stride, since a tightly packed image
of odd width has one byte less than the width of its rows rounded up. -/
def writeChroma (layout : Layout) (image : SoftwareImage) (buffer : Bytes) : Written :=
  let (w, h) := croppedSize layout image
  let half := chromaExtent w
  let rows := chromaExtent h
  match image.format with
  | .nv12 =>
    match image.plane? 1 with
    | none => (some .missingPlane, buffer)
    | some uv =>
      let target := ⟨layout.chromaOffset, layout.chromaPitch, min (half * 2) uv.2⟩
      writeRows (copyRow uv target) rows 0 buffer
  | .yuv420p =>
    match image.plane? 1, image.plane? 2 with
    | some u, some v =>
      let target := ⟨layout.chromaOffset, layout.chromaPitch, half * 2⟩
      writeRows (mergeRow u v half target) rows 0 buffer
    | _, _ => (some .missingPlane, buffer)
  | .vaapi => (some .hardwareFrame, buffer)

/-- Writes an image into a buffer of the given layout, up to the first row that fails. -/
def write (layout : Layout) (image : SoftwareImage) (buffer : Bytes) : Written :=
  match writeLuma layout image buffer with
  | (none, buffer) => writeChroma layout image buffer
  | (some failure, buffer) => (some failure, buffer)

end Deinterlace.Nv12
