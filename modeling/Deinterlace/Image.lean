import Deinterlace.Picture

/-!
# Images in memory

A `SoftwareImage` holds the samples of a frame that has not been uploaded to a device yet, plane by
plane. Planes and strides are given separately and need not fit each other.
-/
namespace Deinterlace

/-- Samples, one byte each. -/
abbrev Bytes := Array UInt8

/-- The four bytes of a word, lowest first. -/
def wordBytes (word : UInt32) : List UInt8 :=
  [word.toUInt8, (word >>> 8).toUInt8, (word >>> 16).toUInt8, (word >>> 24).toUInt8]

/-- Bytes with a word in place of four of them. -/
def writeWord (bytes : Bytes) (start : Nat) (word : UInt32) : Bytes :=
  (wordBytes word).zipIdx.foldl (fun bytes (b, i) => bytes.setIfInBounds (start + i) b) bytes

/-- Half of an extent, rounded up: the extent of the chroma planes of a 4:2:0 image. -/
def chromaExtent (n : Nat) : Nat := (n + 1) / 2

/-- An image in memory: one entry of `planes` and of `strides` for each plane, luma first. -/
structure SoftwareImage where
  format : ImageFormat
  width : Nat
  height : Nat
  planes : List Bytes
  strides : List Nat
deriving DecidableEq

namespace SoftwareImage

/-- A tightly packed image whose bytes all equal `fill`. -/
def filled (format : ImageFormat) (width height : Nat) (fill : UInt8) : SoftwareImage :=
  let plane (stride rows : Nat) : Bytes := Array.replicate (stride * rows) fill
  let half := chromaExtent width
  let rows := chromaExtent height
  match format with
  | .nv12 =>
      ⟨format, width, height, [plane width height, plane width rows], [width, width]⟩
  | .yuv420p | .vaapi =>
      ⟨format, width, height, [plane width height, plane half rows, plane half rows],
        [width, half, half]⟩

/-- A plane together with its stride, if both are there. -/
def plane? (image : SoftwareImage) (index : Nat) : Option (Bytes × Nat) :=
  match image.planes[index]?, image.strides[index]? with
  | some samples, some stride => some (samples, stride)
  | _, _ => none

end SoftwareImage

end Deinterlace
