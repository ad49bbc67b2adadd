import Deinterlace.Handle
import Deinterlace.Image

/-!
# Frames

A `Frame` is what flows through the pipeline: a surface on the device or an image in memory, with
its size, colours, time and field flags. Copies of a frame share the surface. A surface that comes
from a pool carries the lease under which it was taken; the device counts the copies of a lease and
takes the surface back with the last of them.
-/
namespace Deinterlace

/-- Names one taking of a surface from a pool. Two leases may be on surfaces of the same handle. -/
abbrev LeaseId := Nat

/-- A surface with its allocated size, which may exceed the visible frame. -/
structure Surface where
  id : SurfaceId
  width : Nat
  height : Nat
  /-- The lease from a pool; `none` for a surface that no pool owns. -/
  lease : Option LeaseId := none
deriving DecidableEq, Repr

/-- A surface as it appears in diagnostics. -/
def Surface.describe (s : Surface) : String :=
  "Surface \x7b id: " ++ s.id.describe ++ ", width: " ++ toString s.width ++
    ", height: " ++ toString s.height ++ " \x7d"

/-- Interlacing flags of a frame. Bits without a meaning are kept. -/
structure FieldFlags where
  bits : UInt8 := 0
deriving DecidableEq, Repr

namespace FieldFlags

/-- The frame holds two fields taken at different times. -/
def interlacedBit : UInt8 := 0x01

/-- The upper field was taken first. -/
def topFirstBit : UInt8 := 0x02

/-- Whether the two fields of the frame were taken at different times. -/
def interlaced (f : FieldFlags) : Bool := f.bits &&& interlacedBit == interlacedBit

/-- Whether the upper field comes first. -/
def topFirst (f : FieldFlags) : Bool := f.bits &&& topFirstBit == topFirstBit

/-- Flags of a frame with the given field order. -/
def ofCadence (interlaced topFirst : Bool) : FieldFlags :=
  ⟨(if interlaced then interlacedBit else 0) ||| (if topFirst then topFirstBit else 0)⟩

/-- The flags with the interlacing mark taken away. -/
def progressive (f : FieldFlags) : FieldFlags := ⟨f.bits &&& ~~~ interlacedBit⟩

@[simp] theorem interlaced_ofCadence (i t : Bool) : (ofCadence i t).interlaced = i := by
  cases i <;> cases t <;> rfl

@[simp] theorem topFirst_ofCadence (i t : Bool) : (ofCadence i t).topFirst = t := by
  cases i <;> cases t <;> rfl

@[simp] theorem interlaced_progressive (f : FieldFlags) : f.progressive.interlaced = false := by
  have h : (~~~ interlacedBit) &&& interlacedBit = 0 := by decide
  simp [progressive, interlaced, UInt8.and_assoc, h]
  decide

@[simp] theorem topFirst_progressive (f : FieldFlags) : f.progressive.topFirst = f.topFirst := by
  have h : (~~~ interlacedBit) &&& topFirstBit = topFirstBit := by decide
  simp [progressive, topFirst, UInt8.and_assoc, h]

end FieldFlags

/-- A time or a span of time, in seconds. -/
abbrev Seconds := Float

/-- What a frame shows: a surface or an image. -/
inductive FrameContent
  | surface (surface : Surface)
  | image (image : SoftwareImage)

/-- A video frame. -/
structure Frame where
  format : ImageFormat
  width : Nat
  height : Nat
  colorspace : ColorSpace
  /-- Presentation time. -/
  pts : Option Seconds
  fields : FieldFlags
  content : FrameContent

namespace Frame

/-- A frame that shows a surface. -/
def ofSurface (surface : Surface) (width height : Nat) : Frame :=
  ⟨.vaapi, width, height, .auto, none, {}, .surface surface⟩

/-- A frame that shows an image in memory. -/
def ofImage (image : SoftwareImage) : Frame :=
  ⟨image.format, image.width, image.height, .auto, none, {}, .image image⟩

/-- A frame on a surface of its own size that no pool owns, as a decoder would hand it over. -/
def decoded (id : SurfaceId) (width height : Nat) : Frame :=
  { ofSurface ⟨id, width, height, none⟩ width height with colorspace := .bt601 }

/-- The surface of a frame on the device. -/
def surface? (f : Frame) : Option Surface :=
  match f.content with
  | .surface s => some s
  | .image _ => none

/-- The image of a frame in memory. -/
def image? (f : Frame) : Option SoftwareImage :=
  match f.content with
  | .surface _ => none
  | .image i => some i

/-- The handle of the frame's surface, invalid for a frame in memory. -/
def surfaceId (f : Frame) : SurfaceId :=
  match f.content with
  | .surface s => s.id
  | .image _ => .invalid

/-- The lease of the frame's surface, if it came from a pool. -/
def lease? (f : Frame) : Option LeaseId := f.surface?.bind (·.lease)

/-- Whether the frame is flagged interlaced. -/
def isInterlaced (f : Frame) : Bool := f.fields.interlaced

/-- Whether the frame's upper field comes first. -/
def topFieldFirst (f : Frame) : Bool := f.fields.topFirst

/-- The frame with the time, flags and colours of another one. -/
def withAttributesOf (f other : Frame) : Frame :=
  { f with pts := other.pts, fields := other.fields, colorspace := other.colorspace }

end Frame

end Deinterlace
