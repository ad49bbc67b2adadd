import Deinterlace.Handle
import Deinterlace.Mode
import Deinterlace.Picture

/-!
# What a device offers and what it is asked for

`FilterType` and `PipelineCaps` are what a device reports about itself, `RenderRequest` is one
picture to be rendered, and `PoolDesc` a pool of surfaces to be set up.
-/
namespace Deinterlace

/-- Filters a device may advertise. Only deinterlacing is used, the others are reported. -/
inductive FilterType
  | noiseReduction
  | deinterlacing
  | sharpening
  | colorBalance
  | skinToneEnhancement
  | totalColorCorrection
  | other (code : Int)
deriving DecidableEq, Repr

/-- What a chain of filters needs and produces. -/
structure PipelineCaps where
  inputColorStandards : List ColorStandard
  outputColorStandards : List ColorStandard
  /-- How many frames after the current one are looked at. -/
  forwardReferences : Nat
  /-- How many frames before the current one are looked at. -/
  backwardReferences : Nat
deriving DecidableEq, Repr

/-- Per-picture flags of a deinterlacing filter. Bits without a meaning are kept. -/
structure DeintFlags where
  bits : UInt32 := 0
deriving DecidableEq, Repr

namespace DeintFlags

/-- The lower field of the frames was taken first. -/
def bottomFieldFirstBit : UInt32 := 0x0001

/-- The lower field is the one to be output. -/
def bottomFieldBit : UInt32 := 0x0002

/-- The flags for one field of a frame. Only the upper field goes without the mark for the
lower one. -/
def ofField (field : PictureField) (topFieldFirst : Bool) : DeintFlags :=
  ⟨(if field = .top then 0 else bottomFieldBit) |||
    (if topFieldFirst then 0 else bottomFieldFirstBit)⟩

end DeintFlags

/-- Everything a device needs to render one picture. -/
structure RenderRequest where
  source : SurfaceId
  destination : SurfaceId
  sourceRegion : Rect
  outputRegion : Rect
  field : PictureField
  colorspace : ColorSpace
  filters : List BufferId
  forwardReferences : List SurfaceId
  backwardReferences : List SurfaceId
deriving DecidableEq, Repr

/-- The surfaces of a pool: the layout of their contents and their size. -/
structure PoolDesc where
  swFormat : ImageFormat
  width : Nat
  height : Nat
deriving DecidableEq, Repr

end Deinterlace
