import Deinterlace.Mode

/-!
# Options of the pipeline

What a user can choose, with the defaults that hold for everything left unsaid.
-/
namespace Deinterlace

/-- The options of the pipeline. -/
structure Options where
  mode : Mode := .bob
  /-- Only frames flagged interlaced are deinterlaced. -/
  interlacedOnly : Bool := true
  /-- The device fills its two reference lists in the opposite order: they are swapped, and as
  many frames are kept on one side as on the other. -/
  swapReferences : Bool := true
deriving DecidableEq, Repr

end Deinterlace
