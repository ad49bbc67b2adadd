import Deinterlace.Json.Record
import Deinterlace.Request

/-!
# Requests and capabilities in JSON

The JSON forms of formats, filters, capabilities, regions, streams and handles, for reading and for
writing.
-/
namespace Deinterlace

open Json (Value Reader)

/-! ## Names -/

namespace Algorithm

def json : Reader Algorithm := Reader.named all name

def toJson (a : Algorithm) : Value := .string a.name

end Algorithm

namespace ImageFormat

def json : Reader ImageFormat := Reader.named all name

def toJson (f : ImageFormat) : Value := .string f.name

end ImageFormat

namespace ColorSpace

def json : Reader ColorSpace := Reader.named all name

def toJson (c : ColorSpace) : Value := .string c.name

end ColorSpace

namespace ColorStandard

def json : Reader ColorStandard := Reader.named all name

def toJson (c : ColorStandard) : Value := .string c.name

end ColorStandard

namespace PictureField

def json : Reader PictureField := Reader.named all name

def toJson (f : PictureField) : Value := .string f.name

end PictureField

namespace FilterType

/-- Reads a filter: by its name, or by its code if it has none. -/
def json : Reader FilterType :=
  Reader.choice
    [ .unit ["NoiseReduction"] .noiseReduction,
      .unit ["Deinterlacing"] .deinterlacing,
      .unit ["Sharpening"] .sharpening,
      .unit ["ColorBalance"] .colorBalance,
      .unit ["SkinToneEnhancement"] .skinToneEnhancement,
      .unit ["TotalColorCorrection"] .totalColorCorrection,
      .carrying "Other" (do return .other (← Reader.int (-2147483648) 2147483647 "i32")) ]

def toJson : FilterType → Value
  | .noiseReduction => .string "NoiseReduction"
  | .deinterlacing => .string "Deinterlacing"
  | .sharpening => .string "Sharpening"
  | .colorBalance => .string "ColorBalance"
  | .skinToneEnhancement => .string "SkinToneEnhancement"
  | .totalColorCorrection => .string "TotalColorCorrection"
  | .other code => .object [("Other", .int code)]

end FilterType

/-! ## Numbers -/

def word32 : Reader Nat := do return (← Reader.int 0 4294967295 "u32").toNat

def word16 : Reader Nat := do return (← Reader.int 0 65535 "u16").toNat

def int16 : Reader Int := Reader.int (-32768) 32767 "i16"

namespace Handle

variable {k : Handle.Kind}

/-- Reads a handle: its bare number. -/
def json : Reader (Handle k) := do return ⟨← word32⟩

def toJson (h : Handle k) : Value := .nat h.value

end Handle

/-! ## Records -/

namespace Rect

/-- A region of which some fields have been read. -/
structure Draft where
  x : Option Int := none
  y : Option Int := none
  width : Option Nat := none
  height : Option Nat := none

/-- The fields of a region, in order. -/
def fields : List (Reader.Field Draft) :=
  [ { name := "x"
      isSet := (·.x.isSome)
      read := fun d => do return { d with x := some (← int16) } },
    { name := "y"
      isSet := (·.y.isSome)
      read := fun d => do return { d with y := some (← int16) } },
    { name := "width"
      isSet := (·.width.isSome)
      read := fun d => do return { d with width := some (← word16) } },
    { name := "height"
      isSet := (·.height.isSome)
      read := fun d => do return { d with height := some (← word16) } } ]

def json : Reader Rect :=
  Reader.record "Rect" fields {} (Reader.needsAll "Rect" 4) fun d => do
    return ⟨← Reader.required "x" d.x, ← Reader.required "y" d.y,
      ← Reader.required "width" d.width, ← Reader.required "height" d.height⟩

def toJson (r : Rect) : Value :=
  .object [("x", .int r.x), ("y", .int r.y), ("width", .nat r.width), ("height", .nat r.height)]

end Rect

namespace PipelineCaps

/-- Capabilities of which some fields have been read. -/
structure Draft where
  input : Option (List ColorStandard) := none
  output : Option (List ColorStandard) := none
  forward : Option Nat := none
  backward : Option Nat := none

/-- The fields of capabilities, in order. -/
def fields : List (Reader.Field Draft) :=
  [ { name := "input_color_standards"
      isSet := (·.input.isSome)
      read := fun d => do return { d with input := some (← Reader.list ColorStandard.json) } },
    { name := "output_color_standards"
      isSet := (·.output.isSome)
      read := fun d => do return { d with output := some (← Reader.list ColorStandard.json) } },
    { name := "num_forward_references"
      isSet := (·.forward.isSome)
      read := fun d => do return { d with forward := some (← word32) } },
    { name := "num_backward_references"
      isSet := (·.backward.isSome)
      read := fun d => do return { d with backward := some (← word32) } } ]

def json : Reader PipelineCaps :=
  Reader.record "PipelineCaps" fields {} (Reader.needsAll "PipelineCaps" 4) fun d => do
    return ⟨← Reader.required "input_color_standards" d.input,
      ← Reader.required "output_color_standards" d.output,
      ← Reader.required "num_forward_references" d.forward,
      ← Reader.required "num_backward_references" d.backward⟩

def toJson (c : PipelineCaps) : Value :=
  .object
    [("input_color_standards", .list ColorStandard.toJson c.inputColorStandards),
      ("output_color_standards", .list ColorStandard.toJson c.outputColorStandards),
      ("num_forward_references", .nat c.forwardReferences),
      ("num_backward_references", .nat c.backwardReferences)]

end PipelineCaps

namespace StreamParams

/-- A stream of which some fields have been read. -/
structure Draft where
  format : Option ImageFormat := none
  hwSubformat : Option (Option ImageFormat) := none
  width : Option Nat := none
  height : Option Nat := none
  colorspace : Option ColorSpace := none
  hwSurfaceSize : Option (Option (Nat × Nat)) := none

/-- The fields of a stream, in order. -/
def fields : List (Reader.Field Draft) :=
  [ { name := "format"
      isSet := (·.format.isSome)
      read := fun d => do return { d with format := some (← ImageFormat.json) } },
    { name := "hw_subformat"
      isSet := (·.hwSubformat.isSome)
      read := fun d => do
        return { d with hwSubformat := some (← Reader.option ImageFormat.json) } },
    { name := "width"
      isSet := (·.width.isSome)
      read := fun d => do return { d with width := some (← word32) } },
    { name := "height"
      isSet := (·.height.isSome)
      read := fun d => do return { d with height := some (← word32) } },
    { name := "colorspace"
      isSet := (·.colorspace.isSome)
      read := fun d => do return { d with colorspace := some (← ColorSpace.json) } },
    { name := "hw_surface_size"
      isSet := (·.hwSurfaceSize.isSome)
      read := fun d => do
        return { d with hwSurfaceSize := some (← Reader.option (Reader.pair word32 word32)) } } ]

/-- Reads a stream. The layout and the size of its surfaces may be left out of an object. -/
def json : Reader StreamParams :=
  Reader.record "StreamParams" fields {} (Reader.needsAll "StreamParams" 6) fun d => do
    return ⟨← Reader.required "format" d.format, d.hwSubformat.getD none,
      ← Reader.required "width" d.width, ← Reader.required "height" d.height,
      ← Reader.required "colorspace" d.colorspace, d.hwSurfaceSize.getD none⟩

def toJson (p : StreamParams) : Value :=
  .object
    [("format", p.format.toJson),
      ("hw_subformat", .optional ImageFormat.toJson p.hwSubformat),
      ("width", .nat p.width), ("height", .nat p.height),
      ("colorspace", p.colorspace.toJson),
      ("hw_surface_size",
        .optional (fun (w, h) => .array [.nat w, .nat h]) p.hwSurfaceSize)]

end StreamParams

def RenderRequest.toJson (r : RenderRequest) : Value :=
  .object
    [("source", r.source.toJson), ("destination", r.destination.toJson),
      ("source_region", r.sourceRegion.toJson), ("output_region", r.outputRegion.toJson),
      ("field", r.field.toJson), ("colorspace", r.colorspace.toJson),
      ("filters", .list Handle.toJson r.filters),
      ("forward_references", .list Handle.toJson r.forwardReferences),
      ("backward_references", .list Handle.toJson r.backwardReferences)]

end Deinterlace
