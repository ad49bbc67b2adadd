/-!
# Pictures

How the contents of a frame are laid out, which colours its samples mean, and which part of a frame
a render request processes.
-/
namespace Deinterlace

/-- Where the samples of a frame are and how they are laid out. -/
inductive ImageFormat
  | vaapi
  /-- 4:2:0 with a luma plane and one plane of interleaved chroma. -/
  | nv12
  /-- 4:2:0 with three planes. -/
  | yuv420p
deriving DecidableEq, Repr

def ImageFormat.isHardware (f : ImageFormat) : Bool := f == .vaapi

def ImageFormat.name : ImageFormat → String
  | .vaapi => "Vaapi"
  | .nv12 => "Nv12"
  | .yuv420p => "Yuv420p"

def ImageFormat.all : List ImageFormat := [.vaapi, .nv12, .yuv420p]

/-- Colour spaces of a stream. -/
inductive ColorSpace
  | auto
  | bt601
  | bt709
  | smpte240m
  | bt2020
deriving DecidableEq, Repr

def ColorSpace.name : ColorSpace → String
  | .auto => "Auto"
  | .bt601 => "Bt601"
  | .bt709 => "Bt709"
  | .smpte240m => "Smpte240m"
  | .bt2020 => "Bt2020"

def ColorSpace.all : List ColorSpace := [.auto, .bt601, .bt709, .smpte240m, .bt2020]

/-- Colour standards a device can report for its input and output. -/
inductive ColorStandard
  | none
  | bt601
  | bt709
  | bt470m
  | bt470bg
  | smpte170m
  | smpte240m
  | genericFilm
  | srgb
  | stryrgb
  | xvycc601
  | xvycc709
  | bt2020
  | explicit
deriving DecidableEq, Repr

def ColorStandard.name : ColorStandard → String
  | .none => "None"
  | .bt601 => "Bt601"
  | .bt709 => "Bt709"
  | .bt470m => "Bt470m"
  | .bt470bg => "Bt470bg"
  | .smpte170m => "Smpte170m"
  | .smpte240m => "Smpte240m"
  | .genericFilm => "GenericFilm"
  | .srgb => "Srgb"
  | .stryrgb => "Stryrgb"
  | .xvycc601 => "Xvycc601"
  | .xvycc709 => "Xvycc709"
  | .bt2020 => "Bt2020"
  | .explicit => "Explicit"

def ColorStandard.all : List ColorStandard :=
  [.none, .bt601, .bt709, .bt470m, .bt470bg, .smpte170m, .smpte240m, .genericFilm, .srgb,
    .stryrgb, .xvycc601, .xvycc709, .bt2020, .explicit]

/-- The part of a source frame that is processed. -/
inductive PictureField
  | frame
  | top
  | bottom
deriving DecidableEq, Repr

def PictureField.name : PictureField → String
  | .frame => "Frame"
  | .top => "Top"
  | .bottom => "Bottom"

def PictureField.all : List PictureField := [.frame, .top, .bottom]

/-- A region of a surface; its corner may lie outside, its size may not be negative. -/
structure Rect where
  x : Int
  y : Int
  width : Nat
  height : Nat
deriving DecidableEq, Repr

/-- The largest extent a region can have in either direction. -/
def Rect.maxExtent : Nat := 65535

/-- The region that covers a frame, cut to the largest extent. -/
def Rect.ofSize (width height : Nat) : Rect :=
  ⟨0, 0, min width maxExtent, min height maxExtent⟩

/-- The format, size and colours of a stream. -/
structure StreamParams where
  format : ImageFormat
  /-- Layout of the surface contents of a hardware stream. -/
  hwSubformat : Option ImageFormat
  width : Nat
  height : Nat
  colorspace : ColorSpace
  /-- Allocated size of the surfaces of a hardware stream. -/
  hwSurfaceSize : Option (Nat × Nat)
deriving DecidableEq, Repr

namespace StreamParams

def software (format : ImageFormat) (width height : Nat) : StreamParams :=
  ⟨format, none, width, height, .auto, none⟩

/-- A stream of frames on surfaces that may be larger than the visible picture. -/
def hardware (width height surfaceWidth surfaceHeight : Nat) : StreamParams :=
  ⟨.vaapi, some .nv12, width, height, .auto, some (surfaceWidth, surfaceHeight)⟩

end StreamParams

end Deinterlace
