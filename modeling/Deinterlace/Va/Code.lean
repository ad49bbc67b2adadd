import Deinterlace.Request

/-!
# Codes of the driver interface

The numbers by which a VA driver knows filters, algorithms, colour standards and picture structures,
and the limits of its tables.
-/
namespace Deinterlace.Va

def noProfile : Int := -1

/-- The entry point of a video-processing configuration. -/
def videoProcessing : Nat := 10

/-- The layout of the surfaces of a pool: 4:2:0. -/
def surfaceLayout : Nat := 1

def requestBufferType : Nat := 41

def filterBufferType : Nat := 42

/-- The image format of NV12: its name in the bytes of a word. -/
def nv12Code : Nat := 0x3231564E

/-- How many filters a query has room for. -/
def maxFilters : Nat := 16

def maxAlgorithms : Nat := 8

def maxStandards : Nat := 16

def maxPoolSurfaces : Nat := 32

def success : Int := 0

/-- The status for an operation that failed for no stated reason. -/
def operationFailed : Int := 0x01

def invalidBuffer : Int := 0x07

/-- The status for a table that is full. -/
def maxNumberExceeded : Int := 0x0b

def invalidParameter : Int := 0x12

def invalidImageFormat : Int := 0x16

def deinterlacingCode : Int := 2

def filterOfCode (code : Int) : FilterType :=
  match code with
  | 1 => .noiseReduction
  | 2 => .deinterlacing
  | 3 => .sharpening
  | 4 => .colorBalance
  | 5 => .skinToneEnhancement
  | 6 => .totalColorCorrection
  | code => .other code

def algorithmCode : Algorithm → Int
  | .none => 0
  | .bob => 1
  | .weave => 2
  | .motionAdaptive => 3
  | .motionCompensated => 4

/-- The algorithm of a code; codes that mean none are left out. -/
def algorithmOfCode? (code : Int) : Option Algorithm :=
  match code with
  | 1 => some .bob
  | 2 => some .weave
  | 3 => some .motionAdaptive
  | 4 => some .motionCompensated
  | _ => none

def standardOfCode (code : Int) : ColorStandard :=
  match code with
  | 1 => .bt601
  | 2 => .bt709
  | 3 => .bt470m
  | 4 => .bt470bg
  | 5 => .smpte170m
  | 6 => .smpte240m
  | 7 => .genericFilm
  | 8 => .srgb
  | 9 => .stryrgb
  | 10 => .xvycc601
  | 11 => .xvycc709
  | 12 => .bt2020
  | 13 => .explicit
  | _ => .none

/-- The colour standard of a colour space, and the older flag that says the same where there is
one. -/
def colorCodes : ColorSpace → Int × Nat
  | .auto => (0, 0)
  | .bt601 => (1, 0x10)
  | .bt709 => (2, 0x20)
  | .smpte240m => (6, 0x40)
  | .bt2020 => (12, 0)

/-- The code of the part of a picture that is processed. -/
def fieldCode : PictureField → Nat
  | .frame => 0
  | .top => 1
  | .bottom => 2

end Deinterlace.Va
