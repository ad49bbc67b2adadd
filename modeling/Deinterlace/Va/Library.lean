import Deinterlace.Device.EntryPoint
import Deinterlace.Image
import Deinterlace.Picture
import Deinterlace.Va.Code

/-!
# The driver interface

A VA device knows its driver only through the entry points of the interface. `Call` lists them with
their arguments, and `Library δ` says that a driver with states `δ` can be called: each call gives a
status, what has been written to the caller's outputs, and the driver afterwards, and what a mapping
leads to can be read and written. Nothing is said about the answers; what a driver must do for a
property to hold is a hypothesis of that property.

`Logged δ` is a driver of which everything is written down that passes through the interface.
-/
namespace Deinterlace.Va

/-- The parameters of a deinterlacing filter. -/
structure FilterParams where
  filter : Int
  algorithm : Int
  flags : UInt32
deriving DecidableEq, Repr

/-- The parameters of one rendered picture. An empty list is handed over as a null pointer. -/
structure PictureParams where
  surface : Nat
  surfaceRegion : Rect
  outputRegion : Rect
  surfaceStandard : Int
  outputStandard : Int
  backgroundColor : Nat := 0
  pipelineFlags : Nat := 0
  filterFlags : Nat
  filters : List Nat
  forward : List Nat
  backward : List Nat
deriving DecidableEq, Repr

/-- What a buffer is made from. -/
inductive Params
  | filter (params : FilterParams)
  | picture (params : PictureParams)
deriving DecidableEq

def Params.typeCode : Params → Nat
  | .filter _ => filterBufferType
  | .picture _ => requestBufferType

/-- The description of an image of a surface. -/
structure Image where
  id : Nat := 0
  buffer : Nat := 0
  format : Nat := 0
  planes : Nat := 0
  width : Nat := 0
  height : Nat := 0
  lumaPitch : Nat := 0
  chromaPitch : Nat := 0
  lumaOffset : Nat := 0
  chromaOffset : Nat := 0
  dataSize : Nat := 0
deriving DecidableEq, Repr

/-- A table of the caller's with room for `room` entries, and the count that was reported for it,
which need not be what there is room for. -/
structure Table (room : Nat) where
  entries : Vector Int room
  count : Nat
deriving DecidableEq, Repr

namespace Table

/-- A table that has not been filled in: its entries are zero and its count is its size. -/
def blank (room : Nat) : Table room := ⟨Vector.replicate room 0, room⟩

/-- The entries that are counted. -/
def counted {room : Nat} (t : Table room) : List Int := t.entries.toList.take t.count

end Table

/-- What is reported about a chain of filters. -/
structure PipelineTables (inputRoom outputRoom : Nat) where
  input : Table inputRoom := .blank inputRoom
  output : Table outputRoom := .blank outputRoom
  forward : Nat := 0
  backward : Nat := 0
deriving DecidableEq, Repr

/-- Where a mapping leads to. -/
abbrev Address := Nat

/-- What is written through a mapping: the flags of a filter, or the bytes of an image. -/
inductive Patch
  | flags (bits : UInt32)
  | bytes (bytes : Bytes)
deriving DecidableEq

/-- The number that stands for no object. -/
def noObject : Nat := 0xffffffff

/-- A call of the interface, with its arguments. -/
inductive Call
  | getDisplay
  | startDisplay
  | terminate
  | vendorString
  | errorString (status : Int)
  | createConfig (profile : Int) (entrypoint attributes : Nat)
  | destroyConfig (id : Nat)
  | createContext (config width height flag : Nat) (targets : List Nat)
  | destroyContext (id : Nat)
  | createSurfaces (layout width height count attributes : Nat)
  | destroySurfaces (ids : List Nat)
  | createBuffer (context count : Nat) (contents : Params)
  | destroyBuffer (id : Nat)
  | mapBuffer (id : Nat)
  | unmapBuffer (id : Nat)
  | beginPicture (context surface : Nat)
  | renderPicture (context : Nat) (buffers : List Nat)
  | endPicture (context : Nat)
  | deriveImage (surface : Nat)
  | destroyImage (id : Nat)
  | queryFilters (context room : Nat)
  | queryFilterCaps (context : Nat) (filter : Int) (room : Nat)
  | queryPipelineCaps (context : Nat) (filters : List Nat) (inputRoom outputRoom : Nat)
deriving DecidableEq

namespace Call

def entry : Call → EntryPoint
  | .getDisplay => .getDisplay
  | .startDisplay => .startDisplay
  | .terminate => .terminate
  | .vendorString => .vendorString
  | .errorString _ => .errorString
  | .createConfig .. => .createConfig
  | .destroyConfig _ => .destroyConfig
  | .createContext .. => .createContext
  | .destroyContext _ => .destroyContext
  | .createSurfaces .. => .createSurfaces
  | .destroySurfaces _ => .destroySurfaces
  | .createBuffer .. => .createBuffer
  | .destroyBuffer _ => .destroyBuffer
  | .mapBuffer _ => .mapBuffer
  | .unmapBuffer _ => .unmapBuffer
  | .beginPicture .. => .beginPicture
  | .renderPicture .. => .renderPicture
  | .endPicture _ => .endPicture
  | .deriveImage _ => .deriveImage
  | .destroyImage _ => .destroyImage
  | .queryFilters .. => .queryFilters
  | .queryFilterCaps .. => .queryFilterCaps
  | .queryPipelineCaps .. => .queryPipelineCaps

/-- What a call writes to the caller's outputs: whether there is a display, the version of the
interface, a text unless there is none, the number of an object, an address unless there is none, a
description, or a table. -/
@[reducible] def Output : Call → Type
  | .getDisplay => Bool
  | .startDisplay => Int × Int
  | .vendorString => Option (List UInt8)
  | .errorString _ => Option String
  | .createConfig .. | .createContext .. | .createSurfaces .. | .createBuffer .. => Nat
  | .mapBuffer _ => Option Address
  | .deriveImage _ => Image
  | .queryFilters _ room | .queryFilterCaps _ _ room => Table room
  | .queryPipelineCaps _ _ inputRoom outputRoom => PipelineTables inputRoom outputRoom
  | _ => Unit

end Call

/-- The answer of a driver in a state of `δ`: a status, the caller's outputs, and the driver
afterwards. Calls for a display or a text report no status, and nobody looks at theirs. -/
abbrev Reply (δ α : Type) : Type := Int × α × δ

/-- A driver with states `δ`. -/
class Library (δ : Type) where
  /-- Whether the file at a path can be opened as the driver's device. -/
  hasNode : String → δ → Bool
  call (c : Call) : δ → Reply δ c.Output
  /-- The bytes from an address on. -/
  read (address : Address) (size : Nat) : δ → Vector UInt8 size
  write (address : Address) (patch : Patch) : δ → δ

/-! ## What passes through the interface -/

/-- A call with its answer, or something that was written through a mapping. -/
inductive Event
  | called (call : Call) (status : Int) (output : call.Output)
  | wrote (address : Address) (patch : Patch)

def Event.call? : Event → Option Call
  | .called call _ _ => some call
  | .wrote _ _ => none

/-- A driver, and what has passed through its interface, latest first. -/
structure Logged (δ : Type) where
  driver : δ
  log : List Event := []

namespace Logged

variable {δ : Type}

/-- The calls made, in order. -/
def calls (l : Logged δ) : List Call := (l.log.filterMap Event.call?).reverse

instance [Library δ] : Library (Logged δ) where
  hasNode path l := Library.hasNode path l.driver
  call c l :=
    let (status, output, driver) := Library.call c l.driver
    (status, output, ⟨driver, .called c status output :: l.log⟩)
  read address size l := Library.read address size l.driver
  write address patch l := ⟨Library.write address patch l.driver, .wrote address patch :: l.log⟩

end Logged

end Deinterlace.Va
