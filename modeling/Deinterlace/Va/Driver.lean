import Deinterlace.Va.Library

/-!
# A scripted driver

`Va.Driver` is a VA driver that answers from a `Script`: which entry points fail and how, which
return nothing, which numbers new objects get, and what the queries report. It writes down the calls
that reach it. A call that fails leaves the caller's outputs untouched, also when the status it
fails with is the one for success. The address to which a buffer is mapped is its number.
-/
namespace Deinterlace.Va

/-- The kinds of objects to which a driver gives numbers. -/
inductive ObjectKind
  | config
  | context
  | surface
  | buffer
  | image
  | imageBuffer
deriving DecidableEq, Repr

/-- What a script says about images of surfaces; everything unsaid follows from the surface. -/
structure ImageScript where
  format : Option Nat := none
  planes : Option Nat := none
  width : Option Nat := none
  height : Option Nat := none
  pitches : Option (List Nat) := none
  offsets : Option (List Nat) := none
  dataSize : Option Nat := none
  /-- What the bytes of an image hold before anything is written. -/
  fill : UInt8 := 0
deriving DecidableEq, Repr

/-- What a driver answers. The counts a query reports may differ from what it has to tell. -/
structure Script where
  nodes : List String := ["/dev/null"]
  failures : List (EntryPoint × Int) := []
  nulls : List EntryPoint := []
  forced : List (ObjectKind × Nat) := []
  version : Int × Int := (1, 0)
  vendor : List UInt8 := []
  filters : List Int := []
  algorithms : List Int := []
  inputStandards : List Int := []
  outputStandards : List Int := []
  filterCount : Option Nat := none
  algorithmCount : Option Nat := none
  inputCount : Option Nat := none
  outputCount : Option Nat := none
  forward : Nat := 0
  backward : Nat := 0
  mapsNull : Bool := false
  image : ImageScript := {}
deriving DecidableEq, Repr

/-- The contents of a buffer. -/
inductive Buffer
  | params (params : Params)
  | image (bytes : Bytes)
deriving DecidableEq

/-- A call that was made. For one that unmaps a buffer, the contents of the buffer at that time are
written down as well, if it is there. -/
structure Entry where
  call : Call
  unmapped : Option Buffer := none
deriving DecidableEq

/-- A driver and what it has been asked. -/
structure Driver where
  script : Script := {}
  /-- The calls made, latest first, but for those that ask for a text. -/
  history : List Entry := []
  nextId : Nat := 1
  buffers : List (Nat × Buffer) := []
  /-- The sizes of the surfaces made, latest first. -/
  surfaces : List (Nat × Nat × Nat) := []
deriving DecidableEq

/-- A table filled with as many values as there is room for. -/
def Table.fill (room : Nat) (values : List Int) (reported : Option Nat) : Table room where
  entries := ⟨(values.take room ++ List.replicate (room - values.length) 0).toArray, by
    simp only [List.size_toArray, List.length_append, List.length_take, List.length_replicate]
    omega⟩
  count := reported.getD values.length

namespace Driver

/-- The calls made, in order. -/
def entries (d : Driver) : List Entry := d.history.reverse

def record (d : Driver) (entry : Entry) : Driver := { d with history := entry :: d.history }

def returnsNull (d : Driver) (entry : EntryPoint) : Bool := d.script.nulls.contains entry

def buffer? (d : Driver) (id : Nat) : Option Buffer := d.buffers.lookup id

/-- Puts contents in place of those of the same number. -/
def setBuffer (d : Driver) (id : Nat) (contents : Buffer) : Driver :=
  { d with buffers := (id, contents) :: d.buffers.filter (·.1 != id) }

def eraseBuffer (d : Driver) (id : Nat) : Driver :=
  { d with buffers := d.buffers.filter (·.1 != id) }

theorem buffer?_eraseBuffer_ne {id other : Nat} (d : Driver) (h : other ≠ id) :
    (d.eraseBuffer id).buffer? other = d.buffer? other := by
  unfold buffer? eraseBuffer
  induction d.buffers with
  | nil => rfl
  | cons first rest ih =>
    by_cases hfirst : first.1 = id
    · have hne : (other == first.1) = false := beq_eq_false_iff_ne.2 (hfirst ▸ h)
      rw [List.filter_cons_of_neg (by simp [hfirst]), ih, List.lookup_cons, hne]
    · rw [List.filter_cons_of_pos (by simp [hfirst]), List.lookup_cons, List.lookup_cons, ih]

theorem buffer?_setBuffer (d : Driver) (id other : Nat) (contents : Buffer) :
    (d.setBuffer id contents).buffer? other =
      if other = id then some contents else d.buffer? other := by
  by_cases h : other = id
  · simp [buffer?, setBuffer, h]
  · have hne : (other == id) = false := beq_eq_false_iff_ne.2 h
    rw [if_neg h, ← d.buffer?_eraseBuffer_ne h]
    simp only [buffer?, setBuffer, eraseBuffer, List.lookup_cons, hne]

/-- A number for a new object: the one that the script forces on its kind, or the next one. -/
def number (kind : ObjectKind) (d : Driver) : Nat × Driver :=
  match d.script.forced.lookup kind with
  | some id => (id, d)
  | none =>
    let id := if d.nextId = noObject then noObject + 1 else d.nextId
    (id, { d with nextId := id + 1 })

def giveNumber (kind : ObjectKind) (d : Driver) : Reply Driver Nat :=
  let (id, d) := d.number kind
  (success, id, d)

/-- The size of a surface; of several with one number, the latest. -/
def surfaceSize (d : Driver) (id : Nat) : Nat × Nat := (d.surfaces.lookup id).getD (0, 0)

/-- The description of an image of a surface of the given size. -/
def describeImage (script : ImageScript) (width height id buffer : Nat) : Image :=
  let pitches := script.pitches.getD [width, width]
  let offsets := script.offsets.getD [0, width * height]
  { id := id
    buffer := buffer
    format := script.format.getD nv12Code
    planes := script.planes.getD 2
    width := script.width.getD width % 0x10000
    height := script.height.getD height % 0x10000
    lumaPitch := pitches.getD 0 0
    chromaPitch := pitches.getD 1 0
    lumaOffset := offsets.getD 0 0
    chromaOffset := offsets.getD 1 0
    dataSize := script.dataSize.getD (width * height + width * chromaExtent height) }

/-- Makes an image of a surface, with fresh bytes. -/
def deriveImage (surface : Nat) (d : Driver) : Reply Driver Image :=
  let (width, height) := d.surfaceSize surface
  let (id, d) := d.number .image
  let (buffer, d) := d.number .imageBuffer
  let image := describeImage d.script.image width height id buffer
  let bytes := Array.replicate image.dataSize d.script.image.fill
  (success, image, d.setBuffer buffer (.image bytes))

/-- Maps a buffer. The parameters of a picture cannot be mapped. A driver that maps to nothing does
not look at the buffer. -/
def mapBuffer (id : Nat) (d : Driver) : Reply Driver (Option Address) :=
  if d.script.mapsNull then (success, none, d)
  else
    match d.buffer? id with
    | some (.params (.filter _)) | some (.image _) => (success, some id, d)
    | some (.params (.picture _)) | none => (invalidBuffer, none, d)

/-- What is left in the outputs of a call that fails. -/
def untouched : (c : Call) → c.Output
  | .getDisplay => false
  | .startDisplay => (0, 0)
  | .vendorString => none
  | .errorString _ => none
  | .createConfig .. | .createContext .. | .createSurfaces .. | .createBuffer .. => noObject
  | .mapBuffer _ => none
  | .deriveImage _ => {}
  | .queryFilters _ room | .queryFilterCaps _ _ room => .blank room
  | .queryPipelineCaps .. => {}
  | .terminate | .destroyConfig _ | .destroyContext _ | .destroySurfaces _ | .destroyBuffer _
  | .unmapBuffer _ | .beginPicture .. | .renderPicture .. | .endPicture _ | .destroyImage _ => ()

/-- The answer to a call that does not fail. Pictures may be begun, worked through and ended in any
order; a chain of filters needs the same whatever it is; the buffer of an image stays when the image
is destroyed. -/
def serve : (c : Call) → Driver → Reply Driver c.Output
  | .getDisplay, d => (success, !d.returnsNull .getDisplay, d)
  | .startDisplay, d => (success, d.script.version, d)
  | .vendorString, d =>
    (success, if d.returnsNull .vendorString then none else some d.script.vendor, d)
  | .errorString status, d =>
    (success, if d.returnsNull .errorString then none else some ("va error " ++ toString status), d)
  | .createConfig .., d => giveNumber .config d
  | .createContext .., d => giveNumber .context d
  | .createSurfaces _ width height _ _, d =>
    let (id, d) := d.number .surface
    (success, id, { d with surfaces := (id, width, height) :: d.surfaces })
  | .createBuffer _ _ contents, d =>
    let (id, d) := d.number .buffer
    (success, id, d.setBuffer id (.params contents))
  | .destroyBuffer id, d => (success, (), d.eraseBuffer id)
  | .mapBuffer id, d => mapBuffer id d
  | .deriveImage surface, d => deriveImage surface d
  | .queryFilters _ room, d => (success, .fill room d.script.filters d.script.filterCount, d)
  | .queryFilterCaps _ _ room, d =>
    (success, .fill room d.script.algorithms d.script.algorithmCount, d)
  | .queryPipelineCaps _ _ inputRoom outputRoom, d =>
    let s := d.script
    (success,
      { input := .fill inputRoom s.inputStandards s.inputCount
        output := .fill outputRoom s.outputStandards s.outputCount
        forward := s.forward
        backward := s.backward }, d)
  | .terminate, d | .destroyConfig _, d | .destroyContext _, d | .destroySurfaces _, d
  | .unmapBuffer _, d | .beginPicture .., d | .renderPicture .., d | .endPicture _, d
  | .destroyImage _, d => (success, (), d)

/-- Whether a call is written down. -/
def notes : Call → Bool
  | .vendorString | .errorString _ => false
  | _ => true

/-- Whether an entry point is scripted to fail, and how. A call that reports no status cannot
fail. -/
def failure? (d : Driver) (c : Call) : Option Int :=
  match c with
  | .getDisplay | .vendorString | .errorString _ => none
  | _ => d.script.failures.lookup c.entry

/-- What is written down of a call. -/
def entryOf (d : Driver) (c : Call) : Entry :=
  match c with
  | .unmapBuffer id => ⟨c, d.buffer? id⟩
  | _ => ⟨c, none⟩

/-- Writes a call down and answers it, unless its entry point is scripted to fail. -/
def answer (c : Call) (d : Driver) : Reply Driver c.Output :=
  let noted := if notes c then d.record (d.entryOf c) else d
  match d.failure? c with
  | some status => (status, untouched c, noted)
  | none => serve c noted

/-- The place of the flags among the bytes of a filter's parameters, behind two words. -/
def flagsOffset : Nat := 8

/-- Writes the flags of a mapped filter. The bytes of an image are written to all the same, as if
they were the parameters of a filter. -/
def writeFlags (id : Nat) (flags : UInt32) (d : Driver) : Driver :=
  match d.buffer? id with
  | some (.params (.filter params)) =>
    d.setBuffer id (.params (.filter { params with flags := flags }))
  | some (.image bytes) => d.setBuffer id (.image (writeWord bytes flagsOffset flags))
  | some (.params (.picture _)) | none => d

/-- The bytes of an image; where none of this size is there, they are zero. -/
def imageBytes (id size : Nat) (d : Driver) : Vector UInt8 size :=
  match d.buffer? id with
  | some (.image bytes) => if h : bytes.size = size then ⟨bytes, h⟩ else Vector.replicate size 0
  | _ => Vector.replicate size 0

instance : Library Driver where
  hasNode path d := d.script.nodes.contains path
  call := answer
  read := imageBytes
  write
    | id, .flags bits, d => d.writeFlags id bits
    | id, .bytes bytes, d => d.setBuffer id (.image bytes)

end Driver

end Deinterlace.Va
