import Deinterlace.Device.Lease
import Deinterlace.Image.Nv12
import Deinterlace.Text.Utf8
import Deinterlace.Va.Library

/-!
# The VA device

`Va.Display` is a device on top of any driver that can be called through the interface. The display
belongs to everything that was made on it: it is terminated when the device has been closed and
every pool is gone. A pool is gone when it has been closed and none of its surfaces is out any more;
its surfaces are destroyed then. So the surfaces of a pool outlive the last frame on them, and the
display outlives them all.
-/
namespace Deinterlace.Va

/-- A pool of surfaces, made on demand and used again. -/
structure Pool where
  desc : PoolDesc
  /-- The surfaces that were given back, latest first. -/
  free : List SurfaceId := []
  /-- All surfaces that the pool has made, in order. -/
  made : List Nat := []
  isOpen : Bool := true
  isGone : Bool := false
deriving DecidableEq, Repr

/-- A VA device on a driver with states `δ`. -/
structure Display (δ : Type) where
  driver : δ
  version : Int × Int
  /-- The requests whose arrays the driver may read until the picture ends, latest first. -/
  pending : List RenderRequest := []
  /-- The pools made, earliest first; a pool stays in its place when it is closed. -/
  pools : List Pool := []
  leases : Leases := {}
  isOpen : Bool := true
  isTerminated : Bool := false

namespace Display

variable {δ : Type} [Library δ]

/-- The text of a status, made up where the driver has none. -/
def errorText (status : Int) (driver : δ) : String × δ :=
  let (_, text, driver) := Library.call (.errorString status) driver
  (text.getD ("unknown error " ++ toString status), driver)

/-- Opens the device at a path. The path must not hold the character that ends strings for the
operating system. -/
def openAt (path : String) (driver : δ) : Except (Error × δ) (Display δ) :=
  if path.contains (Char.ofNat 0) then .error (.unavailable ("bad device path " ++ path), driver)
  else if !Library.hasNode path driver then
    .error (.unavailable ("failed to open DRM device " ++ path), driver)
  else
    match Library.call .getDisplay driver with
    | (_, false, driver) => .error (.unavailable "failed to get VA display", driver)
    | (_, true, driver) =>
      let (status, version, driver) := Library.call .startDisplay driver
      if status = success then .ok { driver, version }
      else
        let (text, driver) := errorText status driver
        .error (.openingFailed ⟨EntryPoint.startDisplay.name, status, text⟩, driver)

/-- The vendor of the driver, empty if it gives none. -/
def vendor (d : Display δ) : String × Display δ :=
  let (_, vendor, driver) := Library.call .vendorString d.driver
  ((vendor.map Utf8.decode).getD "", { d with driver })

/-- The outcome of a driver call: the answer if the status is the one for success, and otherwise an
error, for which the driver is asked for a text. -/
def check {α : Type} (entry : EntryPoint) (status : Int) (answer : α) (d : Display δ) :
    Outcome (Display δ) α :=
  if status = success then (.ok answer, d)
  else
    let (text, driver) := errorText status d.driver
    (.error ⟨entry.name, status, text⟩, { d with driver })

/-- A driver call of which the status does not matter. -/
def run (c : Call) (d : Display δ) : Display δ :=
  { d with driver := (Library.call c d.driver).2.2 }

def ask (c : Call) (d : Display δ) : Outcome (Display δ) c.Output :=
  let (status, output, driver) := Library.call c d.driver
  check c.entry status output { d with driver }

def write (address : Address) (patch : Patch) (d : Display δ) : Display δ :=
  { d with driver := Library.write address patch d.driver }

def mapAnswer {α β : Type} (f : α → β) : Outcome (Display δ) α → Outcome (Display δ) β
  | (.ok answer, d) => (.ok (f answer), d)
  | (.error e, d) => (.error e, d)

/-- Makes a configuration for video processing without a profile. -/
def createConfig (d : Display δ) : Outcome (Display δ) ConfigId :=
  mapAnswer (⟨·⟩) (d.ask (.createConfig noProfile videoProcessing 0))

/-- Makes a context without a size and without targets. -/
def createContext (config : ConfigId) (d : Display δ) : Outcome (Display δ) ContextId :=
  mapAnswer (⟨·⟩) (d.ask (.createContext config.value 0 0 0 []))

def queryFilters (context : ContextId) (d : Display δ) : Outcome (Display δ) (List FilterType) :=
  mapAnswer (fun table => table.counted.map filterOfCode)
    (d.ask (.queryFilters context.value maxFilters))

/-- The algorithms that the driver counts; codes without a meaning are left out. -/
def queryAlgorithms (context : ContextId) (d : Display δ) : Outcome (Display δ) (List Algorithm) :=
  mapAnswer (fun table => table.counted.filterMap algorithmOfCode?)
    (d.ask (.queryFilterCaps context.value deinterlacingCode maxAlgorithms))

/-- Makes the parameter buffer of a deinterlacing filter. -/
def createFilter (context : ContextId) (algorithm : Algorithm) (flags : DeintFlags)
    (d : Display δ) : Outcome (Display δ) BufferId :=
  let contents := Params.filter ⟨deinterlacingCode, algorithmCode algorithm, flags.bits⟩
  mapAnswer (⟨·⟩) (d.ask (.createBuffer context.value 1 contents))

/-- The error of a buffer that was mapped to nothing. -/
def nullMapping : DeviceError := ⟨EntryPoint.mapBuffer.name, operationFailed, "null mapping"⟩

/-- Replaces the flags of a filter through a mapping of its buffer. -/
def updateFlags (buffer : BufferId) (flags : DeintFlags) (d : Display δ) :
    Outcome (Display δ) Unit :=
  match d.ask (.mapBuffer buffer.value) with
  | (.error e, d) => (.error e, d)
  | (.ok none, d) => (.error nullMapping, d)
  | (.ok (some address), d) =>
    (.ok (), (d.write address (.flags flags.bits)).run (.unmapBuffer buffer.value))

/-- What a driver says about a chain, in the words of the pipeline. -/
def capsOf {inputRoom outputRoom : Nat} (tables : PipelineTables inputRoom outputRoom) :
    PipelineCaps :=
  ⟨tables.input.counted.map standardOfCode, tables.output.counted.map standardOfCode,
    tables.forward, tables.backward⟩

def queryCaps (context : ContextId) (filters : List BufferId) (d : Display δ) :
    Outcome (Display δ) PipelineCaps :=
  mapAnswer capsOf (d.ask
    (.queryPipelineCaps context.value (filters.map (·.value)) maxStandards maxStandards))

def beginPicture (context : ContextId) (target : SurfaceId) (d : Display δ) :
    Outcome (Display δ) Unit :=
  d.ask (.beginPicture context.value target.value)

/-- A request in the words of the driver. The colour standard is stated for input and output, and
once more by its older flag. -/
def pictureParams (request : RenderRequest) : PictureParams :=
  let (standard, flag) := colorCodes request.colorspace
  { surface := request.source.value
    surfaceRegion := request.sourceRegion
    outputRegion := request.outputRegion
    surfaceStandard := standard
    outputStandard := standard
    filterFlags := fieldCode request.field ||| flag
    filters := request.filters.map (·.value)
    forward := request.forwardReferences.map (·.value)
    backward := request.backwardReferences.map (·.value) }

/-- Makes the parameter buffer of a request. The driver reads its arrays until the picture ends. -/
def createRequest (context : ContextId) (request : RenderRequest) (d : Display δ) :
    Outcome (Display δ) BufferId :=
  match d.ask (.createBuffer context.value 1 (.picture (pictureParams request))) with
  | (.error e, d) => (.error e, d)
  | (.ok id, d) => (.ok ⟨id⟩, { d with pending := request :: d.pending })

def renderPicture (context : ContextId) (buffers : List BufferId) (d : Display δ) :
    Outcome (Display δ) Unit :=
  d.ask (.renderPicture context.value (buffers.map (·.value)))

/-- Ends the picture. The driver has no use for its arrays any more, also if the call fails. -/
def endPicture (context : ContextId) (d : Display δ) : Outcome (Display δ) Unit :=
  let (status, _, driver) := Library.call (.endPicture context.value) d.driver
  check .endPicture status () { d with driver, pending := [] }

def destroyBuffer (buffer : BufferId) (d : Display δ) : Display δ :=
  d.run (.destroyBuffer buffer.value)

def modifyPool (d : Display δ) (pool : PoolId) (change : Pool → Pool) : Display δ :=
  { d with pools := d.pools.modify pool change }

/-- Terminates the display if nothing needs it any more. -/
def reclaim (d : Display δ) : Display δ :=
  if d.isOpen || d.isTerminated || d.pools.any (!·.isGone) then d
  else { d.run .terminate with isTerminated := true }

/-- Destroys the surfaces of a pool if it is closed and none of them is out any more. A pool without
surfaces has none to destroy. -/
def reclaimPool (pool : PoolId) (d : Display δ) : Display δ :=
  match d.pools[pool]? with
  | none => d
  | some p =>
    if p.isOpen || p.isGone || d.leases.anyOf pool then d
    else
      let d := if p.made.isEmpty then d else d.run (.destroySurfaces p.made)
      (d.modifyPool pool fun p => { p with free := [], isGone := true }).reclaim

/-- The error of a pool of a layout or size that is not supported. -/
def unsupportedPool (desc : PoolDesc) : DeviceError :=
  ⟨EntryPoint.createSurfaces.name, invalidParameter,
    "unsupported pool " ++ desc.swFormat.name ++ " " ++ toString desc.width ++ "x" ++
      toString desc.height⟩

/-- Sets up a pool of NV12 surfaces. The driver is asked for surfaces only when they are needed. -/
def createPool (desc : PoolDesc) (d : Display δ) : Outcome (Display δ) PoolId :=
  if desc.swFormat != .nv12 || desc.width == 0 || desc.height == 0 then
    (.error (unsupportedPool desc), d)
  else (.ok d.pools.length, { d with pools := d.pools ++ [{ desc := desc }] })

def closePool (pool : PoolId) (d : Display δ) : Display δ :=
  (d.modifyPool pool fun p => { p with isOpen := false }).reclaimPool pool

def lend (d : Display δ) (pool : PoolId) (desc : PoolDesc) (id : SurfaceId) :
    Outcome (Display δ) Surface :=
  let (lease, leases) := d.leases.grant pool id
  (.ok ⟨id, desc.width, desc.height, some lease⟩, { d with leases })

/-- The error of a pool that may make no more surfaces. -/
def exhausted : DeviceError :=
  ⟨EntryPoint.createSurfaces.name, maxNumberExceeded, "surface pool exhausted"⟩

/-- Takes the surface that was given back last, or has the driver make a new one while the pool has
room. -/
def allocate (pool : PoolId) (d : Display δ) : Outcome (Display δ) Surface :=
  match d.pools[pool]? with
  | none => (.error exhausted, d)
  | some p =>
    match p.free with
    | id :: free => (d.modifyPool pool fun p => { p with free := free }).lend pool p.desc id
    | [] =>
      if maxPoolSurfaces ≤ p.made.length then (.error exhausted, d)
      else
        match d.ask (.createSurfaces surfaceLayout p.desc.width p.desc.height 1 0) with
        | (.error e, d) => (.error e, d)
        | (.ok id, d) =>
          (d.modifyPool pool fun p => { p with made := p.made ++ [id] }).lend pool p.desc ⟨id⟩

def layoutOf (image : Image) : Nv12.Layout :=
  ⟨image.width, image.height, image.lumaPitch, image.chromaPitch, image.lumaOffset,
    image.chromaOffset⟩

/-- Writes a frame in memory into an image of a surface, through a mapping of its bytes. -/
def writeImage (image : Image) (source : SoftwareImage) (d : Display δ) :
    Outcome (Display δ) Unit :=
  if image.format != nv12Code || image.planes < 2 then
    (.error ⟨EntryPoint.deriveImage.name, invalidImageFormat, "surface is not NV12"⟩, d)
  else
    match d.ask (.mapBuffer image.buffer) with
    | (.error e, d) => (.error e, d)
    | (.ok none, d) => (.error nullMapping, d)
    | (.ok (some address), d) =>
      let bytes := Library.read address image.dataSize d.driver
      let (failure, bytes) := Nv12.write (layoutOf image) source bytes.toArray
      let d := (d.write address (.bytes bytes)).run (.unmapBuffer image.buffer)
      match failure with
      | none => (.ok (), d)
      | some failure => (.error ⟨EntryPoint.upload.name, invalidParameter, failure.describe⟩, d)

/-- Copies a frame in memory onto a surface, through an image of the surface. -/
def upload (target : Surface) (frame : Frame) (d : Display δ) : Outcome (Display δ) Unit :=
  match frame.image? with
  | none =>
    (.error ⟨EntryPoint.upload.name, invalidImageFormat, "frame has no software image"⟩, d)
  | some source =>
    match d.ask (.deriveImage target.id.value) with
    | (.error e, d) => (.error e, d)
    | (.ok image, d) =>
      let (written, d) := d.writeImage image source
      (written, d.run (.destroyImage image.id))

/-- Takes a holder away; with the last one the surface goes back to its pool. -/
def release (key : LeaseId) (d : Display δ) : Display δ :=
  match d.leases.release? key with
  | (none, leases) => { d with leases }
  | (some lease, leases) =>
    (modifyPool { d with leases } lease.pool fun p =>
      { p with free := lease.surface :: p.free }).reclaimPool lease.pool

/-- Gives up the device; the display stays as long as a pool needs it. -/
def close (d : Display δ) : Display δ := { d with isOpen := false }.reclaim

instance : Device (Display δ) where
  name := "vaapi"
  createConfig := createConfig
  destroyConfig config d := d.run (.destroyConfig config.value)
  createContext := createContext
  destroyContext context d := d.run (.destroyContext context.value)
  queryFilters := queryFilters
  queryAlgorithms := queryAlgorithms
  createFilter := createFilter
  updateFlags := updateFlags
  queryCaps := queryCaps
  beginPicture := beginPicture
  createRequest := createRequest
  renderPicture := renderPicture
  endPicture := endPicture
  destroyBuffer := destroyBuffer
  createPool := createPool
  closePool := closePool
  allocate := allocate
  upload _ := upload
  retain key d := { d with leases := d.leases.retain key }
  release := release
  close := close

end Display

end Deinterlace.Va
