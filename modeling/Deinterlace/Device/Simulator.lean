import Deinterlace.Device
import Deinterlace.Device.EntryPoint
import Deinterlace.Device.Lease

/-!
# The simulated device

`Simulator` is a device in memory. It reports configurable capabilities, renders nothing, and writes
down every call and every request that reaches it. Any entry point can be made to fail. All handles
come from one counter, so no two objects share one.
-/
namespace Deinterlace

namespace Simulator

/-- One entry of the log. -/
inductive Call
  | createConfig (config : ConfigId)
  | destroyConfig (config : ConfigId)
  | createContext (context : ContextId)
  | destroyContext (context : ContextId)
  | queryFilters
  | queryAlgorithms
  | createFilter (buffer : BufferId)
  | updateFlags (buffer : BufferId) (flags : DeintFlags)
  | queryCaps (filters : List BufferId)
  | beginPicture (target : SurfaceId)
  | createRequest (buffer : BufferId)
  | renderPicture (buffers : List BufferId)
  | endPicture
  | destroyBuffer (buffer : BufferId)
  | createPool (desc : PoolDesc)
  | closePool
  | allocate (surface : SurfaceId)
  | upload (surface : SurfaceId)
deriving DecidableEq, Repr

/-- A request that was rendered, with the deinterlacing flags in force at that moment. -/
structure Submission where
  request : RenderRequest
  /-- The flags of the first filter buffer of the request's chain. -/
  flags : Option DeintFlags
deriving DecidableEq, Repr

/-- A buffer on the device. -/
inductive Buffer
  | filter (flags : DeintFlags)
  | request (request : RenderRequest)
deriving DecidableEq, Repr

/-- A pool of surfaces. -/
structure Pool where
  desc : PoolDesc
  capacity : Nat
  allocated : Nat := 0
  /-- The surfaces that were given back, latest first. -/
  free : List SurfaceId := []
deriving DecidableEq, Repr

def Pool.inUse (p : Pool) : Nat := p.allocated - p.free.length

def failureStatus : Int := 1

end Simulator

open Simulator in
/-- A device in memory that writes down what is asked of it. Offers every algorithm and needs no
references unless told otherwise. -/
structure Simulator where
  filters : List FilterType := [.noiseReduction, .deinterlacing, .colorBalance]
  algorithms : List Algorithm := [.bob, .weave, .motionAdaptive, .motionCompensated]
  caps : PipelineCaps := ⟨[.bt601, .bt709], [.bt601, .bt709], 0, 0⟩
  /-- How many surfaces each new pool may hand out at once. -/
  poolCapacity : Nat := 16
  failing : List EntryPoint := []
  /-- The number of the next object. It starts well above zero, which no object ever has. A word of
  32 bits holds it: every object and every pool comes with a call that is written down in memory, so
  memory is exhausted long before the numbers are. Where a number must not be that of
  `Handle.invalid` either, a statement asks for numbers that last. -/
  nextId : Nat := 0x10
  /-- The calls made, latest first. -/
  history : List Call := []
  /-- The requests rendered, latest first. -/
  rendered : List Submission := []
  buffers : List (BufferId × Buffer) := []
  /-- The target of the picture that has been begun and not ended. -/
  openPicture : Option SurfaceId := none
  /-- The pools made, earliest first; a pool stays in its place when it is closed. -/
  pools : List Pool := []
  leases : Leases := {}
deriving DecidableEq, Repr

namespace Simulator

/-- The calls made, in order. -/
def calls (d : Simulator) : List Call := d.history.reverse

/-- The requests rendered, in order. -/
def submissions (d : Simulator) : List Submission := d.rendered.reverse

def liveBuffers (d : Simulator) : Nat := d.buffers.length

def pictureOpen (d : Simulator) : Bool := d.openPicture.isSome

def withReferences (d : Simulator) (forward backward : Nat) : Simulator :=
  { d with caps := { d.caps with forwardReferences := forward, backwardReferences := backward } }

def failOn (d : Simulator) (entry : EntryPoint) : Simulator :=
  { d with failing := entry :: d.failing }

def clearFailures (d : Simulator) : Simulator := { d with failing := [] }

def record (call : Call) (d : Simulator) : Simulator := { d with history := call :: d.history }

def fails (d : Simulator) (entry : EntryPoint) : Bool := d.failing.contains entry

def injected (entry : EntryPoint) : DeviceError := ⟨entry.name, failureStatus, "injected failure"⟩

def bump (d : Simulator) : Simulator := { d with nextId := d.nextId + 1 }

def buffer? (d : Simulator) (id : BufferId) : Option Buffer := d.buffers.lookup id

/-- Puts a buffer in place of the one of the same handle. -/
def setBuffer (d : Simulator) (id : BufferId) (buffer : Buffer) : Simulator :=
  { d with buffers := d.buffers.map fun entry => if entry.1 = id then (id, buffer) else entry }

def addBuffer (d : Simulator) (id : BufferId) (buffer : Buffer) : Simulator :=
  { d with buffers := d.buffers ++ [(id, buffer)] }

def modifyPool (d : Simulator) (pool : PoolId) (change : Pool → Pool) : Simulator :=
  { d with pools := d.pools.modify pool change }

/-- The flags of the first buffer of a chain that is a filter. -/
def flagsOf (d : Simulator) (chain : List BufferId) : Option DeintFlags :=
  chain.findSome? fun id =>
    match d.buffer? id with
    | some (.filter flags) => some flags
    | _ => none

/-- Makes a configuration. Only a call that succeeds is written down. -/
def createConfig (d : Simulator) : Outcome Simulator ConfigId :=
  if d.fails .createConfig then (.error (injected .createConfig), d)
  else (.ok ⟨d.nextId⟩, d.bump.record (.createConfig ⟨d.nextId⟩))

def createContext (config : ConfigId) (d : Simulator) : Outcome Simulator ContextId :=
  if d.fails .createContext then (.error (injected .createContext), d)
  else if !config.isValid then
    (.error ⟨EntryPoint.createContext.name, 4, "invalid config"⟩, d)
  else (.ok ⟨d.nextId⟩, d.bump.record (.createContext ⟨d.nextId⟩))

/-- Reports the filters. A query is written down whether it succeeds or not. -/
def queryFilters (d : Simulator) : Outcome Simulator (List FilterType) :=
  let d := d.record .queryFilters
  if d.fails .queryFilters then (.error (injected .queryFilters), d)
  else (.ok d.filters, d)

def queryAlgorithms (d : Simulator) : Outcome Simulator (List Algorithm) :=
  let d := d.record .queryAlgorithms
  if d.fails .queryFilterCaps then (.error (injected .queryFilterCaps), d)
  else (.ok d.algorithms, d)

/-- Makes a filter buffer. A number is used up even if the algorithm is not supported. -/
def createFilter (algorithm : Algorithm) (flags : DeintFlags) (d : Simulator) :
    Outcome Simulator BufferId :=
  if d.fails .createBuffer then (.error (injected .createBuffer), d)
  else if !d.algorithms.contains algorithm then
    (.error ⟨EntryPoint.createBuffer.name, 0x12, "unsupported algorithm"⟩, d.bump)
  else
    (.ok ⟨d.nextId⟩,
      (d.bump.addBuffer ⟨d.nextId⟩ (.filter flags)).record (.createFilter ⟨d.nextId⟩))

/-- Replaces the flags of a filter buffer; no other buffer has any. -/
def updateFlags (id : BufferId) (flags : DeintFlags) (d : Simulator) : Outcome Simulator Unit :=
  if d.fails .mapBuffer then (.error (injected .mapBuffer), d)
  else
    match d.buffer? id with
    | some (.filter _) => (.ok (), (d.setBuffer id (.filter flags)).record (.updateFlags id flags))
    | _ => (.error ⟨EntryPoint.mapBuffer.name, 7, "invalid buffer"⟩, d)

def queryCaps (filters : List BufferId) (d : Simulator) : Outcome Simulator PipelineCaps :=
  let d := d.record (.queryCaps filters)
  if d.fails .queryPipelineCaps then (.error (injected .queryPipelineCaps), d)
  else (.ok d.caps, d)

/-- Begins a picture, of which only one can be open at a time. -/
def beginPicture (target : SurfaceId) (d : Simulator) : Outcome Simulator Unit :=
  if d.fails .beginPicture then (.error (injected .beginPicture), d)
  else if !target.isValid then
    (.error ⟨EntryPoint.beginPicture.name, 6, "invalid surface"⟩, d)
  else if d.pictureOpen then
    (.error ⟨EntryPoint.beginPicture.name, 1, "picture already open"⟩, d)
  else (.ok (), record (.beginPicture target) { d with openPicture := some target })

def createRequest (request : RenderRequest) (d : Simulator) : Outcome Simulator BufferId :=
  if d.fails .createBuffer then (.error (injected .createBuffer), d)
  else
    (.ok ⟨d.nextId⟩,
      (d.bump.addBuffer ⟨d.nextId⟩ (.request request)).record (.createRequest ⟨d.nextId⟩))

/-- Renders the requests of the given buffers in order and stops at one that holds no request. -/
def submitAll : List BufferId → Simulator → Outcome Simulator Unit
  | [], d => (.ok (), d)
  | id :: rest, d =>
    match d.buffer? id with
    | some (.request request) =>
      submitAll rest { d with rendered := ⟨request, d.flagsOf request.filters⟩ :: d.rendered }
    | _ => (.error ⟨EntryPoint.renderPicture.name, 7, "invalid buffer"⟩, d)

/-- Renders the requests of the given buffers into the open picture. -/
def renderPicture (ids : List BufferId) (d : Simulator) : Outcome Simulator Unit :=
  let d := d.record (.renderPicture ids)
  if d.fails .renderPicture then (.error (injected .renderPicture), d)
  else if !d.pictureOpen then
    (.error ⟨EntryPoint.renderPicture.name, 1, "no picture open"⟩, d)
  else submitAll ids d

/-- Ends the picture. It counts as ended even if the call fails. -/
def endPicture (d : Simulator) : Outcome Simulator Unit :=
  if !d.pictureOpen then (.error ⟨EntryPoint.endPicture.name, 1, "no picture open"⟩, d)
  else
    let d := record .endPicture { d with openPicture := none }
    if d.fails .endPicture then (.error (injected .endPicture), d) else (.ok (), d)

def destroyBuffer (id : BufferId) (d : Simulator) : Simulator :=
  record (.destroyBuffer id) { d with buffers := d.buffers.filter (·.1 != id) }

/-- Sets up a pool. Its surfaces are made when they are first taken. -/
def createPool (desc : PoolDesc) (d : Simulator) : Outcome Simulator PoolId :=
  if d.fails .createSurfaces then (.error (injected .createSurfaces), d)
  else
    (.ok d.pools.length,
      record (.createPool desc)
        { d with pools := d.pools ++ [{ desc := desc, capacity := d.poolCapacity }] })

def lend (d : Simulator) (pool : PoolId) (desc : PoolDesc) (id : SurfaceId) :
    Outcome Simulator Surface :=
  let (lease, leases) := d.leases.grant pool id
  (.ok ⟨id, desc.width, desc.height, some lease⟩,
    record (.allocate id) { d with leases := leases })

/-- Takes the surface that was given back last, or makes a new one while the pool has room. -/
def allocate (pool : PoolId) (d : Simulator) : Outcome Simulator Surface :=
  let exhausted : DeviceError := ⟨EntryPoint.alloc.name, 2, "pool exhausted"⟩
  if d.fails .alloc then (.error (injected .alloc), d)
  else
    match d.pools[pool]? with
    | none => (.error exhausted, d)
    | some p =>
      match p.free with
      | id :: free => (d.modifyPool pool fun p => { p with free := free }).lend pool p.desc id
      | [] =>
        if p.allocated < p.capacity then
          (d.modifyPool pool fun p => { p with allocated := p.allocated + 1 }).bump.lend
            pool p.desc ⟨d.nextId⟩
        else (.error exhausted, d)

/-- Whether a frame is in memory in a layout that can be copied onto a surface. -/
def uploadable (frame : Frame) : Bool := frame.image?.any fun image => !image.format.isHardware

/-- Accepts a frame in memory without copying it. -/
def upload (target : Surface) (frame : Frame) (d : Simulator) : Outcome Simulator Unit :=
  if d.fails .upload then (.error (injected .upload), d)
  else if uploadable frame then (.ok (), d.record (.upload target.id))
  else (.error ⟨EntryPoint.upload.name, 0x16, "not an uploadable software frame"⟩, d)

/-- Takes a holder away; with the last one the surface goes back to its pool. -/
def release (key : LeaseId) (d : Simulator) : Simulator :=
  match d.leases.release? key with
  | (none, leases) => { d with leases := leases }
  | (some lease, leases) =>
    modifyPool { d with leases := leases } lease.pool fun p =>
      { p with free := lease.surface :: p.free }

instance : Device Simulator where
  name := "mock"
  createConfig := createConfig
  destroyConfig config d := d.record (.destroyConfig config)
  createContext := createContext
  destroyContext context d := d.record (.destroyContext context)
  queryFilters _ := queryFilters
  queryAlgorithms _ := queryAlgorithms
  createFilter _ := createFilter
  updateFlags := updateFlags
  queryCaps _ := queryCaps
  beginPicture _ := beginPicture
  createRequest _ := createRequest
  renderPicture _ := renderPicture
  endPicture _ := endPicture
  destroyBuffer := destroyBuffer
  createPool := createPool
  closePool _ d := d.record .closePool
  allocate := allocate
  upload _ := upload
  retain key d := { d with leases := d.leases.retain key }
  release := release
  close d := d

end Simulator

end Deinterlace
