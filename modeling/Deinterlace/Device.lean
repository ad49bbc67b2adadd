import Deinterlace.Fault
import Deinterlace.Frame
import Deinterlace.Request

/-!
# Devices

`Device σ` says what the pipeline needs from a video-processing device whose state is a value of
type `σ`. Every operation takes the state and gives the state afterwards; one that can fail gives
either its answer or the error, and the state in both cases, since a call that fails may have left
something behind.

Objects are made in the order configuration, context, filter buffers and are destroyed in the
reverse order. A picture goes through `beginPicture`, `createRequest`, `renderPicture` and
`endPicture`, and then the request's buffer is destroyed.

Surfaces are taken from pools. A surface taken from a pool has one holder; `retain` adds a holder
and `release` takes one away, and with the last of them the surface goes back to its pool, also
when the pool has been closed in the meantime.
-/
namespace Deinterlace

/-- Names a pool of surfaces: the number of pools made before it. -/
abbrev PoolId := Nat

/-- The outcome of a device call, and the device afterwards. -/
abbrev Outcome (σ α : Type) : Type := Except DeviceError α × σ

/-- A video-processing device with states `σ`. -/
class Device (σ : Type) where
  /-- The name under which the device is reported. -/
  name : String
  createConfig : σ → Outcome σ ConfigId
  destroyConfig : ConfigId → σ → σ
  createContext : ConfigId → σ → Outcome σ ContextId
  destroyContext : ContextId → σ → σ
  /-- The filters that the context supports. -/
  queryFilters : ContextId → σ → Outcome σ (List FilterType)
  /-- The deinterlacing algorithms that the context supports. -/
  queryAlgorithms : ContextId → σ → Outcome σ (List Algorithm)
  /-- Makes a deinterlacing filter. -/
  createFilter : ContextId → Algorithm → DeintFlags → σ → Outcome σ BufferId
  /-- Replaces the flags of a deinterlacing filter. -/
  updateFlags : BufferId → DeintFlags → σ → Outcome σ Unit
  /-- What a chain of filters needs. -/
  queryCaps : ContextId → List BufferId → σ → Outcome σ PipelineCaps
  beginPicture : ContextId → SurfaceId → σ → Outcome σ Unit
  /-- Makes the parameter buffer of one request. -/
  createRequest : ContextId → RenderRequest → σ → Outcome σ BufferId
  renderPicture : ContextId → List BufferId → σ → Outcome σ Unit
  endPicture : ContextId → σ → Outcome σ Unit
  destroyBuffer : BufferId → σ → σ
  createPool : PoolDesc → σ → Outcome σ PoolId
  /-- Gives up a pool. Surfaces taken from it stay with their holders. -/
  closePool : PoolId → σ → σ
  /-- Takes a surface from a pool; the caller is its only holder. -/
  allocate : PoolId → σ → Outcome σ Surface
  /-- Copies a frame in memory onto a surface of the pool. -/
  upload : PoolId → Surface → Frame → σ → Outcome σ Unit
  /-- Adds a holder to a lease. -/
  retain : LeaseId → σ → σ
  /-- Takes a holder away from a lease. -/
  release : LeaseId → σ → σ
  /-- Gives up the device. Pools and leases may outlive it. -/
  close : σ → σ

namespace Device

variable {σ : Type} [Device σ]

/-- Adds a holder to a frame: its copies share the lease of its surface. -/
def retainFrame (frame : Frame) (device : σ) : σ :=
  match frame.lease? with
  | some lease => retain lease device
  | none => device

/-- Takes a holder away from a frame. -/
def releaseFrame (frame : Frame) (device : σ) : σ :=
  match frame.lease? with
  | some lease => release lease device
  | none => device

/-- Takes the holder of a surface away. -/
def releaseSurface (surface : Surface) (device : σ) : σ :=
  match surface.lease with
  | some lease => release lease device
  | none => device

/-- Takes a holder away from each of several frames, in order. -/
def releaseFrames (frames : List Frame) (device : σ) : σ :=
  frames.foldl (fun device frame => releaseFrame frame device) device

end Device

end Deinterlace
