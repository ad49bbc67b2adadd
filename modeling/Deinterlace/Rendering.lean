import Deinterlace.Chain

/-!
# Rendering

From the window and the chain to a request (`buildRequest`), and from a request to a picture
(`submit`). Whatever `submit` opens on the device is closed again before it returns: a picture that
was begun is ended, and the buffer of the request is destroyed, also when a call in between fails.
-/
namespace Deinterlace

namespace Rendering

variable {σ : Type} [Device σ]

/-- The surfaces at distances `direction`, `2 * direction`, … from the current frame, at most
`count` of them, up to the first that is missing or invalid. The frames held bound their number, so
`fuel` need not exceed it. -/
def collectReferences (w : Window) (direction : Int) : (fuel : Nat) → (distance : Nat) →
    List SurfaceId
  | 0, _ => []
  | fuel + 1, distance =>
    match w.frameAt? (distance * direction) with
    | none => []
    | some frame =>
      if frame.surfaceId.isValid then
        frame.surfaceId :: collectReferences w direction fuel (distance + 1)
      else []

/-- Up to `count` reference surfaces in one direction. -/
def references (w : Window) (count : Nat) (direction : Int) : List SurfaceId :=
  collectReferences w direction (min count w.frames.length) 1

/-- The field of the current frame that is processed next. -/
def fieldOf (w : Window) : PictureField :=
  if !w.shouldDeinterlace then .frame
  else if w.isTopField then .top
  else .bottom

/-- The request for the field that the window is on. Where the device fills its reference lists in
the opposite order, earlier frames are handed over as forward references and later ones as backward
references. -/
def buildRequest (c : Chain) (w : Window) (current : Frame) (destination : SurfaceId) :
    RenderRequest :=
  let direction : Int := if c.options.swapReferences then -1 else 1
  let (forward, backward) := c.reportedReferences
  let region := Rect.ofSize current.width current.height
  { source := current.surfaceId
    destination := destination
    sourceRegion := region
    outputRegion := region
    field := fieldOf w
    colorspace := current.colorspace
    filters := c.active
    forwardReferences := references w forward direction
    backwardReferences := references w backward (-direction) }

/-- Replaces the flags of the chain's deinterlacing filter, if it has one. -/
def applyFlags (buffer : Option BufferId) (flags : DeintFlags) (device : σ) : Outcome σ Unit :=
  match buffer with
  | some buffer => Device.updateFlags buffer flags device
  | none => (.ok (), device)

/-- Ends a picture that is given up. Nothing can be done if that fails as well. -/
def abandon (context : ContextId) (device : σ) : σ := (Device.endPicture context device).2

/-- Has the device render one request. -/
def submit (context : ContextId) (buffer : Option BufferId) (flags : DeintFlags)
    (request : RenderRequest) (device : σ) : Outcome σ Unit :=
  match Device.beginPicture context request.destination device with
  | (.error e, device) => (.error e, device)
  | (.ok _, device) =>
    match applyFlags buffer flags device with
    | (.error e, device) => (.error e, abandon context device)
    | (.ok _, device) =>
      match Device.createRequest context request device with
      | (.error e, device) => (.error e, abandon context device)
      | (.ok params, device) =>
        match Device.renderPicture context [params] device with
        | (.error e, device) =>
          (.error e, Device.destroyBuffer params (abandon context device))
        | (.ok _, device) =>
          match Device.endPicture context device with
          | (ended, device) => (ended, Device.destroyBuffer params device)

/-- The error of a current frame that is not on the device. -/
def notOnDevice : DeviceError := ⟨"render", 6, "current frame is not on a hardware surface"⟩

/-- The frame that shows a rendered picture: on the target surface, with the attributes of the
current frame. A picture made from one field is not interlaced any more. -/
def pictureOf (w : Window) (current : Frame) (target : Surface) : Frame :=
  let picture := (Frame.ofSurface target current.width current.height).withAttributesOf current
  { picture with
    pts := w.currentPts
    fields := if fieldOf w = .frame then picture.fields else picture.fields.progressive }

/-- Renders the field that the window is on onto a surface of the pool. When that fails the surface
has gone back to the pool. -/
def render (context : ContextId) (c : Chain) (w : Window) (pool : Option PoolId)
    (current : Frame) (device : σ) : Except Error Frame × σ :=
  if !current.surfaceId.isValid then (.error (.submissionFailed notOnDevice), device)
  else
    match pool with
    | none => (.error (.allocationFailed "no surface pool configured"), device)
    | some pool =>
      match Device.allocate pool device with
      | (.error e, device) => (.error (.allocationFailed e.describe), device)
      | (.ok target, device) =>
        if !target.id.isValid then
          (.error (.allocationFailed "pool returned an invalid surface"),
            Device.releaseSurface target device)
        else
          let request := buildRequest c w current target.id
          let flags := DeintFlags.ofField request.field w.topFieldFirst
          match submit context c.deinterlaceBuffer? flags request device with
          | (.error e, device) =>
            (.error (.submissionFailed e), Device.releaseSurface target device)
          | (.ok _, device) => (.ok (pictureOf w current target), device)

end Rendering

end Deinterlace
