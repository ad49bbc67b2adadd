import Deinterlace.Rendering

/-!
# Sessions

A `Session` is an open pipeline: the device, the objects made on it, the window of frames and the
pool of surfaces. Frames go in with `input` and come out with `output`:

* `open?` makes the session, `close` takes it apart;
* `reconfigure` sets it up for a stream; until then, and after a failure, it has no pool;
* `input` takes one frame or the end of the stream; frames in memory are uploaded;
* `output` gives the next picture, or nothing when more input is needed.

A frame that is handed to `input` belongs to the session from then on. A frame that `output` gives
belongs to the caller, who gives it back with `dropFrame`.
-/
namespace Deinterlace

/-- How many outputs there have been of each kind. -/
structure Stats where
  rendered : Nat := 0
  passedThrough : Nat := 0
  failed : Nat := 0
deriving DecidableEq, Repr

/-- An open pipeline on a device with states `σ`. -/
structure Session (σ : Type) where
  device : σ
  config : ConfigId
  context : ContextId
  chain : Chain
  window : Window := {}
  /-- Where surfaces for uploads and pictures come from. -/
  pool : Option PoolId := none
  /-- The stream the session is set up for. -/
  params : Option StreamParams := none
  /-- Whether deinterlacing is switched on. -/
  deinterlacing : Bool
  stats : Stats := {}

namespace Session

variable {σ : Type} [Device σ]

/-- Opens a pipeline. If that fails, everything made so far has been destroyed and the device
closed. -/
def open? (options : Options) (device : σ) : Except (Error × σ) (Session σ) :=
  match Device.createConfig device with
  | (.error e, device) => .error (.openingFailed e, Device.close device)
  | (.ok config, device) =>
    match Device.createContext config device with
    | (.error e, device) =>
      .error (.openingFailed e, Device.close (Device.destroyConfig config device))
    | (.ok context, device) =>
      match Chain.build context options device with
      | (.error e, device) =>
        .error (e, Device.close
          (Device.destroyConfig config (Device.destroyContext context device)))
      | (.ok chain, device) =>
        .ok { device, config, context, chain, deinterlacing := options.mode.isEnabled }

/-- Puts a window in place of the present one and gives back the frames it no longer holds. -/
def setWindow (s : Session σ) (later : Window) : Session σ :=
  { s with
    window := later
    device := Device.releaseFrames (s.window.retired later) s.device }

/-- Gives the pool up. -/
def closePool (s : Session σ) : Session σ :=
  match s.pool with
  | some pool => { s with pool := none, device := Device.closePool pool s.device }
  | none => s

/-- Gives a frame back that `output` gave. -/
def dropFrame (s : Session σ) (frame : Frame) : Session σ :=
  { s with device := Device.releaseFrame frame s.device }

/-- Makes a second holder of a frame that `output` gave. -/
def shareFrame (s : Session σ) (frame : Frame) : Session σ :=
  { s with device := Device.retainFrame frame s.device }

/-- The format in which pictures come out, for each format that goes in. -/
def outputFormat (_ : ImageFormat) : ImageFormat := .vaapi

/-- The surfaces a stream needs: those of a hardware stream are as large as the ones it comes
on. -/
def poolFor (params : StreamParams) : Option PoolDesc :=
  if params.format.isHardware then
    params.hwSurfaceSize.map fun (width, height) =>
      ⟨params.hwSubformat.getD .nv12, width, height⟩
  else some ⟨.nv12, params.width, params.height⟩

/-- The pictures that come out of a stream whose pool is given. -/
def outputParams (params : StreamParams) (pool : PoolDesc) : StreamParams :=
  ⟨.vaapi, some pool.swFormat, params.width, params.height, params.colorspace,
    some (pool.width, pool.height)⟩

/-- Forgets the stream: its frames, its pool and what was negotiated for it. -/
def forget (s : Session σ) : Session σ :=
  let s := (s.setWindow s.window.flush).closePool
  { s with params := none, chain := s.chain.invalidate }

/-- Sets the session up for a stream and tells how its pictures come out. Frames of the stream
before are discarded, also on failure. -/
def reconfigure (s : Session σ) (params : StreamParams) : Except Error StreamParams × Session σ :=
  let s := s.forget
  match poolFor params with
  | none => (.error (.reconfigurationFailed "hardware input without surface pool size"), s)
  | some desc =>
    match Device.createPool desc s.device with
    | (.error e, device) => (.error (.reconfigurationFailed e.describe), { s with device })
    | (.ok pool, device) =>
      (.ok (outputParams params desc),
        { s with device := device, pool := some pool, params := some params })

/-- Negotiates the chain if anything has changed since the last time. -/
def configure (s : Session σ) : Session σ :=
  let (chain, window, device) :=
    s.chain.configure s.context s.deinterlacing s.window s.device
  ({ s with chain, device }).setWindow window

/-- Copies a frame in memory onto a surface of the pool. When that fails the surface has gone back
to the pool. -/
def upload (pool : Option PoolId) (frame : Frame) (device : σ) : Except Error Frame × σ :=
  match pool with
  | none => (.error (.allocationFailed "no surface pool for upload"), device)
  | some pool =>
    match Device.allocate pool device with
    | (.error e, device) => (.error (.allocationFailed e.describe), device)
    | (.ok surface, device) =>
      match Device.upload pool surface frame device with
      | (.error e, device) =>
        (.error (.allocationFailed e.describe), Device.releaseSurface surface device)
      | (.ok _, device) =>
        (.ok ((Frame.ofSurface surface frame.width frame.height).withAttributesOf frame), device)

/-- Appends a frame to the window. -/
def pushFrame (s : Session σ) (frame : Frame) : Session σ :=
  { s with window := s.window.push frame }

/-- Takes the next frame of the stream, or its end. A frame in memory that cannot be uploaded is
dropped, and the stream goes on with the next one. -/
def input (s : Session σ) (frame : Option Frame) : Except Error Unit × Session σ :=
  let s := s.configure
  match frame with
  | none => (.ok (), { s with window := s.window.finish })
  | some frame =>
    if frame.format.isHardware then (.ok (), s.pushFrame frame)
    else
      let (uploaded, device) := upload s.pool frame s.device
      let s := { s with device := Device.releaseFrame frame device }
      match uploaded with
      | .error e => (.error e, s)
      | .ok uploaded => (.ok (), s.pushFrame uploaded)

/-- Whether the next output is the current frame itself. -/
def passesThrough (s : Session σ) : Bool :=
  s.chain.active.isEmpty || !s.window.shouldDeinterlace

/-- Gives the next picture: the current frame itself, or one rendered from it and the frames around
it. Nothing comes out when the window needs more input. An error costs that one picture; the window
has moved on. -/
def output (s : Session σ) : Except Error (Option Frame) × Session σ :=
  if !s.window.hasOutput then (.ok none, s)
  else
    match s.window.current? with
    | none => (.ok none, s)
    | some current =>
      if s.passesThrough then
        let s := (s.shareFrame current).setWindow s.window.advanceFrame
        (.ok (some current),
          { s with stats := { s.stats with passedThrough := s.stats.passedThrough + 1 } })
      else
        let (picture, device) :=
          Rendering.render s.context s.chain s.window s.pool current s.device
        let s := ({ s with device }).setWindow s.window.advanceField
        match picture with
        | .ok picture =>
          (.ok (some picture),
            { s with stats := { s.stats with rendered := s.stats.rendered + 1 } })
        | .error e =>
          (.error e, { s with stats := { s.stats with failed := s.stats.failed + 1 } })

/-- Discards all frames, as after a jump in the stream. -/
def seek (s : Session σ) : Session σ := s.setWindow s.window.flush

/-- Switches deinterlacing on or off, from the next input on. Has no effect, and says so, if no
deinterlacing mode was selected on opening. -/
def setDeinterlacing (s : Session σ) (on : Bool) : Bool × Session σ :=
  if s.chain.options.mode.isEnabled then (true, { s with deinterlacing := on }) else (false, s)

/-- Takes the session apart: filters, context, configuration, pool and frames, and then the device
itself. Frames that the caller still holds stay valid. -/
def close (s : Session σ) : σ :=
  let (chain, device) := s.chain.release s.device
  let device := if s.context.isValid then Device.destroyContext s.context device else device
  let device := if s.config.isValid then Device.destroyConfig s.config device else device
  Device.close (({ s with device, chain }).closePool.seek).device

end Session

end Deinterlace
