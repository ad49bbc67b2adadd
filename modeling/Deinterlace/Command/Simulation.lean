import Deinterlace.Command.Arguments
import Deinterlace.Device.Simulator
import Deinterlace.Options.Json
import Deinterlace.Options.Suboptions
import Deinterlace.Request.Json
import Deinterlace.Stream

/-!
# Simulation

The command `simulate` feeds made-up frames through a pipeline on the simulated device. It lists
every picture that comes out, the requests rendered if they are asked for, and an account of the
stream.
-/
namespace Deinterlace

namespace StreamOptions

def options (o : StreamOptions) : Except Error Options :=
  match o.json with
  | some text => Options.ofJson text
  | none => Options.ofSuboptions o.suboptions

def fields (o : StreamOptions) : FieldFlags := .ofCadence (!o.progressive) (!o.bottomFieldFirst)

end StreamOptions

namespace Simulation

/-- The surfaces of the frames begin here, clear of those the device hands out. -/
def surfaceBase : Nat := 0x1000

def frameWidth : Nat := 720

def frameHeight : Nat := 576

/-- The frame of a number; the first frame has number one. -/
def frameOf (o : StreamOptions) (n : Nat) : Frame :=
  { Frame.decoded ⟨surfaceBase + n⟩ frameWidth frameHeight with
    fields := o.fields
    pts := some (Float.ofNat n / o.rate) }

def frames (o : StreamOptions) : List Frame :=
  (List.range o.frames).map fun i => frameOf o (i + 1)

def deviceFor (o : SimulateOptions) : Simulator :=
  let device := ({} : Simulator).withReferences o.forward o.backward
  if o.failCaps then device.failOn .queryPipelineCaps else device

def params : StreamParams := .hardware frameWidth frameHeight frameWidth frameHeight

/-- What is told of a picture that came out. -/
structure Emitted where
  surface : SurfaceId
  pts : Option Seconds
  interlaced : Bool

def Emitted.of (picture : Frame) : Emitted :=
  ⟨picture.surfaceId, picture.pts, picture.isInterlaced⟩

/-- A simulation that has come to its end. -/
structure Account where
  emitted : List Emitted
  submissions : List Simulator.Submission
  summary : Summary
  stats : Stats
  backwardDepth : Nat
  forwardDepth : Nat
  failure : Option Error

/-- The outcome of a stream that has been fed through a session. -/
def Account.of (p : Passage Simulator Emitted) : Account :=
  { emitted := p.emitted.toList
    submissions := p.session.device.submissions
    summary := p.summary
    stats := p.session.stats
    backwardDepth := p.session.window.backwardDepth
    forwardDepth := p.session.window.forwardDepth
    failure := p.failure }

def account (o : SimulateOptions) : Except Error Account :=
  match o.stream.options with
  | .error e => .error e
  | .ok options =>
    match Session.open? options (deviceFor o) with
    | .error (e, _) => .error e
    | .ok session =>
      match session.reconfigure params with
      | (.error e, _) => .error e
      | (.ok _, session) => .ok (.of (session.drive (frames o.stream) Emitted.of))

/-! ## Lines -/

open Json (Value)

def Emitted.line (index : Nat) (e : Emitted) : Value :=
  .object
    [("interlaced", .bool e.interlaced), ("output", .nat index),
      ("pts", .optional Value.real e.pts), ("surface", e.surface.toJson)]

/-- The lines of pictures, numbered from one. -/
def emittedLines (es : List Emitted) : List Value :=
  es.zipIdx.map fun (e, i) => e.line (i + 1)

def regionMembers (r : Rect) : Value :=
  .object [("height", .nat r.height), ("width", .nat r.width), ("x", .int r.x), ("y", .int r.y)]

def requestMembers (r : RenderRequest) : Value :=
  .object
    [("backward_references", .list Handle.toJson r.backwardReferences),
      ("colorspace", r.colorspace.toJson), ("destination", r.destination.toJson),
      ("field", r.field.toJson), ("filters", .list Handle.toJson r.filters),
      ("forward_references", .list Handle.toJson r.forwardReferences),
      ("output_region", regionMembers r.outputRegion), ("source", r.source.toJson),
      ("source_region", regionMembers r.sourceRegion)]

def submissionLine (s : Simulator.Submission) : Value :=
  .object
    [("deint_flags", .optional (fun f => .nat f.bits.toNat) s.flags),
      ("request", requestMembers s.request)]

def summaryMembers (s : Summary) : Value :=
  .object
    [("dropped_inputs", .nat s.droppedInputs), ("failed_outputs", .nat s.failedOutputs),
      ("inputs", .nat s.inputs), ("outputs", .nat s.outputs)]

def statsMembers (s : Stats) : Value :=
  .object
    [("failed", .nat s.failed), ("passed_through", .nat s.passedThrough),
      ("rendered", .nat s.rendered)]

def Account.accountLine (o : Account) : Value :=
  .object
    [("queue_depth",
        .object [("backward", .nat o.backwardDepth), ("forward", .nat o.forwardDepth)]),
      ("stats", statsMembers o.stats), ("summary", summaryMembers o.summary)]

/-- The lines of a simulation, as far as it went. -/
def Account.lines (o : Account) (requests : Bool) : List Value :=
  emittedLines o.emitted ++
    if o.failure.isSome then []
    else (if requests then o.submissions.map submissionLine else []) ++ [o.accountLine]

end Simulation

end Deinterlace
