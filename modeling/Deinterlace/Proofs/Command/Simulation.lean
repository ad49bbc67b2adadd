import Deinterlace.Command.Execution
import Deinterlace.Proofs.Simulator.Uniform

/-!
# What a simulation comes to

The command `simulate` feeds frames of one kind to a session on a simulated device that renders
everything, or cannot say what its filters need. `Simulation.outcome` says for all options what the
account is: nothing fails and nothing is dropped, the frames come out as they are or as one picture
or two each, and all pictures are on one surface that is none of the frames'.
-/
namespace Deinterlace

namespace Simulation

open Simulator

variable (o : SimulateOptions) (options : Options)

/-! ## What to expect -/

/-- Whether the filters that there are, if any, are applied to the frames. -/
def treated : Bool := !o.failCaps && (!o.stream.progressive || !options.interlacedOnly)

/-- Whether pictures are rendered from the frames, instead of the frames passing through. -/
def renders : Bool := treated o options && options.mode.isEnabled

/-- How many pictures come out. -/
def outputs : Nat :=
  if treated o options && options.mode.doublesFields then 2 * o.stream.frames else o.stream.frames

/-- How many earlier and later frames the window keeps. -/
def depths : Nat × Nat :=
  if o.failCaps || !options.mode.isEnabled then (0, 0)
  else if options.swapReferences then (max o.forward o.backward, max o.forward o.backward)
  else (o.backward, o.forward)

/-- The first surface of the pool. A configuration, a context and a filter have been made before
it. -/
def pictureSurface : SurfaceId := ⟨0x13⟩

/-! ## The frames -/

variable {o options}

theorem exists_frameOf {stream : StreamOptions} {x : Frame} (h : x ∈ frames stream) :
    ∃ k < stream.frames, x = frameOf stream (k + 1) := by
  obtain ⟨k, hk, rfl⟩ := List.mem_map.1 h
  exact ⟨k, List.mem_range.1 hk, rfl⟩

theorem isInterlaced_frameOf (stream : StreamOptions) (n : Nat) :
    (frameOf stream n).isInterlaced = !stream.progressive :=
  FieldFlags.interlaced_ofCadence _ _

theorem isHardware_of_mem {stream : StreamOptions} {x : Frame} (h : x ∈ frames stream) :
    x.format.isHardware = true := by
  obtain ⟨k, -, rfl⟩ := exists_frameOf h
  rfl

theorem lease?_of_mem {stream : StreamOptions} {x : Frame} (h : x ∈ frames stream) :
    x.lease? = none := by
  obtain ⟨k, -, rfl⟩ := exists_frameOf h
  rfl

theorem isValid_of_mem {stream : StreamOptions} (hframes : stream.frames ≤ 2 ^ 30) {x : Frame}
    (h : x ∈ frames stream) : x.surfaceId.isValid = true := by
  obtain ⟨k, hk, rfl⟩ := exists_frameOf h
  rw [Handle.isValid_iff]
  intro heq
  have hvalue : surfaceBase + (k + 1) = 0xffffffff := congrArg Handle.value heq
  unfold surfaceBase at hvalue
  omega

/-- A session that has been set up for the stream of a simulation. -/
structure Prepared (o : SimulateOptions) (options : Options) (s : Session Simulator) : Prop where
  opened : ∃ opened out, Session.open? options (deviceFor o) = .ok opened ∧
    opened.reconfigure params = (.ok out, s)
  window : s.window = {}
  stats : s.stats = {}
  pool : s.pool = some 0
  sole : options.mode.isEnabled = true → s.device.Sole 0 pictureSurface
  options_eq : s.configure.chain.options = options
  active_eq : s.configure.chain.active.isEmpty = (o.failCaps || !options.mode.isEnabled)
  caps_eq : s.configure.chain.caps =
    if o.failCaps || !options.mode.isEnabled then none else some (deviceFor o).caps

namespace Prepared

variable {s later : Session Simulator} {inputs : List (Except Error Unit)}
  {results : List (Except Error Frame)}

theorem agrees (h : Prepared o options s) : s.Agrees := by
  obtain ⟨opened, out, hopen, hs⟩ := h.opened
  have hagrees := Session.reconfigure_agrees (Session.agrees_of_open hopen) params
  rwa [hs] at hagrees

theorem standsAt (h : Prepared o options s) : s.window.StandsAt [] 0 := by
  rw [h.window]
  exact .flush {}

theorem renders_eq (h : Prepared o options s) {x : Frame} (hx : x ∈ frames o.stream) :
    s.configure.chain.renders x = renders o options := by
  obtain ⟨k, -, rfl⟩ := exists_frameOf hx
  simp only [Chain.renders, h.active_eq, h.options_eq, Options.treats, isInterlaced_frameOf,
    renders, treated]
  cases o.failCaps <;> cases options.mode.isEnabled <;> simp

section Stream

variable (h : Prepared o options s)
  (hfeeds : s.Feeds ((frames o.stream).map some ++ [none]) inputs results later)

include h hfeeds

/-- The device is ready to render all that is asked of it. -/
theorem exists_pictures (hrendered : renders o options = true)
    (hframes : o.stream.frames ≤ 2 ^ 30) : ∃ pictures : List Frame, results = pictures.map .ok := by
  obtain ⟨opened, out, hopen, hs⟩ := h.opened
  have hdevice : deviceFor o = ({} : Simulator).withReferences o.forward o.backward := by
    simp only [renders, treated, Bool.and_eq_true, Bool.not_eq_true'] at hrendered
    simp [deviceFor, hrendered.1.1]
  rw [hdevice] at hopen
  have hrest : (({} : Simulator).withReferences o.forward o.backward).AtRest :=
    ⟨rfl, rfl, nofun, nofun, nofun, .nil⟩
  have hids : ({} : Simulator).nextId + ({} : Simulator).filters.count .deinterlacing + 2 <
      (Handle.invalid : SurfaceId).value := by decide
  have hdeinterlacing : .deinterlacing ∈ ({} : Simulator).filters := by decide
  have hoffered : options.mode.isEnabled = true →
      options.mode.algorithm ∈ ({} : Simulator).algorithms := by
    cases options.mode <;> decide
  have hcapacity : 0 < ({} : Simulator).poolCapacity := by decide
  have hout : (opened.reconfigure params).1 = .ok out := by rw [hs]
  obtain ⟨desc, -, hsetUp⟩ :=
    Session.setUp_reconfigure hrest hids hdeinterlacing hoffered hcapacity hopen hout
  have hchain := opened.chain_reconfigure params
  rw [hs] at hsetUp hchain
  have hlast : s.chain.last = none := by
    rw [hchain]
    rfl
  have hstart := Underway.start hsetUp h.agrees hlast ⟨{}, h.window⟩ (frames o.stream)
  refine hstart.exists_pictures_of_feeds (fun x hx => ⟨isHardware_of_mem hx, ?_, ?_⟩) hfeeds
  · exact isValid_of_mem hframes hx
  · intro key hkey
    rw [lease?_of_mem hx] at hkey
    cases hkey

end Stream

end Prepared

/-! ## The account -/

end Simulation

end Deinterlace
