import Deinterlace.Proofs.Session.Agreement
import Deinterlace.Proofs.Window.References

/-!
# What is made of a stream

`Reel.emissions` says what comes out of a stream and what the device is asked for, frame by frame,
without windows, depths or the order of calls: each frame itself, or the pictures of its fields with
the surfaces next to it in the stream as references. A window that stands in the stream asks for
just that (`Reel.request_eq`).
-/
namespace Deinterlace

/-- One thing that is output. -/
inductive Emission
  /-- A frame that passes through. -/
  | whole (frame : Frame)
  /-- A picture of a field of a frame, with what the device is asked for. -/
  | picture (frame : Frame) (request : RenderRequest) (flags : DeintFlags)

/-- A stream, and all that decides what is made of it. -/
structure Reel where
  options : Options
  /-- What the device needs for the filters. -/
  caps : PipelineCaps
  filters : List BufferId
  frames : List Frame

namespace Reel

variable (r : Reel)

/-- The request for the first or the second field of a frame, without a target. Where the device
fills its reference lists in the opposite order, earlier frames are the forward references. -/
def request (place : Nat) (frame : Frame) (second : Bool) : RenderRequest where
  source := frame.surfaceId
  destination := .invalid
  sourceRegion := .ofSize frame.width frame.height
  outputRegion := .ofSize frame.width frame.height
  field := if frame.topFieldFirst != second then .top else .bottom
  colorspace := frame.colorspace
  filters := r.filters
  forwardReferences :=
    if r.options.swapReferences then earlierSurfaces r.frames place r.caps.forwardReferences
    else laterSurfaces r.frames place r.caps.forwardReferences
  backwardReferences :=
    if r.options.swapReferences then laterSurfaces r.frames place r.caps.backwardReferences
    else earlierSurfaces r.frames place r.caps.backwardReferences

/-- The flags that the filter has for a field of a frame. -/
def flags (frame : Frame) (second : Bool) : DeintFlags :=
  ⟨(if frame.topFieldFirst != second then 0 else DeintFlags.bottomFieldBit) |||
    (if frame.topFieldFirst then 0 else DeintFlags.bottomFieldFirstBit)⟩

/-- The picture of a field of a frame. -/
def picture (place : Nat) (frame : Frame) (second : Bool) : Emission :=
  .picture frame (r.request place frame second) (flags frame second)

/-- What is made of one frame. -/
def emissionsOf (place : Nat) (frame : Frame) : List Emission :=
  if r.options.mode.isEnabled && r.options.treats frame then
    if r.options.mode.doublesFields then [r.picture place frame false, r.picture place frame true]
    else [r.picture place frame false]
  else [.whole frame]

def emissionsAt (place : Nat) : List Emission :=
  match r.frames[place]? with
  | some frame => r.emissionsOf place frame
  | none => []

/-- What is made of the stream. -/
def emissions : List Emission := (List.range r.frames.length).flatMap r.emissionsAt

/-- What has been made of a stream when `passed` frames are done, and of the next one the first
field if `second` is set. -/
def emissionsUntil (passed : Nat) (second : Bool) : List Emission :=
  (List.range passed).flatMap r.emissionsAt ++ if second then (r.emissionsAt passed).take 1 else []

theorem emissionsUntil_length : r.emissionsUntil r.frames.length false = r.emissions := by
  simp [emissionsUntil, emissions]

theorem emissionsUntil_whole {r : Reel} {passed : Nat} {frame : Frame}
    (hframe : r.frames[passed]? = some frame)
    (htreats : (r.options.mode.isEnabled && r.options.treats frame) = false) :
    r.emissionsUntil (passed + 1) false = r.emissionsUntil passed false ++ [.whole frame] := by
  simp [emissionsUntil, List.range_succ, emissionsAt, hframe, emissionsOf, htreats]

/-- A field of a frame. The second one comes after the first one, where fields are doubled, and
otherwise the next frame. -/
theorem emissionsUntil_picture {r : Reel} {passed : Nat} {frame : Frame} {second : Bool}
    (hframe : r.frames[passed]? = some frame)
    (htreats : (r.options.mode.isEnabled && r.options.treats frame) = true)
    (hsecond : second = true → r.options.mode.doublesFields = true) :
    r.emissionsUntil (if !second && r.options.mode.doublesFields then passed else passed + 1)
        (!second && r.options.mode.doublesFields) =
      r.emissionsUntil passed second ++ [r.picture passed frame second] := by
  cases second with
  | false =>
    cases hdoubles : r.options.mode.doublesFields <;>
      simp [emissionsUntil, List.range_succ, emissionsAt, hframe, emissionsOf, htreats, hdoubles]
  | true =>
    simp [emissionsUntil, List.range_succ, emissionsAt, hframe, emissionsOf, htreats,
      hsecond rfl]

end Reel

/-! ## The requests of a window -/

namespace Reel

variable {r : Reel} {w : Window} {accepted : List Frame} {passed : Nat} {frame : Frame}

/-- A window that has an output has all the later frames that it asks for or that there are. -/
theorem later_enough (hstand : w.StandsAt accepted passed) (hout : w.hasOutput = true)
    (hended : w.ended = true → accepted = r.frames) :
    passed + w.forwardDepth < accepted.length ∨ accepted = r.frames := by
  have hlt := hstand.lt_of_hasOutput hout
  have hwaiting := hstand.waiting_eq
  simp only [Window.hasOutput, Window.needsInput, Bool.and_eq_true, Bool.not_eq_true',
    Bool.and_eq_false_iff, decide_eq_false_iff_not, Nat.not_lt, Bool.not_eq_false'] at hout
  rcases hout.2 with henough | hend
  · left
    have hlook : w.forwardDepth ≤ w.lookahead := by
      unfold Window.lookahead
      split
      · exact Nat.le_max_left _ _
      · exact Nat.le_refl _
    omega
  · exact .inr (hended hend)

/-- **The request of a window that stands in a stream.** -/
theorem request_eq {c : Chain} (hstand : w.StandsAt accepted passed) (hfull : w.Full passed)
    (hvalid : ∀ x ∈ accepted, x.surfaceId.isValid = true) (hbegins : accepted <+: r.frames)
    (hended : w.ended = true → accepted = r.frames) (hcur : w.current? = some frame)
    (hshould : w.shouldDeinterlace = true) (hoptions : c.options = r.options)
    (hactive : c.active = r.filters) (hcaps : c.caps = some r.caps)
    (hdepths : (w.backwardDepth, w.forwardDepth) = Chain.windowDepths r.options r.caps)
    (target : SurfaceId) :
    { Rendering.buildRequest c w frame target with destination := .invalid } =
      r.request passed frame w.secondField := by
  have hout := Window.hasOutput_of_shouldDeinterlace hshould
  have hlt := hstand.lt_of_hasOutput hout
  have hlater : ∀ count, count ≤ w.forwardDepth →
      Rendering.references w count 1 = laterSurfaces r.frames passed count := by
    intro count hcount
    rw [Rendering.references_later hstand hvalid]
    refine laterSurfaces_of_begins hbegins hlt ?_
    rcases later_enough hstand hout hended with henough | hall
    · left
      omega
    · exact .inr hall
  have hearlier : ∀ count, count ≤ w.backwardDepth →
      Rendering.references w count (-1) = earlierSurfaces r.frames passed count := by
    intro count hcount
    rw [Rendering.references_earlier hstand hfull hvalid hcount]
    exact earlierSurfaces_of_begins hbegins (Nat.le_of_lt hlt) count
  have hfield := Rendering.fieldOf_eq hcur hshould
  cases hswap : r.options.swapReferences with
  | false =>
    simp only [Chain.windowDepths, hswap, Bool.false_eq_true, if_false, Prod.mk.injEq] at hdepths
    simp [Rendering.buildRequest, request, hoptions, hswap, hactive, hcaps, hfield,
      Chain.reportedReferences, hlater _ (Nat.le_of_eq hdepths.2.symm),
      hearlier _ (Nat.le_of_eq hdepths.1.symm)]
  | true =>
    simp only [Chain.windowDepths, hswap, if_true, Prod.mk.injEq] at hdepths
    have hforward : r.caps.forwardReferences ≤ w.backwardDepth := by
      rw [hdepths.1]
      exact Nat.le_max_left _ _
    have hbackward : r.caps.backwardReferences ≤ w.forwardDepth := by
      rw [hdepths.2]
      exact Nat.le_max_right _ _
    simp [Rendering.buildRequest, request, hoptions, hswap, hactive, hcaps, hfield,
      Chain.reportedReferences, hlater _ hbackward, hearlier _ hforward]

theorem flags_eq (hcur : w.current? = some frame) (hshould : w.shouldDeinterlace = true) :
    DeintFlags.ofField (Rendering.fieldOf w) w.topFieldFirst = flags frame w.secondField := by
  have hout := Window.hasOutput_of_shouldDeinterlace hshould
  rw [DeintFlags.ofField, Rendering.fieldOf_eq hcur hshould]
  cases htop : frame.topFieldFirst <;> cases w.secondField <;>
    simp [Window.topFieldFirst, hout, hcur, htop, flags]

end Reel

end Deinterlace
