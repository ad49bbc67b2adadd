import Deinterlace.Session
import Mathlib.Tactic.Common

/-!
# Calls on a session

Everything that a caller can do to an open session is a `Call`. This module says once what each of
them does: `Chain.configure_cases` lists the outcomes of a negotiation, `Rendering.submit_cases` and
`Rendering.render_cases` those of rendering a picture, `Session.input_cases` those of an input and
`Session.output_cases` those of an output. Statements about whole runs are proved from these and
open none of the operations.
-/
namespace Deinterlace

/-! ## Fields -/

theorem Window.hasOutput_of_shouldDeinterlace {w : Window} (h : w.shouldDeinterlace = true) :
    w.hasOutput = true := by
  simp only [shouldDeinterlace, Bool.and_eq_true] at h
  exact h.1.1

theorem Rendering.fieldOf_eq {w : Window} {frame : Frame} (hcur : w.current? = some frame)
    (hshould : w.shouldDeinterlace = true) :
    fieldOf w = if frame.topFieldFirst != w.secondField then .top else .bottom := by
  have hout := Window.hasOutput_of_shouldDeinterlace hshould
  simp [fieldOf, hshould, Window.isTopField, Window.topFieldFirst, hout, hcur]

variable {σ : Type} [Device σ]

/-! ## Negotiations -/

namespace Chain

def keyFor (c : Chain) (on : Bool) : ChainKey := ⟨c.filtersFor on, on⟩

/-- A chain whose frames pass through, after a negotiation about `key`. -/
def idle (c : Chain) (key : ChainKey) : Chain :=
  { c with active := [], caps := none, last := some key }

/-- A chain whose filters are applied, after a negotiation about `key`. -/
def inForce (c : Chain) (key : ChainKey) (caps : PipelineCaps) : Chain :=
  { c with active := key.filters, caps := some caps, last := some key }

/-- Why frames pass through after a negotiation: there is no filter to apply, or the device cannot
say what the filters need. -/
def Declined (context : ContextId) (key : ChainKey) (device later : σ) : Prop :=
  (key.filters = [] ∧ later = device) ∨
    ∃ e, Device.queryCaps context key.filters device = (.error e, later)

theorem configure_eq (c : Chain) (context : ContextId) (on : Bool) (w : Window) (device : σ) :
    c.configure context on w device =
      if c.last = some (c.keyFor on) then (c, w, device)
      else if (c.keyFor on).filters.isEmpty then (c.idle (c.keyFor on), passThrough w, device)
      else
        match Device.queryCaps context (c.keyFor on).filters device with
        | (.error _, later) => (c.idle (c.keyFor on), passThrough w, later)
        | (.ok caps, later) =>
          (c.inForce (c.keyFor on) caps, fitWindow c.options on caps w, later) :=
  rfl

/-- The three outcomes of a negotiation: nothing is done, frames pass through, or filters are
applied. -/
theorem configure_cases (c : Chain) (context : ContextId) (on : Bool) (w : Window) (device : σ) :
    (c.last = some (c.keyFor on) ∧ c.configure context on w device = (c, w, device)) ∨
    (c.last ≠ some (c.keyFor on) ∧ ∃ later, Declined context (c.keyFor on) device later ∧
      c.configure context on w device = (c.idle (c.keyFor on), passThrough w, later)) ∨
    (c.last ≠ some (c.keyFor on) ∧ (c.keyFor on).filters ≠ [] ∧ ∃ caps later,
      Device.queryCaps context (c.keyFor on).filters device = (.ok caps, later) ∧
      c.configure context on w device =
        (c.inForce (c.keyFor on) caps, fitWindow c.options on caps w, later)) := by
  rw [configure_eq]
  by_cases hlast : c.last = some (c.keyFor on)
  · exact .inl ⟨hlast, if_pos hlast⟩
  · rw [if_neg hlast]
    by_cases hempty : (c.keyFor on).filters = []
    · refine .inr (.inl ⟨hlast, device, .inl ⟨hempty, rfl⟩, ?_⟩)
      rw [if_pos (List.isEmpty_iff.2 hempty)]
    · rw [if_neg (mt List.isEmpty_iff.1 hempty)]
      rcases hq : Device.queryCaps context (c.keyFor on).filters device with ⟨e | caps, later⟩
      · exact .inr (.inl ⟨hlast, later, .inr ⟨e, hq⟩, rfl⟩)
      · exact .inr (.inr ⟨hlast, hempty, caps, later, rfl, rfl⟩)

end Chain

/-! ## Pictures -/

namespace Rendering

/-- The outcomes of a submission. It is given up when the picture cannot be begun, when the flags
cannot be set or when the request's buffer cannot be made. Once there is a buffer, the picture is
ended and the buffer destroyed whatever comes of it. -/
theorem submit_cases (context : ContextId) (buffer : Option BufferId) (flags : DeintFlags)
    (request : RenderRequest) (d : σ) :
    (∃ e d₁, Device.beginPicture context request.destination d = (.error e, d₁) ∧
      submit context buffer flags request d = (.error e, d₁)) ∨
    (∃ d₁ e d₂, Device.beginPicture context request.destination d = (.ok (), d₁) ∧
      applyFlags buffer flags d₁ = (.error e, d₂) ∧
      submit context buffer flags request d = (.error e, (Device.endPicture context d₂).2)) ∨
    (∃ d₁ d₂ e d₃, Device.beginPicture context request.destination d = (.ok (), d₁) ∧
      applyFlags buffer flags d₁ = (.ok (), d₂) ∧
      Device.createRequest context request d₂ = (.error e, d₃) ∧
      submit context buffer flags request d = (.error e, (Device.endPicture context d₃).2)) ∨
    (∃ d₁ d₂ id d₃ result d₄, Device.beginPicture context request.destination d = (.ok (), d₁) ∧
      applyFlags buffer flags d₁ = (.ok (), d₂) ∧
      Device.createRequest context request d₂ = (.ok id, d₃) ∧
      Device.renderPicture context [id] d₃ = (result, d₄) ∧
      submit context buffer flags request d =
        (result.bind fun _ => (Device.endPicture context d₄).1,
          Device.destroyBuffer id (Device.endPicture context d₄).2)) := by
  rcases hbegin : Device.beginPicture context request.destination d with ⟨e | _, d₁⟩
  · exact .inl ⟨e, d₁, rfl, by simp only [submit, hbegin]⟩
  rcases hflags : applyFlags buffer flags d₁ with ⟨e | _, d₂⟩
  · exact .inr (.inl ⟨d₁, e, d₂, rfl, hflags, by simp only [submit, hbegin, hflags, abandon]⟩)
  rcases hcreate : Device.createRequest context request d₂ with ⟨e | id, d₃⟩
  · exact .inr (.inr (.inl ⟨d₁, d₂, e, d₃, rfl, hflags, hcreate,
      by simp only [submit, hbegin, hflags, hcreate, abandon]⟩))
  rcases hrender : Device.renderPicture context [id] d₃ with ⟨e | _, d₄⟩ <;>
    refine .inr (.inr (.inr ⟨d₁, d₂, id, d₃, _, d₄, rfl, hflags, hcreate, hrender, ?_⟩)) <;>
    simp only [submit, hbegin, hflags, hcreate, hrender, abandon] <;> rfl

/-- What every step of a submission keeps, the submission keeps. -/
theorem submit_induction {context : ContextId} {P : σ → Prop}
    (hbegin : ∀ target d, P d → P (Device.beginPicture context target d).2)
    (hflags : ∀ id flags d, P d → P (Device.updateFlags id flags d).2)
    (hcreate : ∀ request d, P d → P (Device.createRequest context request d).2)
    (hrender : ∀ ids d, P d → P (Device.renderPicture context ids d).2)
    (hend : ∀ d, P d → P (Device.endPicture context d).2)
    (hdestroy : ∀ id d, P d → P (Device.destroyBuffer id d)) (buffer : Option BufferId)
    (flags : DeintFlags) (request : RenderRequest) {d : σ} (h : P d) :
    P (submit context buffer flags request d).2 := by
  have happly : ∀ d, P d → P (applyFlags buffer flags d).2 := by
    intro d hd
    cases buffer with
    | none => exact hd
    | some id => exact hflags id flags d hd
  have hbegun := hbegin request.destination d h
  rcases submit_cases context buffer flags request d with ⟨e, d₁, h₁, heq⟩ |
    ⟨d₁, e, d₂, h₁, h₂, heq⟩ | ⟨d₁, d₂, e, d₃, h₁, h₂, h₃, heq⟩ |
    ⟨d₁, d₂, id, d₃, result, d₄, h₁, h₂, h₃, h₄, heq⟩ <;> rw [heq] <;> rw [h₁] at hbegun
  · exact hbegun
  · have hset := happly d₁ hbegun
    rw [h₂] at hset
    exact hend d₂ hset
  · have hmade := hcreate request d₂ (by simpa only [h₂] using happly d₁ hbegun)
    rw [h₃] at hmade
    exact hend d₃ hmade
  · have hmade := hcreate request d₂ (by simpa only [h₂] using happly d₁ hbegun)
    rw [h₃] at hmade
    have hdone := hrender [id] d₃ hmade
    rw [h₄] at hdone
    exact hdestroy id _ (hend d₄ hdone)

/-- The outcomes of rendering: there is no surface to render from or onto, the submission fails and
the target goes back, or there is a picture on the target. -/
theorem render_cases (context : ContextId) (c : Chain) (w : Window) (pool : Option PoolId)
    (current : Frame) (d : σ) :
    (∃ e, render context c w pool current d = (.error e, d)) ∨
    (∃ p e later, pool = some p ∧ Device.allocate p d = (.error e, later) ∧
      render context c w pool current d = (.error (.allocationFailed e.describe), later)) ∨
    (∃ p target lent e, pool = some p ∧ Device.allocate p d = (.ok target, lent) ∧
      render context c w pool current d = (.error e, Device.releaseSurface target lent)) ∨
    (∃ p target lent e later, pool = some p ∧ Device.allocate p d = (.ok target, lent) ∧
      submit context c.deinterlaceBuffer? (.ofField (fieldOf w) w.topFieldFirst)
        (buildRequest c w current target.id) lent = (.error e, later) ∧
      render context c w pool current d =
        (.error (.submissionFailed e), Device.releaseSurface target later)) ∨
    (∃ p target lent later, pool = some p ∧ Device.allocate p d = (.ok target, lent) ∧
      submit context c.deinterlaceBuffer? (.ofField (fieldOf w) w.topFieldFirst)
        (buildRequest c w current target.id) lent = (.ok (), later) ∧
      render context c w pool current d = (.ok (pictureOf w current target), later)) := by
  cases hcurrent : current.surfaceId.isValid with
  | false =>
    exact .inl ⟨.submissionFailed notOnDevice,
      by simp only [render, hcurrent, Bool.not_false, if_true]⟩
  | true =>
    rcases pool with _ | p
    · refine .inl ⟨.allocationFailed "no surface pool configured", ?_⟩
      simp only [render, hcurrent, Bool.not_true, Bool.false_eq_true, if_false]
    rcases hallocate : Device.allocate p d with ⟨e | target, lent⟩
    · refine .inr (.inl ⟨p, e, lent, rfl, hallocate, ?_⟩)
      simp only [render, hcurrent, hallocate, Bool.not_true, Bool.false_eq_true, if_false]
    cases hvalid : target.id.isValid with
    | false =>
      refine .inr (.inr (.inl ⟨p, target, lent,
        .allocationFailed "pool returned an invalid surface", rfl, hallocate, ?_⟩))
      simp only [render, hcurrent, hallocate, hvalid, Bool.not_true, Bool.not_false,
        Bool.false_eq_true, if_false, if_true]
    | true =>
      have hfield : (buildRequest c w current target.id).field = fieldOf w := rfl
      rcases hsubmit : submit context c.deinterlaceBuffer? (.ofField (fieldOf w) w.topFieldFirst)
        (buildRequest c w current target.id) lent with ⟨e | _, later⟩
      · refine .inr (.inr (.inr (.inl ⟨p, target, lent, e, later, rfl, hallocate, hsubmit, ?_⟩)))
        simp only [render, hcurrent, hallocate, hvalid, hfield, hsubmit, Bool.not_true,
          Bool.false_eq_true, if_false]
      · refine .inr (.inr (.inr (.inr ⟨p, target, lent, later, rfl, hallocate, hsubmit, ?_⟩)))
        simp only [render, hcurrent, hallocate, hvalid, hfield, hsubmit, Bool.not_true,
          Bool.false_eq_true, if_false]

end Rendering

/-- The outcomes of an upload: there is no surface, the frame cannot be copied and the surface goes
back, or the frame is on a surface of the pool. -/
theorem Session.upload_cases (pool : Option PoolId) (frame : Frame) (d : σ) :
    (∃ e, upload pool frame d = (.error e, d)) ∨
    (∃ p e later, pool = some p ∧ Device.allocate p d = (.error e, later) ∧
      upload pool frame d = (.error (.allocationFailed e.describe), later)) ∨
    (∃ p surface lent e later, pool = some p ∧ Device.allocate p d = (.ok surface, lent) ∧
      Device.upload p surface frame lent = (.error e, later) ∧
      upload pool frame d =
        (.error (.allocationFailed e.describe), Device.releaseSurface surface later)) ∨
    (∃ p surface lent later, pool = some p ∧ Device.allocate p d = (.ok surface, lent) ∧
      Device.upload p surface frame lent = (.ok (), later) ∧
      upload pool frame d =
        (.ok ((Frame.ofSurface surface frame.width frame.height).withAttributesOf frame),
          later)) := by
  rcases pool with _ | p
  · exact .inl ⟨_, rfl⟩
  rcases hallocate : Device.allocate p d with ⟨e | surface, lent⟩
  · exact .inr (.inl ⟨p, e, lent, rfl, hallocate, by simp only [upload, hallocate]⟩)
  rcases hupload : Device.upload p surface frame lent with ⟨e | _, later⟩
  · exact .inr (.inr (.inl ⟨p, surface, lent, e, later, rfl, hallocate, hupload,
      by simp only [upload, hallocate, hupload]⟩))
  · exact .inr (.inr (.inr ⟨p, surface, lent, later, rfl, hallocate, hupload,
      by simp only [upload, hallocate, hupload]⟩))

/-! ## The calls -/

/-- What a caller can do to an open session whose device has states `σ`. -/
inductive Session.Call (σ : Type)
  /-- Gives a frame to the session, or announces the end of the stream. -/
  | input (frame : Option Frame)
  /-- Asks for a picture and holds it. -/
  | output
  /-- Asks for a picture and gives it back at once. -/
  | take
  | seek
  | switch (on : Bool)
  | reconfigure (params : StreamParams)
  /-- Changes the device behind the session's back: calls are made to fail or to succeed again, and
  pictures that the caller holds are shared or given back. -/
  | alter (change : σ → σ)

namespace Session

/-- Asks for a picture and gives it back at once. -/
def take (s : Session σ) : Except Error (Option Frame) × Session σ :=
  match s.output with
  | (.ok (some picture), later) => (.ok (some picture), later.dropFrame picture)
  | (result, later) => (result, later)

/-- The session after a call. -/
def perform (s : Session σ) : Call σ → Session σ
  | .input frame => (s.input frame).2
  | .output => s.output.2
  | .take => s.take.2
  | .seek => s.seek
  | .switch on => (s.setDeinterlacing on).2
  | .reconfigure params => (s.reconfigure params).2
  | .alter change => { s with device := change s.device }

/-- Negotiation changes the chain and the window, and the device is asked at most once before it
gets the frames back that the window lets go of. -/
theorem configure_eq (s : Session σ) :
    s.configure =
      let negotiated := s.chain.configure s.context s.deinterlacing s.window s.device
      { s with chain := negotiated.1, device := negotiated.2.2 }.setWindow negotiated.2.1 :=
  rfl

theorem setWindow_self (s : Session σ) : s.setWindow s.window = s := by
  have hretired : s.window.retired s.window = [] := by simp [Window.retired]
  rw [setWindow, hretired]
  rfl

/-- Nothing is done if the last negotiation was about the same. -/
theorem configure_of_last {s : Session σ}
    (h : s.chain.last = some (s.chain.keyFor s.deinterlacing)) : s.configure = s := by
  rw [configure_eq, Chain.configure_eq, if_pos h]
  exact s.setWindow_self

/-- The outcomes of an input: the end of the stream is noted, a frame is appended to the window, or
a frame in memory cannot be uploaded and is dropped. -/
theorem input_cases (s : Session σ) (frame : Option Frame) :
    (frame = none ∧
      s.input frame = (.ok (), { s.configure with window := s.configure.window.finish })) ∨
    (∃ given, frame = some given ∧ given.format.isHardware = true ∧
      s.input frame = (.ok (), s.configure.pushFrame given)) ∨
    (∃ given uploaded device, frame = some given ∧ given.format.isHardware = false ∧
      s.input frame = (.ok (), { s.configure with device }.pushFrame uploaded)) ∨
    (∃ given e device, frame = some given ∧ given.format.isHardware = false ∧
      s.input frame = (.error e, { s.configure with device })) := by
  cases frame with
  | none => exact .inl ⟨rfl, rfl⟩
  | some given =>
    refine .inr ?_
    cases hhard : given.format.isHardware with
    | true => exact .inl ⟨given, rfl, hhard, by simp only [input, hhard, if_true]⟩
    | false =>
      refine .inr ?_
      rcases hup : upload s.configure.pool given s.configure.device with ⟨e | uploaded, device⟩
      · refine .inr ⟨given, e, Device.releaseFrame given device, rfl, hhard, ?_⟩
        simp only [input, hhard, Bool.false_eq_true, if_false, hup]
      · refine .inl ⟨given, uploaded, Device.releaseFrame given device, rfl, hhard, ?_⟩
        simp only [input, hhard, Bool.false_eq_true, if_false, hup]

/-- The outcomes of an output: there is nothing to give, the current frame passes through, or a
picture is rendered from it, which may fail. -/
theorem output_cases (s : Session σ) :
    (s.window.hasOutput = false ∧ s.output = (.ok none, s)) ∨
    (∃ frame, s.window.hasOutput = true ∧ s.window.current? = some frame ∧
      s.passesThrough = true ∧
      s.output = (.ok (some frame),
        { (s.shareFrame frame).setWindow s.window.advanceFrame with
          stats := { s.stats with passedThrough := s.stats.passedThrough + 1 } })) ∨
    (∃ frame picture device stats, s.window.hasOutput = true ∧ s.window.current? = some frame ∧
      s.passesThrough = false ∧
      Rendering.render s.context s.chain s.window s.pool frame s.device = (picture, device) ∧
      s.output = (picture.map some,
        { { s with device }.setWindow s.window.advanceField with stats })) := by
  cases hout : s.window.hasOutput with
  | false => exact .inl ⟨rfl, by simp only [output, hout, Bool.not_false, if_true]⟩
  | true =>
    refine .inr ?_
    have hcur : s.window.current?.isSome = true := by
      simp only [Window.hasOutput, Bool.and_eq_true] at hout
      exact hout.1
    obtain ⟨frame, hframe⟩ := Option.isSome_iff_exists.1 hcur
    cases hpass : s.passesThrough with
    | true =>
      refine .inl ⟨frame, rfl, hframe, rfl, ?_⟩
      simp only [output, hout, Bool.not_true, Bool.false_eq_true, if_false, hframe, hpass,
        if_true]
      rfl
    | false =>
      refine .inr ?_
      rcases hren : Rendering.render s.context s.chain s.window s.pool frame s.device with
        ⟨e | picture, device⟩
      · refine ⟨frame, .error e, device, { s.stats with failed := s.stats.failed + 1 }, rfl,
          hframe, rfl, hren, ?_⟩
        simp only [output, hout, Bool.not_true, Bool.false_eq_true, if_false, hframe, hpass, hren]
        rfl
      · refine ⟨frame, .ok picture, device, { s.stats with rendered := s.stats.rendered + 1 }, rfl,
          hframe, rfl, hren, ?_⟩
        simp only [output, hout, Bool.not_true, Bool.false_eq_true, if_false, hframe, hpass, hren]
        rfl

/-- Frames on the device go straight into the window. -/
theorem input_of_hardware (s : Session σ) {frame : Option Frame}
    (hhard : ∀ x, frame = some x → x.format.isHardware = true) :
    ∃ w, (s.input frame).2 = { s.configure with window := w } ∧
      (frame = none ∧ w = s.configure.window.finish ∨
        ∃ x, frame = some x ∧ w = s.configure.window.push x) := by
  rcases s.input_cases frame with ⟨hnone, heq⟩ | ⟨x, hsome, -, heq⟩ |
    ⟨x, uploaded, device, hsome, hsoft, -⟩ | ⟨x, e, device, hsome, hsoft, -⟩
  · exact ⟨s.configure.window.finish, by rw [heq], .inl ⟨hnone, rfl⟩⟩
  · exact ⟨s.configure.window.push x, by rw [heq]; rfl, .inr ⟨x, hsome, rfl⟩⟩
  all_goals
    rw [hhard x hsome] at hsoft
    cases hsoft

theorem output_of_idle {s : Session σ} (hout : s.window.hasOutput = false) :
    s.output = (.ok none, s) := by
  rcases s.output_cases with ⟨-, heq⟩ | ⟨_, hsome, -⟩ | ⟨_, _, _, _, hsome, -⟩
  · exact heq
  · cases hout.symm.trans hsome
  · cases hout.symm.trans hsome

theorem output_of_passed {s : Session σ} {frame : Frame} (hout : s.window.hasOutput = true)
    (hcur : s.window.current? = some frame) (hpass : s.passesThrough = true) :
    s.output = (.ok (some frame), { (s.shareFrame frame).setWindow s.window.advanceFrame with
      stats := { s.stats with passedThrough := s.stats.passedThrough + 1 } }) := by
  rcases s.output_cases with ⟨hnone, -⟩ | ⟨given, -, hgiven, -, heq⟩ |
    ⟨given, picture, device, stats, -, -, hrender, -⟩
  · rw [hout] at hnone
    cases hnone
  · rw [hcur] at hgiven
    cases hgiven
    exact heq
  · rw [hpass] at hrender
    cases hrender

theorem output_of_rendered {s : Session σ} {frame : Frame} {picture : Except Error Frame}
    {device : σ} (hout : s.window.hasOutput = true) (hcur : s.window.current? = some frame)
    (hpass : s.passesThrough = false)
    (hrender : Rendering.render s.context s.chain s.window s.pool frame s.device =
      (picture, device)) :
    ∃ stats, s.output = (picture.map some,
      { { s with device }.setWindow s.window.advanceField with stats }) := by
  rcases s.output_cases with ⟨hnone, -⟩ | ⟨_, -, -, hpass', -⟩ |
    ⟨given, picture', device', stats, -, hgiven, -, hrender', heq⟩
  · rw [hout] at hnone
    cases hnone
  · rw [hpass] at hpass'
    cases hpass'
  · rw [hcur] at hgiven
    cases hgiven
    cases hrender.symm.trans hrender'
    exact ⟨stats, heq⟩

theorem window_output (s : Session σ) : s.output.2.window =
    if s.window.hasOutput then
      if s.passesThrough then s.window.advanceFrame else s.window.advanceField
    else s.window := by
  rcases s.output_cases with ⟨hout, heq⟩ | ⟨frame, hout, -, hpass, heq⟩ |
    ⟨frame, picture, device, stats, hout, -, hpass, -, heq⟩ <;> rw [heq, hout]
  · rfl
  · rw [hpass]
    rfl
  · rw [hpass]
    rfl

/-- Setting a session up for a stream makes it forget the stream before; apart from that it changes
the device, the pool and the stream it is set up for. -/
theorem reconfigure_cases (s : Session σ) (params : StreamParams) :
    (∃ e device, s.reconfigure params = (.error e, { s.forget with device })) ∨
    ∃ desc pool device, poolFor params = some desc ∧
      Device.createPool desc s.forget.device = (.ok pool, device) ∧
      s.reconfigure params = (.ok (outputParams params desc),
        { s.forget with device := device, pool := some pool, params := some params }) := by
  rcases hpool : poolFor params with _ | desc
  · exact .inl ⟨_, s.forget.device, by simp only [reconfigure, hpool]; rfl⟩
  · rcases hmade : Device.createPool desc s.forget.device with ⟨e | pool, device⟩
    · exact .inl ⟨_, device, by simp only [reconfigure, hpool, hmade]; rfl⟩
    · exact .inr ⟨desc, pool, device, rfl, hmade, by simp only [reconfigure, hpool, hmade]⟩

theorem chain_forget (s : Session σ) : s.forget.chain = s.chain.invalidate := by
  unfold forget closePool
  split <;> rfl

theorem window_forget (s : Session σ) : s.forget.window = s.window.flush := by
  unfold forget closePool
  split <;> rfl

theorem deinterlacing_forget (s : Session σ) : s.forget.deinterlacing = s.deinterlacing := by
  unfold forget closePool
  split <;> rfl

theorem chain_reconfigure (s : Session σ) (params : StreamParams) :
    (s.reconfigure params).2.chain = s.chain.invalidate := by
  rcases s.reconfigure_cases params with ⟨e, device, heq⟩ | ⟨desc, pool, device, -, -, heq⟩ <;>
    rw [heq] <;> exact s.chain_forget

theorem window_reconfigure (s : Session σ) (params : StreamParams) :
    (s.reconfigure params).2.window = s.window.flush := by
  rcases s.reconfigure_cases params with ⟨e, device, heq⟩ | ⟨desc, pool, device, -, -, heq⟩ <;>
    rw [heq] <;> exact s.window_forget

/-- Giving a picture back at once makes no difference to the outcome, and to the device only. -/
theorem take_cases (s : Session σ) :
    s.take.1 = s.output.1 ∧ ∃ device, s.take.2 = { s.output.2 with device } := by
  rcases hout : s.output with ⟨e | _ | picture, later⟩
  · exact ⟨by simp only [take, hout], later.device, by simp only [take, hout]⟩
  · exact ⟨by simp only [take, hout], later.device, by simp only [take, hout]⟩
  · exact ⟨by simp only [take, hout], _, by simp only [take, hout]; rfl⟩

end Session

end Deinterlace
