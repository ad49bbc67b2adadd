import Deinterlace.Proofs.Session.Call

/-!
# The calls of an output

`Traced σ` is a device that passes every call on to a device with states `σ` and writes down the
calls with which pictures are rendered, each with its outcome. A session on it behaves as it does on
the device itself, and what an output writes down is a `Rendering.Transcript`
(`Session.output_traced`).
-/
namespace Deinterlace

/-- A call with which pictures are rendered, and its outcome. -/
inductive Device.Event
  | beginPicture (target : SurfaceId) (result : Except DeviceError Unit)
  | updateFlags (buffer : BufferId) (flags : DeintFlags) (result : Except DeviceError Unit)
  | createRequest (request : RenderRequest) (result : Except DeviceError BufferId)
  | renderPicture (buffers : List BufferId) (result : Except DeviceError Unit)
  | endPicture (result : Except DeviceError Unit)
  | destroyBuffer (buffer : BufferId)

/-- A device that writes down how pictures are rendered on it. -/
structure Traced (σ : Type) where
  device : σ
  /-- Latest first. -/
  events : List Device.Event := []

variable {σ : Type} [Device σ]

namespace Traced

variable {α : Type}

/-- A call that is not written down. -/
def quietly (call : σ → Outcome σ α) (t : Traced σ) : Outcome (Traced σ) α :=
  ((call t.device).1, { t with device := (call t.device).2 })

/-- A call that is written down. -/
def noting (event : Except DeviceError α → Device.Event) (call : σ → Outcome σ α) (t : Traced σ) :
    Outcome (Traced σ) α :=
  ((call t.device).1, ⟨(call t.device).2, event (call t.device).1 :: t.events⟩)

/-- A change that is not written down. -/
def map (change : σ → σ) (t : Traced σ) : Traced σ := { t with device := change t.device }

instance : Device (Traced σ) where
  name := Device.name σ
  createConfig := quietly Device.createConfig
  destroyConfig config := map (Device.destroyConfig config)
  createContext config := quietly (Device.createContext config)
  destroyContext context := map (Device.destroyContext context)
  queryFilters context := quietly (Device.queryFilters context)
  queryAlgorithms context := quietly (Device.queryAlgorithms context)
  createFilter context algorithm flags := quietly (Device.createFilter context algorithm flags)
  updateFlags buffer flags := noting (.updateFlags buffer flags) (Device.updateFlags buffer flags)
  queryCaps context filters := quietly (Device.queryCaps context filters)
  beginPicture context target := noting (.beginPicture target) (Device.beginPicture context target)
  createRequest context request :=
    noting (.createRequest request) (Device.createRequest context request)
  renderPicture context buffers :=
    noting (.renderPicture buffers) (Device.renderPicture context buffers)
  endPicture context := noting .endPicture (Device.endPicture context)
  destroyBuffer buffer t :=
    ⟨Device.destroyBuffer buffer t.device, .destroyBuffer buffer :: t.events⟩
  createPool desc := quietly (Device.createPool desc)
  closePool pool := map (Device.closePool pool)
  allocate pool := quietly (Device.allocate pool)
  upload pool target frame := quietly (Device.upload pool target frame)
  retain key := map (Device.retain key)
  release key := map (Device.release key)
  close := map Device.close

/-- The device after `events`, in order. -/
def after (t : Traced σ) (device : σ) (events : List Device.Event) : Traced σ :=
  ⟨device, events.reverse ++ t.events⟩

omit [Device σ] in
theorem noting_after (event : Except DeviceError α → Device.Event) {call : σ → Outcome σ α}
    (t : Traced σ) (events : List Device.Event) {d later : σ} {result : Except DeviceError α}
    (h : call d = (result, later)) :
    noting event call (t.after d events) = (result, t.after later (events ++ [event result])) := by
  simp [noting, after, h]

/-! ## Frames -/

theorem retainFrame_eq (frame : Frame) (t : Traced σ) :
    Device.retainFrame frame t = t.after (Device.retainFrame frame t.device) [] := by
  unfold Device.retainFrame
  cases frame.lease? <;> rfl

theorem releaseFrame_eq (frame : Frame) (t : Traced σ) :
    Device.releaseFrame frame t = t.after (Device.releaseFrame frame t.device) [] := by
  unfold Device.releaseFrame
  cases frame.lease? <;> rfl

theorem releaseSurface_eq (surface : Surface) (t : Traced σ) :
    Device.releaseSurface surface t = t.after (Device.releaseSurface surface t.device) [] := by
  unfold Device.releaseSurface
  cases surface.lease <;> rfl

theorem releaseFrames_eq (frames : List Frame) (t : Traced σ) :
    Device.releaseFrames frames t = t.after (Device.releaseFrames frames t.device) [] := by
  unfold Device.releaseFrames
  induction frames generalizing t with
  | nil => rfl
  | cons frame rest ih =>
    rw [List.foldl_cons, List.foldl_cons, releaseFrame_eq, ih]
    rfl

end Traced

/-! ## Transcripts -/

namespace Rendering

open Device (Event)

/-- The setting of the flags, if there is a filter whose flags are set. -/
def flagEvents (buffer : Option BufferId) (flags : DeintFlags) : List Event :=
  buffer.toList.map fun id => .updateFlags id flags (.ok ())

/-- What is written down of a submission with the given outcome. -/
inductive Transcript (buffer : Option BufferId) (flags : DeintFlags) (request : RenderRequest) :
    Except DeviceError Unit → List Event → Prop
  | refused (e : DeviceError) :
      Transcript buffer flags request (.error e) [.beginPicture request.destination (.error e)]
  | unset {id : BufferId} (hbuffer : buffer = some id) (e : DeviceError)
      (ended : Except DeviceError Unit) :
      Transcript buffer flags request (.error e)
        [.beginPicture request.destination (.ok ()), .updateFlags id flags (.error e),
          .endPicture ended]
  | unmade (e : DeviceError) (ended : Except DeviceError Unit) :
      Transcript buffer flags request (.error e)
        (.beginPicture request.destination (.ok ()) :: flagEvents buffer flags ++
          [.createRequest request (.error e), .endPicture ended])
  | made (id : BufferId) (rendered ended : Except DeviceError Unit) :
      Transcript buffer flags request (rendered.bind fun _ => ended)
        (.beginPicture request.destination (.ok ()) :: flagEvents buffer flags ++
          [.createRequest request (.ok id), .renderPicture [id] rendered, .endPicture ended,
            .destroyBuffer id])

/-- What is written down when the field that the window is on is rendered. -/
inductive Report (c : Chain) (w : Window) (current : Frame) :
    Except Error Frame → List Event → Prop
  | unreached (e : Error) : Report c w current (.error e) []
  | failed (target : Surface) {e : DeviceError} {events : List Event}
      (h : Transcript c.deinterlaceBuffer? (.ofField (fieldOf w) w.topFieldFirst)
        (buildRequest c w current target.id) (.error e) events) :
      Report c w current (.error (.submissionFailed e)) events
  | done (target : Surface) {events : List Event}
      (h : Transcript c.deinterlaceBuffer? (.ofField (fieldOf w) w.topFieldFirst)
        (buildRequest c w current target.id) (.ok ()) events) :
      Report c w current (.ok (pictureOf w current target)) events

variable {context : ContextId} {buffer : Option BufferId} {flags : DeintFlags}
  {request : RenderRequest}

theorem applyFlags_traced (t : Traced σ) (events : List Event) {d later : σ}
    (h : applyFlags buffer flags d = (.ok (), later)) :
    applyFlags buffer flags (t.after d events) =
      (.ok (), t.after later (events ++ flagEvents buffer flags)) := by
  cases buffer with
  | none =>
    cases h
    rw [flagEvents, Option.toList_none, List.map_nil, List.append_nil]
    rfl
  | some id => exact Traced.noting_after (.updateFlags id flags) t events h

/-- A submission on a traced device has the outcome that it has on the device itself, and a
transcript is left. -/
theorem submit_traced (context : ContextId) (buffer : Option BufferId) (flags : DeintFlags)
    (request : RenderRequest) (t : Traced σ) : ∃ events,
    Transcript buffer flags request (submit context buffer flags request t.device).1 events ∧
    submit context buffer flags request t =
      ((submit context buffer flags request t.device).1,
        t.after (submit context buffer flags request t.device).2 events) := by
  -- the traced device takes every step that the device takes, and has one more event after it
  have hend : ∀ d events, Device.endPicture context (t.after d events) =
      ((Device.endPicture context d).1, t.after (Device.endPicture context d).2
        (events ++ [.endPicture (Device.endPicture context d).1])) :=
    fun d events => Traced.noting_after .endPicture t events rfl
  rcases submit_cases context buffer flags request t.device with ⟨e, d₁, h₁, heq⟩ |
    ⟨d₁, e, d₂, h₁, h₂, heq⟩ | ⟨d₁, d₂, e, d₃, h₁, h₂, h₃, heq⟩ |
    ⟨d₁, d₂, id, d₃, result, d₄, h₁, h₂, h₃, h₄, heq⟩ <;> rw [heq]
  · have hbegin : Device.beginPicture context request.destination t =
        (.error e, t.after d₁ [.beginPicture request.destination (.error e)]) :=
      Traced.noting_after (.beginPicture request.destination) t [] h₁
    exact ⟨_, .refused e, by simp only [submit, hbegin]⟩
  all_goals
    have hbegin : Device.beginPicture context request.destination t =
        (.ok (), t.after d₁ [.beginPicture request.destination (.ok ())]) :=
      Traced.noting_after (.beginPicture request.destination) t [] h₁
  · cases buffer with
    | none => cases h₂
    | some id =>
      have hflags : applyFlags (some id) flags
          (t.after d₁ [.beginPicture request.destination (.ok ())]) =
            (.error e, t.after d₂ [.beginPicture request.destination (.ok ()),
              .updateFlags id flags (.error e)]) :=
        Traced.noting_after (.updateFlags id flags) t
          [.beginPicture request.destination (.ok ())] h₂
      refine ⟨_, .unset rfl e (Device.endPicture context d₂).1, ?_⟩
      simp only [submit, hbegin, hflags, abandon, hend]
      rfl
  all_goals
    have hflags := applyFlags_traced t [.beginPicture request.destination (.ok ())] h₂
    have hcreate := Traced.noting_after (.createRequest request) t
      ([.beginPicture request.destination (.ok ())] ++ flagEvents buffer flags) h₃
    change Device.createRequest context request _ = _ at hcreate
  · refine ⟨_, .unmade e (Device.endPicture context d₃).1, ?_⟩
    simp only [submit, hbegin, hflags, hcreate, abandon, hend]
    simp only [List.append_assoc, List.cons_append, List.nil_append]
  · have hrender := Traced.noting_after (.renderPicture [id]) t
      ([.beginPicture request.destination (.ok ())] ++ flagEvents buffer flags ++
        [.createRequest request (.ok id)]) h₄
    change Device.renderPicture context [id] _ = _ at hrender
    have hdestroy : ∀ d events, Device.destroyBuffer id (t.after d events) =
        t.after (Device.destroyBuffer id d) (events ++ [.destroyBuffer id]) := by
      intro d events
      show Traced.mk _ (.destroyBuffer id :: (events.reverse ++ t.events)) = _
      simp [Traced.after]
    refine ⟨_, .made id result (Device.endPicture context d₄).1, ?_⟩
    cases result
    all_goals
      simp only [submit, hbegin, hflags, hcreate, hrender, abandon, hend, hdestroy]
      simp only [List.append_assoc, List.cons_append, List.nil_append]
      rfl

theorem render_traced (context : ContextId) (c : Chain) (w : Window) (pool : Option PoolId)
    (current : Frame) (t : Traced σ) : ∃ events,
    Report c w current (render context c w pool current t.device).1 events ∧
    render context c w pool current t = ((render context c w pool current t.device).1,
      t.after (render context c w pool current t.device).2 events) := by
  have hallocate : ∀ {p result lent}, Device.allocate p t.device = (result, lent) →
      Device.allocate p t = (result, t.after lent []) := by
    intro p result lent h
    show Traced.quietly (Device.allocate p) t = _
    rw [Traced.quietly, h]
    rfl
  unfold render
  split
  · exact ⟨[], .unreached _, rfl⟩
  cases pool with
  | none => exact ⟨[], .unreached _, rfl⟩
  | some p =>
    dsimp only
    rcases hlent : Device.allocate p t.device with ⟨e | target, lent⟩ <;> rw [hallocate hlent]
    · exact ⟨[], .unreached _, rfl⟩
    dsimp only
    split
    · exact ⟨[], .unreached _, by rw [Traced.releaseSurface_eq]; rfl⟩
    obtain ⟨events, htranscript, heq⟩ := submit_traced context c.deinterlaceBuffer?
      (.ofField (fieldOf w) w.topFieldFirst) (buildRequest c w current target.id) (t.after lent [])
    have hfield : (buildRequest c w current target.id).field = fieldOf w := rfl
    have hdevice : (t.after lent []).device = lent := rfl
    rw [hfield, heq]
    rw [hdevice] at htranscript ⊢
    rcases hsubmit : submit context c.deinterlaceBuffer? (.ofField (fieldOf w) w.topFieldFirst)
      (buildRequest c w current target.id) lent with ⟨e | _, later⟩ <;> rw [hsubmit] at htranscript
    · refine ⟨events, .failed target htranscript, ?_⟩
      dsimp only
      rw [Traced.releaseSurface_eq]
      rfl
    · exact ⟨events, .done target htranscript, rfl⟩

end Rendering

/-! ## Outputs -/

namespace Session

/-- The same session on another device. -/
def on {τ : Type} (s : Session σ) (device : τ) : Session τ :=
  ⟨device, s.config, s.context, s.chain, s.window, s.pool, s.params, s.deinterlacing, s.stats⟩

def traced (s : Session σ) : Session (Traced σ) := s.on ⟨s.device, []⟩

/-- The calls with which the next output renders, in order. -/
def renderEvents (s : Session σ) : List Device.Event := s.traced.output.2.device.events.reverse

/-- **Writing the calls down makes no difference** to the outcome of an output or to the device.
Unless a picture is to be rendered there is nothing to write down. -/
theorem output_traced (s : Session σ) :
    s.traced.output.1 = s.output.1 ∧ s.traced.output.2.device.device = s.output.2.device ∧
    (s.renderEvents = [] ∧ (s.window.hasOutput = false ∨ s.passesThrough = true) ∨
      ∃ current picture, s.window.hasOutput = true ∧ s.window.current? = some current ∧
        s.passesThrough = false ∧ s.output.1 = picture.map some ∧
        Rendering.Report s.chain s.window current picture s.renderEvents) := by
  have hreleased : ∀ (frames : List Frame) (d : σ) (events : List Device.Event),
      Device.releaseFrames frames (Traced.mk d events) =
        ⟨Device.releaseFrames frames d, events⟩ :=
    fun frames d events => Traced.releaseFrames_eq frames ⟨d, events⟩
  rcases s.output_cases with ⟨hout, heq⟩ | ⟨current, hout, hcur, hpass, heq⟩ |
    ⟨current, picture, device, stats, hout, hcur, hpass, hrender, heq⟩
  · have htraced := output_of_idle (s := s.traced) hout
    rw [renderEvents, htraced, heq]
    exact ⟨rfl, rfl, .inl ⟨rfl, .inl hout⟩⟩
  · have htraced := output_of_passed (s := s.traced) hout hcur hpass
    have hdevice : s.traced.output.2.device = ⟨s.output.2.device, []⟩ := by
      rw [htraced, heq]
      show Device.releaseFrames _ (Device.retainFrame current (Traced.mk s.device [])) = _
      rw [Traced.retainFrame_eq]
      exact hreleased _ _ _
    rw [renderEvents, hdevice, htraced, heq]
    exact ⟨rfl, rfl, .inl ⟨rfl, .inr hpass⟩⟩
  · obtain ⟨events, hreport, htraced⟩ := Rendering.render_traced s.context s.chain s.window s.pool
      current (Traced.mk s.device [])
    rw [hrender] at hreport htraced
    obtain ⟨stats', houtput⟩ := output_of_rendered (s := s.traced) hout hcur hpass htraced
    have hdevice : s.traced.output.2.device = ⟨s.output.2.device, events.reverse⟩ := by
      rw [houtput, heq]
      show Device.releaseFrames _ (Traced.mk device (events.reverse ++ [])) = _
      rw [List.append_nil]
      exact hreleased _ _ _
    rw [renderEvents, hdevice, List.reverse_reverse, houtput, heq]
    exact ⟨rfl, rfl, .inr ⟨current, picture, hout, hcur, hpass, rfl, hreport⟩⟩

theorem output_reported {s : Session σ} (hout : s.window.hasOutput = true)
    (hpass : s.passesThrough = false) : ∃ current picture, s.window.current? = some current ∧
      s.output.1 = picture.map some ∧
      Rendering.Report s.chain s.window current picture s.renderEvents := by
  obtain ⟨-, -, ⟨-, hnone | hpassed⟩ | ⟨current, picture, -, hcur, -, hresult, hreport⟩⟩ :=
    s.output_traced
  · cases hout.symm.trans hnone
  · cases hpass.symm.trans hpassed
  · exact ⟨current, picture, hcur, hresult, hreport⟩

end Session

end Deinterlace
