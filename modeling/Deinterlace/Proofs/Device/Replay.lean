import Deinterlace.Proofs.Device.Recorded
import Deinterlace.Proofs.Session.Sparing

/-!
# The device amid a call

What is asked of a device in a call takes it from its state before the call to its state after it
(`Session.device_eq_replay`). So the operations that come before one of them tell what the device
was like at that moment. An output asks for at most one picture to be rendered, and at that moment
the request is on the device and the flags of the chain's filter have been set
(`Session.Rendition`).
-/
namespace Deinterlace

variable {σ : Type} [Device σ]

namespace Device

/-- The device after an operation. -/
def Operation.apply : Operation → σ → σ
  | createConfig, d => (Device.createConfig d).2
  | destroyConfig config, d => Device.destroyConfig config d
  | createContext config, d => (Device.createContext config d).2
  | destroyContext context, d => Device.destroyContext context d
  | queryFilters context, d => (Device.queryFilters context d).2
  | queryAlgorithms context, d => (Device.queryAlgorithms context d).2
  | createFilter context algorithm flags, d => (Device.createFilter context algorithm flags d).2
  | updateFlags buffer flags, d => (Device.updateFlags buffer flags d).2
  | queryCaps context filters, d => (Device.queryCaps context filters d).2
  | beginPicture context target, d => (Device.beginPicture context target d).2
  | createRequest context request, d => (Device.createRequest context request d).2
  | renderPicture context buffers, d => (Device.renderPicture context buffers d).2
  | endPicture context, d => (Device.endPicture context d).2
  | destroyBuffer buffer, d => Device.destroyBuffer buffer d
  | createPool desc, d => (Device.createPool desc d).2
  | closePool pool, d => Device.closePool pool d
  | allocate pool, d => (Device.allocate pool d).2
  | upload pool target frame, d => (Device.upload pool target frame d).2
  | retain lease, d => Device.retain lease d
  | release lease, d => Device.release lease d
  | close, d => Device.close d

/-- The device after several operations, in order. -/
def replay (operations : List Operation) (d : σ) : σ :=
  operations.foldl (fun d operation => operation.apply d) d

def Operation.isRender : Operation → Bool
  | renderPicture _ _ => true
  | _ => false

end Device

namespace Recorded

open Device (Operation replay)

/-- What is written down leads from `start` to where the device is. -/
def Follows (start : σ) (r : Recorded σ) : Prop := r.device = replay r.operations.reverse start

variable {start : σ} {r : Recorded σ} {α : Type}

theorem Follows.doing (h : r.Follows start) (operation : Operation) :
    (doing operation operation.apply r).Follows start := by
  show operation.apply r.device = replay (operation :: r.operations).reverse start
  rw [h, List.reverse_cons, replay, replay, List.foldl_concat]

theorem Follows.asking (h : r.Follows start) (operation : Operation) {call : σ → Outcome σ α}
    (hcall : ∀ d, (call d).2 = operation.apply d) :
    (asking operation call r).2.Follows start := by
  have hdone := h.doing operation
  unfold Recorded.doing at hdone
  rw [← hcall] at hdone
  exact hdone

theorem spares_follows (start : σ) : Device.Spares (Follows start) where
  retain lease _ h := h.doing (.retain lease)
  release lease _ h := h.doing (.release lease)
  queryCaps context filters _ h := h.asking (.queryCaps context filters) fun _ => rfl
  createPool desc _ h := h.asking (.createPool desc) fun _ => rfl
  closePool pool _ h := h.doing (.closePool pool)
  allocate pool _ h := h.asking (.allocate pool) fun _ => rfl
  upload pool target frame _ h := h.asking (.upload pool target frame) fun _ => rfl

theorem Follows.submit (h : r.Follows start) (context : ContextId) (buffer : Option BufferId)
    (flags : DeintFlags) (request : RenderRequest) :
    (Rendering.submit context buffer flags request r).2.Follows start := by
  refine Rendering.submit_induction ?_ ?_ ?_ ?_ ?_ ?_ buffer flags request h
  · exact fun target d h => h.asking (.beginPicture context target) fun _ => rfl
  · exact fun id flags d h => h.asking (.updateFlags id flags) fun _ => rfl
  · exact fun request d h => h.asking (.createRequest context request) fun _ => rfl
  · exact fun ids d h => h.asking (.renderPicture context ids) fun _ => rfl
  · exact fun d h => h.asking (.endPicture context) fun _ => rfl
  · exact fun id d h => h.doing (.destroyBuffer id)

/-- Whenever a picture has been rendered, `facts` was true of the operations before. -/
def Justified (facts : List Operation → ContextId → List BufferId → Prop) (r : Recorded σ) : Prop :=
  ∀ later context ids earlier,
    r.operations = later ++ .renderPicture context ids :: earlier → facts earlier context ids

variable {facts : List Operation → ContextId → List BufferId → Prop}

omit [Device σ] in
theorem Justified.rendered (h : r.Justified facts) {context : ContextId} {ids : List BufferId}
    (hfacts : facts r.operations context ids) {d : σ} :
    Justified facts ⟨d, .renderPicture context ids :: r.operations⟩ := by
  intro later context ids earlier heq
  rcases List.cons_eq_append_iff.1 heq with ⟨-, hfirst⟩ | ⟨later, -, hrest⟩
  · cases hfirst
    exact hfacts
  · exact h later context ids earlier hrest

omit [Device σ] in
theorem Justified.other (h : r.Justified facts) {operation : Operation}
    (hother : operation.isRender = false) {d : σ} :
    Justified facts ⟨d, operation :: r.operations⟩ := by
  intro later context ids earlier heq
  rcases List.cons_eq_append_iff.1 heq with ⟨-, hfirst⟩ | ⟨later, -, hrest⟩
  · cases hfirst
    cases hother
  · exact h later context ids earlier hrest

theorem spares_justified (facts : List Operation → ContextId → List BufferId → Prop) :
    Device.Spares (Justified (σ := σ) facts) where
  retain _ _ h := h.other rfl
  release _ _ h := h.other rfl
  queryCaps _ _ _ h := h.other rfl
  createPool _ _ h := h.other rfl
  closePool _ _ h := h.other rfl
  allocate _ _ h := h.other rfl
  upload _ _ _ _ h := h.other rfl

omit [Device σ] in
theorem asking_eq {operation : Operation} {call : σ → Outcome σ α} {result : Except DeviceError α}
    {later : Recorded σ} (h : asking operation call r = (result, later)) :
    call r.device = (result, later.device) := by
  cases h
  rfl

theorem applyFlags_eq {buffer : Option BufferId} {flags : DeintFlags}
    {result : Except DeviceError Unit} {later : Recorded σ}
    (h : Rendering.applyFlags buffer flags r = (result, later)) :
    Rendering.applyFlags buffer flags r.device = (result, later.device) := by
  cases buffer <;> cases h <;> rfl

/-- A submission renders one picture, once everything before has succeeded. -/
theorem Justified.submit (h : r.Justified facts) (hfollows : r.Follows start) (context : ContextId)
    (buffer : Option BufferId) (flags : DeintFlags) (request : RenderRequest)
    (hfacts : ∀ (begun set : Recorded σ) id (ready : Recorded σ), ready.Follows start →
      Device.beginPicture context request.destination r = (.ok (), begun) →
      Rendering.applyFlags buffer flags begun = (.ok (), set) →
      Device.createRequest context request set = (.ok id, ready) →
      facts ready.operations context [id]) :
    (Rendering.submit context buffer flags request r).2.Justified facts := by
  have hbegun : ∀ {result} {d₁ : Recorded σ},
      Device.beginPicture context request.destination r = (result, d₁) →
        d₁.Follows start ∧ d₁.Justified facts := by
    rintro result d₁ ⟨⟩
    exact ⟨hfollows.asking (.beginPicture context _) fun _ => rfl, h.other rfl⟩
  have hset : ∀ {result} {d₁ d₂ : Recorded σ}, d₁.Follows start ∧ d₁.Justified facts →
      Rendering.applyFlags buffer flags d₁ = (result, d₂) →
        d₂.Follows start ∧ d₂.Justified facts := by
    rintro result d₁ d₂ ⟨hfollows, h₁⟩ heq
    cases buffer <;> cases heq
    · exact ⟨hfollows, h₁⟩
    · exact ⟨hfollows.asking (.updateFlags _ flags) fun _ => rfl, h₁.other rfl⟩
  have hmade : ∀ {result} {d₂ d₃ : Recorded σ}, d₂.Follows start ∧ d₂.Justified facts →
      Device.createRequest context request d₂ = (result, d₃) →
        d₃.Follows start ∧ d₃.Justified facts := by
    rintro result d₂ d₃ ⟨hfollows, h₂⟩ ⟨⟩
    exact ⟨hfollows.asking (.createRequest context request) fun _ => rfl, h₂.other rfl⟩
  have hended : ∀ {d : Recorded σ}, d.Justified facts →
      (Device.endPicture context d).2.Justified facts := fun hd => hd.other rfl
  rcases Rendering.submit_cases context buffer flags request r with ⟨e, d₁, h₁, heq⟩ |
    ⟨d₁, e, d₂, h₁, h₂, heq⟩ | ⟨d₁, d₂, e, d₃, h₁, h₂, h₃, heq⟩ |
    ⟨d₁, d₂, id, d₃, result, d₄, h₁, h₂, h₃, h₄, heq⟩ <;> rw [heq]
  · exact (hbegun h₁).2
  · exact hended (hset (hbegun h₁) h₂).2
  · exact hended (hmade (hset (hbegun h₁) h₂) h₃).2
  · obtain ⟨hready, hjustified⟩ := hmade (hset (hbegun h₁) h₂) h₃
    cases h₄
    exact (hended (hjustified.rendered (hfacts d₁ d₂ id d₃ hready h₁ h₂ h₃))).other rfl

/-- What has happened on the device `start` when a picture is rendered: a surface has been taken,
the picture has been begun, the flags have been set, and the request is in a buffer. -/
def Prepared (start : σ) (context : ContextId) (c : Chain) (w : Window) (pool : Option PoolId)
    (current : Frame) (request : RenderRequest) (params : BufferId) (ready : σ) : Prop :=
  ∃ p target lent begun set, pool = some p ∧ Device.allocate p start = (.ok target, lent) ∧
    request = Rendering.buildRequest c w current target.id ∧
    Device.beginPicture context target.id lent = (.ok (), begun) ∧
    Rendering.applyFlags c.deinterlaceBuffer? (.ofField (Rendering.fieldOf w) w.topFieldFirst)
      begun = (.ok (), set) ∧
    Device.createRequest context request set = (.ok params, ready)

theorem Justified.render (h : r.Justified facts) (hfollows : r.Follows start)
    (context : ContextId) (c : Chain) (w : Window) (pool : Option PoolId) (current : Frame)
    (hfacts : ∀ operations request params, Prepared r.device context c w pool current request params
      (replay operations.reverse start) → facts operations context [params]) :
    (Rendering.render context c w pool current r).2.Justified facts := by
  have hspares := spares_justified (σ := σ) facts
  have hsubmitted : ∀ {p target lent result later}, pool = some p →
      Device.allocate p r = (.ok target, lent) →
      Rendering.submit context c.deinterlaceBuffer?
        (.ofField (Rendering.fieldOf w) w.topFieldFirst)
        (Rendering.buildRequest c w current target.id) lent = (result, later) →
      later.Justified facts := by
    intro p target lent result later hpool hallocate hsubmit
    have hlent := (spares_follows start).allocate_eq hfollows hallocate
    have hdone := (hspares.allocate_eq h hallocate).submit hlent context c.deinterlaceBuffer?
      (.ofField (Rendering.fieldOf w) w.topFieldFirst)
      (Rendering.buildRequest c w current target.id)
      fun begun set params ready hready hbegin hflags hcreate => by
        refine hfacts _ _ params ⟨p, target, lent.device, begun.device, set.device, hpool,
          asking_eq hallocate, rfl, asking_eq hbegin, applyFlags_eq hflags, ?_⟩
        rw [← hready]
        exact asking_eq hcreate
    rw [hsubmit] at hdone
    exact hdone
  rcases Rendering.render_cases context c w pool current r with ⟨e, heq⟩ |
    ⟨p, e, later, -, hallocate, heq⟩ | ⟨p, target, lent, e, -, hallocate, heq⟩ |
    ⟨p, target, lent, e, later, hpool, hallocate, hsubmit, heq⟩ |
    ⟨p, target, lent, later, hpool, hallocate, hsubmit, heq⟩ <;> rw [heq]
  · exact h
  · exact hspares.allocate_eq h hallocate
  · exact hspares.releaseSurface target (hspares.allocate_eq h hallocate)
  · exact hspares.releaseSurface target (hsubmitted hpool hallocate hsubmit)
  · exact hsubmitted hpool hallocate hsubmit

end Recorded

open Device (Operation replay)

namespace Session

/-- **The operations of a call lead from the device before it to the device after it.** -/
theorem device_eq_replay (s : Session σ) {call : Call σ} (hcall : ∀ change, call ≠ .alter change) :
    (s.perform call).device = replay (s.operations call) s.device := by
  obtain ⟨-, hdevice, -⟩ := s.perform_recorded call
  have hfollows : (s.recorded.perform call.recorded).device.Follows s.device := by
    refine keeps_perform (Recorded.spares_follows s.device) (fun _ _ _ h => h.submit _ _ _ _) ?_ rfl
    intro change heq
    cases call with
    | alter change => exact absurd rfl (hcall change)
    | _ => cases heq
  rw [← hdevice]
  exact hfollows

/-- An output has the picture of a request rendered, and the device is `ready` then. -/
structure Rendition (s : Session σ) (current : Frame) (request : RenderRequest) (params : BufferId)
    (ready : σ) : Prop where
  hasOutput : s.window.hasOutput = true
  current_eq : s.window.current? = some current
  passesThrough : s.passesThrough = false
  prepared : Recorded.Prepared s.device s.context s.chain s.window s.pool current request params
    ready

/-- **What an output renders.** The operations before tell what the device is like then. -/
theorem rendition_of_operations (s : Session σ) {earlier later : List Operation}
    {context : ContextId} {ids : List BufferId}
    (h : s.operations .output = earlier ++ .renderPicture context ids :: later) :
    ∃ current request params, context = s.context ∧ ids = [params] ∧
      s.Rendition current request params (replay earlier s.device) := by
  let facts (operations : List Operation) (context : ContextId) (ids : List BufferId) : Prop :=
    ∃ current request params, context = s.context ∧ ids = [params] ∧
      s.Rendition current request params (replay operations.reverse s.device)
  have hspares := Recorded.spares_justified (σ := σ) facts
  have hstart : s.recorded.device.Justified facts := by
    intro later context ids earlier heq
    simp [recorded, on] at heq
  have hdone : s.recorded.output.2.device.Justified facts := by
    rcases s.recorded.output_cases with ⟨-, heq⟩ | ⟨frame, -, -, -, heq⟩ |
      ⟨current, picture, device, stats, hout, hcur, hpass, hrender, heq⟩ <;> rw [heq]
    · exact hstart
    · exact hspares.releaseFrames _ (hspares.retainFrame frame hstart)
    · refine hspares.releaseFrames _ ?_
      have hfollows : s.recorded.device.Follows s.device := rfl
      have hrendered := hstart.render hfollows s.context s.chain s.window s.pool current
        fun operations request params hprepared =>
          ⟨current, request, params, rfl, rfl, hout, hcur, hpass, hprepared⟩
      have hrender : Rendering.render s.context s.chain s.window s.pool current s.recorded.device =
          (picture, device) := hrender
      rw [hrender] at hrendered
      exact hrendered
  have hsplit : s.recorded.output.2.device.operations =
      later.reverse ++ .renderPicture context ids :: earlier.reverse := by
    have hall : s.recorded.output.2.device.operations.reverse =
        earlier ++ .renderPicture context ids :: later := h
    rw [← List.reverse_inj, hall]
    simp
  have hfacts := hdone _ context ids _ hsplit
  simpa only [facts, List.reverse_reverse] using hfacts

end Session

end Deinterlace
