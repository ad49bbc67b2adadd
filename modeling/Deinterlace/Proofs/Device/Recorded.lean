import Deinterlace.Proofs.Device.Bisimulation

/-!
# What is asked of the device

`Recorded σ` is a device that passes every operation on to a device with states `σ` and writes it
down. That makes no difference to a session (`Recorded.bisimulation`), so what is written down when
a call is made on it are the operations of that call (`Session.operations`). Statements about them
look at operations of some kind only, such as capability queries; the lemmas here say that giving
frames back, uploads and so on leave no operation of another kind.
-/
namespace Deinterlace

/-- An operation of a device, with its arguments. -/
inductive Device.Operation
  | createConfig
  | destroyConfig (config : ConfigId)
  | createContext (config : ConfigId)
  | destroyContext (context : ContextId)
  | queryFilters (context : ContextId)
  | queryAlgorithms (context : ContextId)
  | createFilter (context : ContextId) (algorithm : Algorithm) (flags : DeintFlags)
  | updateFlags (buffer : BufferId) (flags : DeintFlags)
  | queryCaps (context : ContextId) (filters : List BufferId)
  | beginPicture (context : ContextId) (target : SurfaceId)
  | createRequest (context : ContextId) (request : RenderRequest)
  | renderPicture (context : ContextId) (buffers : List BufferId)
  | endPicture (context : ContextId)
  | destroyBuffer (buffer : BufferId)
  | createPool (desc : PoolDesc)
  | closePool (pool : PoolId)
  | allocate (pool : PoolId)
  | upload (pool : PoolId) (target : Surface) (frame : Frame)
  | retain (lease : LeaseId)
  | release (lease : LeaseId)
  | close

/-- A device that writes down what is asked of it. -/
structure Recorded (σ : Type) where
  device : σ
  /-- Latest first. -/
  operations : List Device.Operation := []

variable {σ : Type}

namespace Recorded

open Device (Operation)

variable {α : Type}

/-- An operation that is written down and has an outcome. -/
def asking (operation : Operation) (call : σ → Outcome σ α) (r : Recorded σ) :
    Outcome (Recorded σ) α :=
  ((call r.device).1, ⟨(call r.device).2, operation :: r.operations⟩)

/-- An operation that is written down and always succeeds. -/
def doing (operation : Operation) (change : σ → σ) (r : Recorded σ) : Recorded σ :=
  ⟨change r.device, operation :: r.operations⟩

/-- A change that is no operation. -/
def map (change : σ → σ) (r : Recorded σ) : Recorded σ := { r with device := change r.device }

variable [Device σ]

instance : Device (Recorded σ) where
  name := Device.name σ
  createConfig := asking .createConfig Device.createConfig
  destroyConfig config := doing (.destroyConfig config) (Device.destroyConfig config)
  createContext config := asking (.createContext config) (Device.createContext config)
  destroyContext context := doing (.destroyContext context) (Device.destroyContext context)
  queryFilters context := asking (.queryFilters context) (Device.queryFilters context)
  queryAlgorithms context := asking (.queryAlgorithms context) (Device.queryAlgorithms context)
  createFilter context algorithm flags :=
    asking (.createFilter context algorithm flags) (Device.createFilter context algorithm flags)
  updateFlags buffer flags := asking (.updateFlags buffer flags) (Device.updateFlags buffer flags)
  queryCaps context filters :=
    asking (.queryCaps context filters) (Device.queryCaps context filters)
  beginPicture context target :=
    asking (.beginPicture context target) (Device.beginPicture context target)
  createRequest context request :=
    asking (.createRequest context request) (Device.createRequest context request)
  renderPicture context buffers :=
    asking (.renderPicture context buffers) (Device.renderPicture context buffers)
  endPicture context := asking (.endPicture context) (Device.endPicture context)
  destroyBuffer buffer := doing (.destroyBuffer buffer) (Device.destroyBuffer buffer)
  createPool desc := asking (.createPool desc) (Device.createPool desc)
  closePool pool := doing (.closePool pool) (Device.closePool pool)
  allocate pool := asking (.allocate pool) (Device.allocate pool)
  upload pool target frame :=
    asking (.upload pool target frame) (Device.upload pool target frame)
  retain lease := doing (.retain lease) (Device.retain lease)
  release lease := doing (.release lease) (Device.release lease)
  close := doing .close Device.close

omit [Device σ] in
theorem same_asking (operation : Operation) (call : σ → Outcome σ α) {d : σ} {r : Recorded σ}
    (h : r.device = d) :
    Device.Same (fun d (r : Recorded σ) => r.device = d) (call d) (asking operation call r) := by
  subst h
  exact ⟨rfl, rfl⟩

/-- **Writing operations down makes no difference.** -/
theorem bisimulation : Device.Bisimulation fun (d : σ) (r : Recorded σ) => r.device = d where
  queryCaps _ _ := same_asking _ _
  updateFlags _ _ := same_asking _ _
  beginPicture _ _ := same_asking _ _
  createRequest _ _ := same_asking _ _
  renderPicture _ _ := same_asking _ _
  endPicture _ := same_asking _ _
  destroyBuffer buffer h := congrArg (Device.destroyBuffer buffer) h
  createPool _ := same_asking _ _
  closePool pool h := congrArg (Device.closePool pool) h
  allocate _ := same_asking _ _
  upload _ _ _ := same_asking _ _
  retain lease h := congrArg (Device.retain lease) h
  release lease h := congrArg (Device.release lease) h

/-! ## Operations of a kind -/

variable {kind : Operation → Bool}

/-- Frames are given back by nothing but releases. -/
theorem filter_releaseFrame (hkind : ∀ lease, kind (.release lease) = false) (frame : Frame)
    (r : Recorded σ) :
    (Device.releaseFrame frame r).operations.filter kind = r.operations.filter kind := by
  unfold Device.releaseFrame
  cases frame.lease? with
  | none => rfl
  | some lease => exact List.filter_cons_of_neg (by simp [hkind])

theorem filter_releaseFrames (hkind : ∀ lease, kind (.release lease) = false) (frames : List Frame)
    (r : Recorded σ) :
    (Device.releaseFrames frames r).operations.filter kind = r.operations.filter kind := by
  unfold Device.releaseFrames
  induction frames generalizing r with
  | nil => rfl
  | cons frame rest ih => exact (ih _).trans (filter_releaseFrame hkind frame r)

theorem filter_retainFrame (hkind : ∀ lease, kind (.retain lease) = false) (frame : Frame)
    (r : Recorded σ) :
    (Device.retainFrame frame r).operations.filter kind = r.operations.filter kind := by
  unfold Device.retainFrame
  cases frame.lease? with
  | none => rfl
  | some lease => exact List.filter_cons_of_neg (by simp [hkind])

theorem filter_releaseSurface (hkind : ∀ lease, kind (.release lease) = false) (surface : Surface)
    (r : Recorded σ) :
    (Device.releaseSurface surface r).operations.filter kind = r.operations.filter kind := by
  unfold Device.releaseSurface
  cases surface.lease with
  | none => rfl
  | some lease => exact List.filter_cons_of_neg (by simp [hkind])

/-- An upload takes a surface, copies onto it and may give it back. -/
theorem filter_upload (hrelease : ∀ lease, kind (.release lease) = false)
    (hallocate : ∀ pool, kind (.allocate pool) = false)
    (hupload : ∀ pool target frame, kind (.upload pool target frame) = false)
    (pool : Option PoolId) (frame : Frame) (r : Recorded σ) :
    (Session.upload pool frame r).2.operations.filter kind = r.operations.filter kind := by
  have hasked : ∀ {operation : Operation} {β : Type} {call : σ → Outcome σ β} {r : Recorded σ}
      {result later}, kind operation = false → asking operation call r = (result, later) →
        later.operations.filter kind = r.operations.filter kind := by
    intro operation β call r result later hkind h
    cases h
    exact List.filter_cons_of_neg (by simp [hkind])
  rcases Session.upload_cases pool frame r with ⟨e, heq⟩ | ⟨p, e, later, -, hlent, heq⟩ |
    ⟨p, surface, lent, e, later, -, hlent, hcopied, heq⟩ |
    ⟨p, surface, lent, later, -, hlent, hcopied, heq⟩ <;> rw [heq]
  · exact hasked (hallocate p) hlent
  · rw [filter_releaseSurface hrelease]
    exact (hasked (hupload p surface frame) hcopied).trans (hasked (hallocate p) hlent)
  · exact (hasked (hupload p surface frame) hcopied).trans (hasked (hallocate p) hlent)

end Recorded

variable [Device σ]

/-! ## Negotiations -/

/-- Whether a negotiation asks the device what the filters need. -/
def Chain.Asks (c : Chain) (on : Bool) : Prop :=
  c.last ≠ some (c.keyFor on) ∧ c.filtersFor on ≠ []

instance (c : Chain) (on : Bool) : Decidable (c.Asks on) :=
  inferInstanceAs (Decidable (_ ≠ _ ∧ _ ≠ _))

/-- What a negotiation asks, if anything. -/
def Chain.questions (c : Chain) (context : ContextId) (on : Bool) : List Device.Operation :=
  if c.Asks on then [.queryCaps context (c.filtersFor on)] else []

/-- A negotiation asks the device at most once. -/
theorem Chain.operations_configure (c : Chain) (context : ContextId) (on : Bool) (w : Window)
    (r : Recorded σ) :
    (c.configure context on w r).2.2.operations = c.questions context on ++ r.operations := by
  rw [configure_eq, questions]
  by_cases hlast : c.last = some (c.keyFor on)
  · have hquiet : ¬ c.Asks on := fun h => h.1 hlast
    rw [if_pos hlast, if_neg hquiet]
    rfl
  rw [if_neg hlast]
  by_cases hfilters : c.filtersFor on = []
  · have hquiet : ¬ c.Asks on := fun h => h.2 hfilters
    have hempty : (c.keyFor on).filters.isEmpty = true := List.isEmpty_iff.2 hfilters
    rw [if_pos hempty, if_neg hquiet]
    rfl
  · have hempty : ¬ (c.keyFor on).filters.isEmpty = true := mt List.isEmpty_iff.1 hfilters
    have hasks : c.Asks on := ⟨hlast, hfilters⟩
    rw [if_neg hempty, if_pos hasks]
    have hlater : (Device.queryCaps context (c.keyFor on).filters r).2.operations =
        .queryCaps context (c.filtersFor on) :: r.operations := rfl
    rcases hquery : Device.queryCaps context (c.keyFor on).filters r with ⟨e | caps, later⟩ <;>
      rw [hquery] at hlater <;> exact hlater

/-! ## Calls -/

namespace Session

/-- The same call on the device that writes operations down. -/
def Call.recorded : Call σ → Call (Recorded σ)
  | .input frame => .input frame
  | .output => .output
  | .take => .take
  | .seek => .seek
  | .switch on => .switch on
  | .reconfigure params => .reconfigure params
  | .alter change => .alter (Recorded.map change)

omit [Device σ] in
theorem Call.beside_recorded (call : Call σ) :
    call.Beside (fun d (r : Recorded σ) => r.device = d) call.recorded := by
  cases call with
  | alter change => exact .alter fun d r h => congrArg change h
  | _ => constructor

/-- The session, with nothing written down yet. -/
def recorded (s : Session σ) : Session (Recorded σ) := s.on ⟨s.device, []⟩

/-- What is asked of the device in a call, in order. -/
def operations (s : Session σ) (call : Call σ) : List Device.Operation :=
  (s.recorded.perform call.recorded).device.operations.reverse

/-- What is asked of the device in a run, in order. -/
def allOperations (s : Session σ) : List (Call σ) → List Device.Operation
  | [] => []
  | call :: calls => s.operations call ++ (s.perform call).allOperations calls

/-- **A call on the device that writes operations down** has the same answer, and the session
afterwards is the same but for its device, which is as it would have been. -/
theorem perform_recorded (s : Session σ) (call : Call σ) :
    s.recorded.answer call.recorded = s.answer call ∧
      (s.recorded.perform call.recorded).device.device = (s.perform call).device ∧
      s.recorded.perform call.recorded =
        (s.perform call).on (s.recorded.perform call.recorded).device := by
  have hbeside : s.Beside (fun d (r : Recorded σ) => r.device = d) s.recorded := .of_related rfl
  obtain ⟨hanswer, heq, hdevice⟩ := Recorded.bisimulation.perform hbeside call.beside_recorded
  exact ⟨hanswer, hdevice, heq⟩

theorem filter_configure {kind : Device.Operation → Bool}
    (hrelease : ∀ lease, kind (.release lease) = false) (t : Session (Recorded σ)) :
    t.configure.device.operations.filter kind =
      (t.chain.questions t.context t.deinterlacing ++ t.device.operations).filter kind := by
  rw [← t.chain.operations_configure t.context t.deinterlacing t.window t.device]
  exact Recorded.filter_releaseFrames hrelease _ _

/-- The operations of some kind that an input makes are those of the negotiation, if they are not
made for uploads and for frames that are given back. -/
theorem filter_operations_input (s : Session σ) (frame : Option Frame)
    {kind : Device.Operation → Bool} (hrelease : ∀ lease, kind (.release lease) = false)
    (hupload : (∀ pool, kind (.allocate pool) = false) ∧
        (∀ pool target frame, kind (.upload pool target frame) = false) ∨
      ∀ x, frame = some x → x.format.isHardware = true) :
    (s.operations (.input frame)).filter kind =
      (s.chain.questions s.context s.deinterlacing).filter kind := by
  have hconfigure : s.recorded.configure.device.operations.filter kind =
      (s.chain.questions s.context s.deinterlacing ++ []).filter kind :=
    filter_configure hrelease s.recorded
  have hinput : (s.recorded.input frame).2.device.operations.filter kind =
      s.recorded.configure.device.operations.filter kind := by
    unfold input
    cases frame with
    | none => rfl
    | some x =>
      dsimp only
      split
      · rfl
      · rename_i hsoft
        rcases hupload with ⟨hallocate, hupload⟩ | hhard
        · have huploaded := Recorded.filter_upload hrelease hallocate hupload
            s.recorded.configure.pool x s.recorded.configure.device
          rcases hup : upload s.recorded.configure.pool x s.recorded.configure.device with
            ⟨e | uploaded, later⟩ <;> rw [hup] at huploaded <;>
            exact (Recorded.filter_releaseFrame hrelease x later).trans huploaded
        · exact absurd (hhard x rfl) hsoft
  have hone : (s.chain.questions s.context s.deinterlacing).reverse =
      s.chain.questions s.context s.deinterlacing := by
    unfold Chain.questions
    split <;> rfl
  show (s.recorded.input frame).2.device.operations.reverse.filter kind = _
  rw [List.filter_reverse, hinput, hconfigure, List.append_nil, ← List.filter_reverse, hone]

end Session

end Deinterlace
