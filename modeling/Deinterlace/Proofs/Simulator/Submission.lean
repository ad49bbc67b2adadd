import Deinterlace.Device.Simulator
import Deinterlace.Rendering
import Mathlib.Tactic.Common

/-!
# Submissions to the simulated device

What a request leaves behind on a simulated device that is at rest (`Simulator.AtRest`). Every call
succeeds, the request's own buffer is gone again, and all that stays is the submission, the flags of
the filter and the number taken for the buffer (`Simulator.submit_eq`).
-/
namespace Deinterlace

namespace Rendering

variable {σ : Type} [Device σ] {context : ContextId} {d d₁ d₂ d₃ d₄ d₅ : σ}

/-- A submission of which every step succeeds. -/
theorem submit_of_ok {buffer : Option BufferId} {flags : DeintFlags} {request : RenderRequest}
    {id : BufferId}
    (hbegin : Device.beginPicture context request.destination d = (.ok (), d₁))
    (hflags : applyFlags buffer flags d₁ = (.ok (), d₂))
    (hcreate : Device.createRequest context request d₂ = (.ok id, d₃))
    (hrender : Device.renderPicture context [id] d₃ = (.ok (), d₄))
    (hend : Device.endPicture context d₄ = (.ok (), d₅)) :
    submit context buffer flags request d = (.ok (), Device.destroyBuffer id d₅) := by
  simp only [submit, hbegin, hflags, hcreate, hrender, hend]

/-- A picture of which every step succeeds. -/
theorem render_of_ok {c : Chain} {w : Window} {pool : PoolId} {current : Frame} {target : Surface}
    (hcurrent : current.surfaceId.isValid = true)
    (hallocate : Device.allocate pool d = (.ok target, d₁)) (hvalid : target.id.isValid = true)
    (hsubmit : submit context c.deinterlaceBuffer? (.ofField (fieldOf w) w.topFieldFirst)
      (buildRequest c w current target.id) d₁ = (.ok (), d₂)) :
    render context c w (some pool) current d = (.ok (pictureOf w current target), d₂) := by
  have hfield : (buildRequest c w current target.id).field = fieldOf w := rfl
  simp only [render, hcurrent, hallocate, hvalid, hfield, hsubmit, Bool.not_true,
    Bool.false_eq_true, if_false]

end Rendering

namespace Simulator

/-- Nothing is made to fail and no picture is open. Handles, keys and pools that are in use have
been given out before. -/
structure AtRest (d : Simulator) : Prop where
  failing : d.failing = []
  openPicture : d.openPicture = none
  buffer_lt : ∀ entry ∈ d.buffers, entry.1.value < d.nextId
  lease_lt : ∀ l ∈ d.leases.live, l.key < d.leases.nextKey
  pool_lt : ∀ l ∈ d.leases.live, l.pool < d.pools.length
  distinct : (d.leases.live.map (·.key)).Nodup

variable {d : Simulator}

theorem fails_eq_false (h : d.failing = []) (entry : EntryPoint) : d.fails entry = false := by
  simp [fails, h]

/-! ## Buffers -/

/-- Puts a buffer in place of the one of the same handle. -/
def replaceBuffer (buffers : List (BufferId × Buffer)) (id : BufferId) (buffer : Buffer) :
    List (BufferId × Buffer) :=
  buffers.map fun entry => if entry.1 = id then (id, buffer) else entry

theorem setBuffer_eq (d : Simulator) (id : BufferId) (buffer : Buffer) :
    d.setBuffer id buffer = { d with buffers := replaceBuffer d.buffers id buffer } := rfl

section Buffers

variable {buffers : List (BufferId × Buffer)} {id other : BufferId} {buffer : Buffer}

theorem lookup_concat_fresh (h : ∀ entry ∈ buffers, entry.1 ≠ id) (added : Buffer) :
    (buffers ++ [(id, added)]).lookup id = some added := by
  have hnone : buffers.lookup id = none := by
    rw [List.lookup_eq_none_iff]
    intro entry hentry
    simpa using (h entry hentry).symm
  simp [List.lookup_append, hnone]

theorem lookup_concat_of_some (h : buffers.lookup id = some buffer) (added : Buffer) :
    (buffers ++ [(other, added)]).lookup id = some buffer := by
  simp [List.lookup_append, h]

theorem lookup_replaceBuffer_ne (h : other ≠ id) (changed : Buffer) :
    (replaceBuffer buffers id changed).lookup other = buffers.lookup other := by
  unfold replaceBuffer
  induction buffers with
  | nil => rfl
  | cons entry rest ih =>
    rw [List.map_cons, List.lookup_cons, List.lookup_cons, ih]
    by_cases he : entry.1 = id
    · have hother : (other == id) = false := by simpa using h
      simp [he, hother]
    · simp [he]

theorem lookup_replaceBuffer_self (h : buffers.lookup id = some buffer) (changed : Buffer) :
    (replaceBuffer buffers id changed).lookup id = some changed := by
  unfold replaceBuffer
  induction buffers with
  | nil => cases h
  | cons entry rest ih =>
    by_cases he : entry.1 = id
    · simp [he]
    · have hid : (id == entry.1) = false := by simpa using Ne.symm he
      rw [List.lookup_cons, hid] at h
      rw [List.map_cons, if_neg he, List.lookup_cons, hid]
      exact ih h

theorem mem_replaceBuffer {entry : BufferId × Buffer}
    (h : entry ∈ replaceBuffer buffers id buffer) : ∃ before ∈ buffers, before.1 = entry.1 := by
  obtain ⟨before, hbefore, rfl⟩ := List.mem_map.1 h
  refine ⟨before, hbefore, ?_⟩
  split
  · assumption
  · rfl

end Buffers

/-! ## Single calls -/

theorem beginPicture_eq (hworks : d.fails .beginPicture = false) (hclosed : d.openPicture = none)
    {target : SurfaceId} (hvalid : target.isValid = true) :
    d.beginPicture target = (.ok (), { d with
      openPicture := some target
      history := .beginPicture target :: d.history }) := by
  simp [beginPicture, hworks, hvalid, pictureOpen, hclosed, record]

theorem updateFlags_eq (hworks : d.fails .mapBuffer = false) {id : BufferId} {before : DeintFlags}
    (h : d.buffers.lookup id = some (.filter before)) (flags : DeintFlags) :
    d.updateFlags id flags = (.ok (), { d with
      buffers := replaceBuffer d.buffers id (.filter flags)
      history := .updateFlags id flags :: d.history }) := by
  simp [updateFlags, hworks, buffer?, h, setBuffer_eq, record]

theorem createRequest_eq (hworks : d.fails .createBuffer = false) (request : RenderRequest) :
    d.createRequest request = (.ok ⟨d.nextId⟩, { d with
      nextId := d.nextId + 1
      buffers := d.buffers ++ [(⟨d.nextId⟩, .request request)]
      history := .createRequest ⟨d.nextId⟩ :: d.history }) := by
  simp [createRequest, hworks, bump, addBuffer, record]

theorem renderPicture_eq (hworks : d.fails .renderPicture = false)
    (hopen : d.openPicture.isSome = true) {id : BufferId} {request : RenderRequest}
    (h : d.buffers.lookup id = some (.request request)) {filter : BufferId}
    {rest : List BufferId} (hchain : request.filters = filter :: rest) {flags : DeintFlags}
    (hfilter : d.buffers.lookup filter = some (.filter flags)) :
    d.renderPicture [id] = (.ok (), { d with
      rendered := ⟨request, some flags⟩ :: d.rendered
      history := .renderPicture [id] :: d.history }) := by
  have hworks' : (d.record (.renderPicture [id])).fails .renderPicture = false := hworks
  simp only [renderPicture, hworks']
  simp [record, pictureOpen, hopen, submitAll, buffer?, h, flagsOf, hchain, hfilter]

/-- The picture is ended, whatever the call answers. -/
theorem endPicture_eq (hopen : d.openPicture.isSome = true) {fails : Bool}
    (hfails : d.fails .endPicture = fails) : d.endPicture =
      (if fails then .error (injected .endPicture) else .ok (),
        { d with openPicture := none, history := .endPicture :: d.history }) := by
  have hsame : (record .endPicture { d with openPicture := none }).fails .endPicture = fails :=
    hfails
  simp only [endPicture, pictureOpen, hopen, Bool.not_true, Bool.false_eq_true, if_false, hsame]
  split <;> rfl

/-! ## Whole submissions -/

/-- **A submission to a device at rest.** The filter has the flags of the request when it is
rendered. -/
theorem submit_eq (h : d.AtRest) (context : ContextId) {request : RenderRequest}
    (hvalid : request.destination.isValid = true) {filter : BufferId} {rest : List BufferId}
    (hchain : request.filters = filter :: rest) {before : DeintFlags}
    (hfilter : d.buffers.lookup filter = some (.filter before)) (flags : DeintFlags) :
    Rendering.submit context (some filter) flags request d = (.ok (), { d with
      buffers := replaceBuffer d.buffers filter (.filter flags)
      nextId := d.nextId + 1
      history := .destroyBuffer ⟨d.nextId⟩ :: .endPicture :: .renderPicture [⟨d.nextId⟩] ::
        .createRequest ⟨d.nextId⟩ :: .updateFlags filter flags ::
          .beginPicture request.destination :: d.history
      rendered := ⟨request, some flags⟩ :: d.rendered }) := by
  have hfresh : ∀ entry ∈ replaceBuffer d.buffers filter (.filter flags),
      entry.1 ≠ ⟨d.nextId⟩ := by
    intro entry hentry heq
    obtain ⟨found, hfound, hsame⟩ := mem_replaceBuffer hentry
    have hlt := h.buffer_lt found hfound
    rw [hsame, heq] at hlt
    exact Nat.lt_irrefl _ hlt
  have hset := lookup_replaceBuffer_self hfilter (.filter flags)
  have hbuffers : (replaceBuffer d.buffers filter (.filter flags) ++
      [((⟨d.nextId⟩ : BufferId), Buffer.request request)]).filter (·.1 != ⟨d.nextId⟩) =
        replaceBuffer d.buffers filter (.filter flags) := by
    have hkept := List.filter_eq_self.2 fun entry hentry => bne_iff_ne.2 (hfresh entry hentry)
    rw [List.filter_append, hkept]
    simp
  have hworks := fails_eq_false h.failing
  have hbegin := beginPicture_eq (hworks .beginPicture) h.openPicture hvalid
  have hupdate := updateFlags_eq (d := { d with
    openPicture := some request.destination
    history := .beginPicture request.destination :: d.history }) (hworks .mapBuffer) hfilter flags
  have hcreate := createRequest_eq (d := { d with
    openPicture := some request.destination
    buffers := replaceBuffer d.buffers filter (.filter flags)
    history := .updateFlags filter flags :: .beginPicture request.destination :: d.history })
    (hworks .createBuffer) request
  have hrender := renderPicture_eq (d := { d with
    openPicture := some request.destination
    buffers := replaceBuffer d.buffers filter (.filter flags) ++ [(⟨d.nextId⟩, .request request)]
    nextId := d.nextId + 1
    history := .createRequest ⟨d.nextId⟩ :: .updateFlags filter flags ::
      .beginPicture request.destination :: d.history })
    (hworks .renderPicture) rfl (lookup_concat_fresh hfresh _) hchain
    (lookup_concat_of_some hset _)
  have hend := endPicture_eq (d := { d with
    openPicture := some request.destination
    buffers := replaceBuffer d.buffers filter (.filter flags) ++ [(⟨d.nextId⟩, .request request)]
    nextId := d.nextId + 1
    history := .renderPicture [⟨d.nextId⟩] :: .createRequest ⟨d.nextId⟩ ::
      .updateFlags filter flags :: .beginPicture request.destination :: d.history
    rendered := ⟨request, some flags⟩ :: d.rendered })
    rfl (hworks .endPicture)
  have hsubmit : Rendering.submit context (some filter) flags request d = _ :=
    Rendering.submit_of_ok hbegin hupdate hcreate hrender hend
  refine hsubmit.trans ?_
  simp only [Device.destroyBuffer, destroyBuffer, record, hbuffers, h.openPicture]

end Simulator

end Deinterlace
