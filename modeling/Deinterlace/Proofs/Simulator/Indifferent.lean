import Deinterlace.Proofs.Device.Bisimulation
import Deinterlace.Proofs.Simulator.Effects

/-!
# The simulated device does not read its log

Simulated devices that differ in the calls they have written down give the same answers and go on
differing in nothing else (`Simulator.bisimulation`). A capability query is written down and does
nothing else, so the device is indifferent to it (`Simulator.indifferent`).
-/
namespace Deinterlace.Simulator

open Device (Same)

/-- Devices that differ in the calls they have written down at most. -/
def Alike (d e : Simulator) : Prop := { d with history := [] } = { e with history := [] }

variable {d e : Simulator}

theorem Alike.exists_history (h : Alike d e) : ∃ history, e = { d with history := history } := by
  refine ⟨e.history, ?_⟩
  obtain ⟨⟩ := d
  obtain ⟨⟩ := e
  simp only [Alike, mk.injEq] at h ⊢
  simp_all

theorem alike_queryCaps (filters : List BufferId) (h : Alike d e) :
    Same Alike (queryCaps filters d) (queryCaps filters e) := by
  obtain ⟨history, rfl⟩ := h.exists_history
  unfold queryCaps fails record
  dsimp only
  split <;> exact ⟨rfl, rfl⟩

theorem alike_updateFlags (buffer : BufferId) (flags : DeintFlags) (h : Alike d e) :
    Same Alike (updateFlags buffer flags d) (updateFlags buffer flags e) := by
  obtain ⟨history, rfl⟩ := h.exists_history
  unfold updateFlags fails buffer?
  dsimp only
  split
  · exact ⟨rfl, rfl⟩
  · split <;> exact ⟨rfl, rfl⟩

theorem alike_beginPicture (target : SurfaceId) (h : Alike d e) :
    Same Alike (beginPicture target d) (beginPicture target e) := by
  obtain ⟨history, rfl⟩ := h.exists_history
  unfold beginPicture fails pictureOpen
  dsimp only
  split
  · exact ⟨rfl, rfl⟩
  · split
    · exact ⟨rfl, rfl⟩
    · split <;> exact ⟨rfl, rfl⟩

theorem alike_createRequest (request : RenderRequest) (h : Alike d e) :
    Same Alike (createRequest request d) (createRequest request e) := by
  obtain ⟨history, rfl⟩ := h.exists_history
  unfold createRequest fails
  dsimp only
  split <;> exact ⟨rfl, rfl⟩

theorem alike_submitAll (ids : List BufferId) (h : Alike d e) :
    Same Alike (submitAll ids d) (submitAll ids e) := by
  induction ids generalizing d e with
  | nil => exact ⟨rfl, h⟩
  | cons id rest ih =>
    obtain ⟨history, rfl⟩ := h.exists_history
    unfold submitAll buffer?
    dsimp only
    split
    · exact ih rfl
    · exact ⟨rfl, rfl⟩

theorem alike_renderPicture (ids : List BufferId) (h : Alike d e) :
    Same Alike (renderPicture ids d) (renderPicture ids e) := by
  obtain ⟨history, rfl⟩ := h.exists_history
  unfold renderPicture fails record pictureOpen
  dsimp only
  split
  · exact ⟨rfl, rfl⟩
  · split
    · exact ⟨rfl, rfl⟩
    · exact alike_submitAll ids rfl

theorem alike_endPicture (h : Alike d e) : Same Alike (endPicture d) (endPicture e) := by
  obtain ⟨history, rfl⟩ := h.exists_history
  unfold endPicture fails record pictureOpen
  dsimp only
  split
  · exact ⟨rfl, rfl⟩
  · split <;> exact ⟨rfl, rfl⟩

theorem alike_createPool (desc : PoolDesc) (h : Alike d e) :
    Same Alike (createPool desc d) (createPool desc e) := by
  obtain ⟨history, rfl⟩ := h.exists_history
  unfold createPool fails
  dsimp only
  split <;> exact ⟨rfl, rfl⟩

theorem alike_allocate (pool : PoolId) (h : Alike d e) :
    Same Alike (allocate pool d) (allocate pool e) := by
  obtain ⟨history, rfl⟩ := h.exists_history
  unfold allocate fails
  dsimp only
  split
  · exact ⟨rfl, rfl⟩
  · split
    · exact ⟨rfl, rfl⟩
    · split
      · exact ⟨rfl, rfl⟩
      · split <;> exact ⟨rfl, rfl⟩

theorem alike_upload (target : Surface) (frame : Frame) (h : Alike d e) :
    Same Alike (upload target frame d) (upload target frame e) := by
  obtain ⟨history, rfl⟩ := h.exists_history
  unfold upload fails
  dsimp only
  split
  · exact ⟨rfl, rfl⟩
  · split <;> exact ⟨rfl, rfl⟩

theorem alike_release (key : LeaseId) (h : Alike d e) : Alike (release key d) (release key e) := by
  obtain ⟨history, rfl⟩ := h.exists_history
  unfold release
  dsimp only
  split <;> rfl

/-- **Nothing depends on the log.** -/
theorem bisimulation : Device.Bisimulation Alike where
  queryCaps _ := alike_queryCaps
  updateFlags := alike_updateFlags
  beginPicture _ := alike_beginPicture
  createRequest _ := alike_createRequest
  renderPicture _ := alike_renderPicture
  endPicture _ := alike_endPicture
  destroyBuffer buffer h := by
    obtain ⟨history, rfl⟩ := h.exists_history
    rfl
  createPool := alike_createPool
  closePool _ h := h
  allocate := alike_allocate
  upload _ := alike_upload
  retain key h := by
    obtain ⟨history, rfl⟩ := h.exists_history
    rfl
  release := alike_release

/-- **Capability queries make no difference.** -/
theorem indifferent : Device.Indifferent Alike where
  bisimulation := bisimulation
  refl _ := rfl
  asked context filters h := by
    rw [queryCaps_eq]
    exact h

end Deinterlace.Simulator
