import Deinterlace.Proofs.Device.Bisimulation
import Deinterlace.Proofs.Va.Effects
import Deinterlace.Proofs.Va.Scripted

/-!
# VA devices on drivers that cannot be told apart

A `Library.Bisimulation` relates states of two drivers that give the same answers to every call and
stay related; devices on top of them cannot be told apart either (`Display.bisimulation`). A driver
whose calls are written down cannot be told from the driver itself (`Logged.bisimulation`), and a
device is indifferent to capability queries if its driver is (`Display.indifferent`).
-/
namespace Deinterlace.Va

/-! ## Drivers -/

section Library

variable {δ ε : Type} [Library δ] [Library ε]

/-- Every call has the same answer in related states, and what is read is the same; calls and writes
lead to related states. -/
structure Library.Bisimulation (R : δ → ε → Prop) : Prop where
  call {d : δ} {e : ε} (c : Call) : R d e → (Library.call c e).1 = (Library.call c d).1 ∧
    (Library.call c e).2.1 = (Library.call c d).2.1 ∧
    R (Library.call c d).2.2 (Library.call c e).2.2
  read {d : δ} {e : ε} (address : Address) (size : Nat) : R d e →
    Library.read address size e = Library.read address size d
  write {d : δ} {e : ε} (address : Address) (patch : Patch) : R d e →
    R (Library.write address patch d) (Library.write address patch e)

/-- Whether a call is a capability query, or asks for a text. -/
def Call.Asks : Call → Prop
  | .queryPipelineCaps .. | .errorString _ => True
  | _ => False

/-- States that are related cannot be told apart, and questions lead to related states. -/
structure Library.Indifferent (same : δ → δ → Prop) : Prop where
  bisimulation : Library.Bisimulation same
  refl (d : δ) : same d d
  asked {d e : δ} (c : Call) : c.Asks → same d e → same d (Library.call c e).2.2

/-- It makes no difference that what passes through the interface is written down. -/
theorem Logged.bisimulation :
    Library.Bisimulation fun (l : Logged δ) (driver : δ) => l.driver = driver where
  call := by
    rintro l _ c rfl
    exact ⟨rfl, rfl, rfl⟩
  read := by
    rintro l _ address size rfl
    rfl
  write := by
    rintro l _ address patch rfl
    rfl

end Library

namespace Driver

/-- Drivers that differ in the calls they have written down at most. -/
def Alike (d e : Driver) : Prop := ∃ history, e = d.relog history

theorem indifferent : Library.Indifferent Alike where
  bisimulation :=
    { call := by
        rintro d _ c ⟨history, rfl⟩
        obtain ⟨later, heq⟩ := d.call_relog c history
        rw [heq]
        exact ⟨rfl, rfl, later, rfl⟩
      read := by
        rintro d _ address size ⟨history, rfl⟩
        rfl
      write := by
        rintro d _ address patch ⟨history, rfl⟩
        exact ⟨history, d.write_relog address patch history⟩ }
  refl d := ⟨d.history, rfl⟩
  asked := by
    rintro d _ c hasks ⟨history, rfl⟩
    cases c with
    | queryPipelineCaps context filters inputRoom outputRoom =>
      show Alike d (answer _ (d.relog history)).2.2
      unfold answer
      dsimp only
      split <;> exact ⟨_, rfl⟩
    | errorString status => exact ⟨history, rfl⟩
    | _ => cases hasks

end Driver

/-! ## Devices -/

namespace Display

open Device (Same)

variable {δ ε : Type}

/-- The same device on another driver. -/
def on (d : Display δ) (driver : ε) : Display ε := { d with driver }

/-- Devices whose drivers are related, and that are the same otherwise. -/
def Alike (R : δ → ε → Prop) (d : Display δ) (e : Display ε) : Prop :=
  ∃ driver, R d.driver driver ∧ e = d.on driver

variable [Library δ] [Library ε] {R : δ → ε → Prop} {d : Display δ} {e : Display ε} {α β : Type}

section Steps

variable (h : Library.Bisimulation R)
include h

theorem alike_run (c : Call) (hde : d.Alike R e) : (d.run c).Alike R (e.run c) := by
  obtain ⟨driver, hrelated, rfl⟩ := hde
  exact ⟨_, (h.call c hrelated).2.2, rfl⟩

theorem alike_write (address : Address) (patch : Patch) (hde : d.Alike R e) :
    (d.write address patch).Alike R (e.write address patch) := by
  obtain ⟨driver, hrelated, rfl⟩ := hde
  exact ⟨_, h.write address patch hrelated, rfl⟩

theorem same_check (entry : EntryPoint) (status : Int) (answer : α) (hde : d.Alike R e) :
    Same (Alike R) (check entry status answer d) (check entry status answer e) := by
  obtain ⟨driver, hrelated, rfl⟩ := hde
  obtain ⟨-, htext, hlater⟩ := h.call (.errorString status) hrelated
  have hsame : (errorText status driver).1 = (errorText status d.driver).1 := by
    simp only [errorText, htext]
  by_cases hstatus : status = success
  · rw [check_of_success _ _ _ hstatus, check_of_success _ _ _ hstatus]
    exact ⟨rfl, driver, hrelated, rfl⟩
  · rw [check_of_failure _ _ _ hstatus, check_of_failure _ _ _ hstatus]
    refine ⟨?_, _, hlater, rfl⟩
    show Except.error (⟨entry.name, status, (errorText status driver).1⟩ : DeviceError) = _
    rw [hsame]

theorem same_ask (c : Call) (hde : d.Alike R e) : Same (Alike R) (d.ask c) (e.ask c) := by
  obtain ⟨driver, hrelated, rfl⟩ := hde
  obtain ⟨hstatus, houtput, hlater⟩ := h.call c hrelated
  show Same (Alike R) (d.ask c) (check c.entry (Library.call c driver).1
    (Library.call c driver).2.1 (d.on (Library.call c driver).2.2))
  rw [hstatus, houtput]
  exact same_check h c.entry _ _ ⟨_, hlater, rfl⟩

omit [Library δ] [Library ε] h in
theorem same_mapAnswer (f : α → β) {x : Outcome (Display δ) α} {y : Outcome (Display ε) α}
    (hxy : Same (Alike R) x y) : Same (Alike R) (mapAnswer f x) (mapAnswer f y) := by
  obtain ⟨answer, d, e, rfl, rfl, halike⟩ := hxy.exists_answer
  cases answer <;> exact ⟨rfl, halike⟩

omit [Library δ] [Library ε] h in
theorem alike_modifyPool (pool : PoolId) (change : Pool → Pool) (hde : d.Alike R e) :
    (d.modifyPool pool change).Alike R (e.modifyPool pool change) := by
  obtain ⟨driver, hrelated, rfl⟩ := hde
  exact ⟨driver, hrelated, rfl⟩

/-! ### Pictures -/

theorem same_updateFlags (buffer : BufferId) (flags : DeintFlags) (hde : d.Alike R e) :
    Same (Alike R) (updateFlags buffer flags d) (updateFlags buffer flags e) := by
  obtain ⟨mapped, d₁, e₁, hd, he, h₁⟩ := (same_ask h (.mapBuffer buffer.value) hde).exists_answer
  unfold updateFlags
  rw [hd, he]
  match mapped with
  | .error _ => exact ⟨rfl, h₁⟩
  | .ok none => exact ⟨rfl, h₁⟩
  | .ok (some address) => exact ⟨rfl, alike_run h _ (alike_write h address _ h₁)⟩

theorem same_createRequest (context : ContextId) (request : RenderRequest) (hde : d.Alike R e) :
    Same (Alike R) (createRequest context request d) (createRequest context request e) := by
  obtain ⟨made, d₁, e₁, hd, he, driver, hrelated, rfl⟩ := (same_ask h
    (.createBuffer context.value 1 (.picture (pictureParams request))) hde).exists_answer
  unfold createRequest
  rw [hd, he]
  cases made <;> exact ⟨rfl, driver, hrelated, rfl⟩

theorem same_endPicture (context : ContextId) (hde : d.Alike R e) :
    Same (Alike R) (endPicture context d) (endPicture context e) := by
  obtain ⟨driver, hrelated, rfl⟩ := hde
  obtain ⟨hstatus, -, hlater⟩ := h.call (.endPicture context.value) hrelated
  show Same (Alike R) (endPicture context d) (check .endPicture
    (Library.call (.endPicture context.value) driver).1 ()
    { d.on (Library.call (.endPicture context.value) driver).2.2 with pending := [] })
  rw [hstatus]
  exact same_check h _ _ _ ⟨_, hlater, rfl⟩

/-! ### Pools -/

theorem alike_reclaim (hde : d.Alike R e) : d.reclaim.Alike R e.reclaim := by
  obtain ⟨driver, hrelated, rfl⟩ := hde
  have hsame : ((d.on driver).isOpen || (d.on driver).isTerminated ||
    (d.on driver).pools.any (!·.isGone)) =
      (d.isOpen || d.isTerminated || d.pools.any (!·.isGone)) := rfl
  unfold reclaim
  rw [hsame]
  split
  · exact ⟨driver, hrelated, rfl⟩
  · exact ⟨_, (h.call .terminate hrelated).2.2, rfl⟩

theorem alike_reclaimPool (pool : PoolId) (hde : d.Alike R e) :
    (d.reclaimPool pool).Alike R (e.reclaimPool pool) := by
  have hdestroyed : ∀ made, (d.run (.destroySurfaces made)).Alike R
      (e.run (.destroySurfaces made)) := fun made => alike_run h _ hde
  have hsame : e.pools = d.pools ∧ e.leases = d.leases := by
    obtain ⟨driver, -, rfl⟩ := hde
    exact ⟨rfl, rfl⟩
  unfold reclaimPool
  rw [hsame.1, hsame.2]
  split
  · exact hde
  · dsimp only
    split
    · exact hde
    · apply alike_reclaim h
      apply alike_modifyPool
      split
      · exact hde
      · exact hdestroyed _

omit [Library δ] [Library ε] h in
theorem same_createPool (desc : PoolDesc) (hde : d.Alike R e) :
    Same (Alike R) (createPool desc d) (createPool desc e) := by
  obtain ⟨driver, hrelated, rfl⟩ := hde
  unfold createPool
  split <;> exact ⟨rfl, driver, hrelated, rfl⟩

omit [Library δ] [Library ε] h in
theorem same_lend (pool : PoolId) (desc : PoolDesc) (id : SurfaceId) (hde : d.Alike R e) :
    Same (Alike R) (d.lend pool desc id) (e.lend pool desc id) := by
  obtain ⟨driver, hrelated, rfl⟩ := hde
  exact ⟨rfl, driver, hrelated, rfl⟩

theorem same_allocate (pool : PoolId) (hde : d.Alike R e) :
    Same (Alike R) (allocate pool d) (allocate pool e) := by
  have hsame : e.pools = d.pools := by
    obtain ⟨driver, -, rfl⟩ := hde
    rfl
  unfold allocate
  rw [hsame]
  split
  · exact ⟨rfl, hde⟩
  · rename_i p _
    split
    · exact same_lend _ _ _ (alike_modifyPool _ _ hde)
    · split
      · exact ⟨rfl, hde⟩
      · obtain ⟨made, d₁, e₁, hd, he, h₁⟩ := (same_ask h (makes p.desc) hde).exists_answer
        rw [hd, he]
        cases made with
        | error _ => exact ⟨rfl, h₁⟩
        | ok id => exact same_lend _ _ _ (alike_modifyPool _ _ h₁)

theorem alike_release (key : LeaseId) (hde : d.Alike R e) :
    (release key d).Alike R (release key e) := by
  obtain ⟨driver, hrelated, rfl⟩ := hde
  have hleases : (d.on driver).leases = d.leases := rfl
  unfold release
  rw [hleases]
  split
  · exact ⟨driver, hrelated, rfl⟩
  · exact alike_reclaimPool h _ ⟨driver, hrelated, rfl⟩

/-! ### Images -/

theorem same_writeImage (image : Image) (source : SoftwareImage) (hde : d.Alike R e) :
    Same (Alike R) (d.writeImage image source) (e.writeImage image source) := by
  unfold writeImage
  split
  · exact ⟨rfl, hde⟩
  · obtain ⟨mapped, d₁, e₁, hd, he, h₁⟩ := (same_ask h (.mapBuffer image.buffer) hde).exists_answer
    rw [hd, he]
    match mapped with
    | .error _ => exact ⟨rfl, h₁⟩
    | .ok none => exact ⟨rfl, h₁⟩
    | .ok (some address) =>
      have hbytes : Library.read address image.dataSize e₁.driver =
          Library.read address image.dataSize d₁.driver := by
        obtain ⟨driver, hrelated, rfl⟩ := h₁
        exact h.read address image.dataSize hrelated
      dsimp only
      rw [hbytes]
      split <;> exact ⟨rfl, alike_run h _ (alike_write h address _ h₁)⟩

theorem same_upload (target : Surface) (frame : Frame) (hde : d.Alike R e) :
    Same (Alike R) (upload target frame d) (upload target frame e) := by
  unfold upload
  split
  · exact ⟨rfl, hde⟩
  · rename_i source _
    obtain ⟨derived, d₁, e₁, hd, he, h₁⟩ :=
      (same_ask h (.deriveImage target.id.value) hde).exists_answer
    rw [hd, he]
    cases derived with
    | error _ => exact ⟨rfl, h₁⟩
    | ok image =>
      obtain ⟨written, d₂, e₂, hd, he, h₂⟩ := (same_writeImage h image source h₁).exists_answer
      dsimp only
      rw [hd, he]
      exact ⟨rfl, alike_run h _ h₂⟩

/-- **Devices on drivers that cannot be told apart cannot be told apart.** -/
theorem bisimulation : Device.Bisimulation (Alike R) where
  queryCaps context filters hde := same_mapAnswer _ (same_ask h
    (.queryPipelineCaps context.value (filters.map (·.value)) maxStandards maxStandards) hde)
  updateFlags := same_updateFlags h
  beginPicture context target hde := same_ask h (.beginPicture context.value target.value) hde
  createRequest := same_createRequest h
  renderPicture context buffers hde :=
    same_ask h (.renderPicture context.value (buffers.map (Handle.value ·))) hde
  endPicture := same_endPicture h
  destroyBuffer buffer hde := alike_run h (.destroyBuffer buffer.value) hde
  createPool := same_createPool
  closePool pool hde := alike_reclaimPool h pool (alike_modifyPool pool _ hde)
  allocate := same_allocate h
  upload _ := same_upload h
  retain key hde := by
    obtain ⟨driver, hrelated, rfl⟩ := hde
    exact ⟨driver, hrelated, rfl⟩
  release := alike_release h

end Steps

/-- **Capability queries make no difference** to a device whose driver takes no notice of them. -/
theorem indifferent {same : δ → δ → Prop} (h : Library.Indifferent same) :
    Device.Indifferent (Alike same) where
  bisimulation := bisimulation h.bisimulation
  refl d := ⟨d.driver, h.refl d.driver, rfl⟩
  asked := by
    rintro d _ context filters ⟨driver, hsame, rfl⟩
    let c : Call :=
      .queryPipelineCaps context.value (filters.map (·.value)) maxStandards maxStandards
    have hasked : same d.driver (Library.call c driver).2.2 := h.asked c trivial hsame
    show Alike same d (mapAnswer capsOf ((d.on driver).ask c)).2
    rw [snd_mapAnswer]
    rcases ask_cases c (d.on driver) with ⟨-, heq⟩ | ⟨-, error, heq⟩ <;> rw [heq]
    · exact ⟨_, hasked, rfl⟩
    · exact ⟨_, h.asked (.errorString (Library.call c driver).1) trivial hasked, rfl⟩

end Display

end Deinterlace.Va
