import Deinterlace.Proofs.Simulator.Submission
import Deinterlace.Proofs.Va.Reading

/-!
# Drivers that comply

A driver complies when, whatever has been called and written before, its calls succeed, surfaces get
numbers that name an object, buffers get numbers that are not in use, filters can be mapped, and it
tells what it has to offer (`Complies`). On such a driver every operation of a VA device has one
outcome. The filters of a session stay filters (`Fitted`), and a submission tells the driver exactly
the request and the flags (`Complies.exists_submit`).
-/
namespace Deinterlace.Va

/-- What a driver has to offer: the codes of filters and of algorithms for deinterlacing, and how
many later and earlier frames a chain wants to look at. -/
structure Offer where
  filters : List Int
  algorithms : List Int
  forward : Nat
  backward : Nat
deriving DecidableEq, Repr

variable {δ : Type} [Library δ]

/-- How a driver answers that has come to the state `l`. The number of a buffer that has been
destroyed may be given again, and that of a surface at any time; no driver needs to have more
buffers than there are numbers. -/
structure Answers (offer : Offer) (l : Logged δ) : Prop where
  succeeds : ∀ c, (∀ id, c = .mapBuffer id → (id, filterBufferType) ∈ buffers l.log) →
    (Library.call c l).1 = success
  surface_valid : ∀ layout width height count attributes,
    (Library.call (.createSurfaces layout width height count attributes) l).2.1 ≠ noObject
  buffer_fresh : ∀ context count contents, (buffers l.log).length < noObject →
    (Library.call (.createBuffer context count contents) l).2.1 ∉ (buffers l.log).map (·.1)
  mapped : ∀ id, (id, filterBufferType) ∈ buffers l.log →
    (Library.call (.mapBuffer id) l).2.1 ≠ none
  filters : ∀ context,
    (Library.call (.queryFilters context maxFilters) l).2.1.counted = offer.filters
  algorithms : ∀ context,
    (Library.call (.queryFilterCaps context deinterlacingCode maxAlgorithms) l).2.1.counted =
      offer.algorithms
  forward : ∀ context chain, (Library.call (.queryPipelineCaps context chain maxStandards
    maxStandards) l).2.1.forward = offer.forward
  backward : ∀ context chain, (Library.call (.queryPipelineCaps context chain maxStandards
    maxStandards) l).2.1.backward = offer.backward

/-- A driver answers like this from now on, whatever is called and written. -/
def Complies (offer : Offer) (l : Logged δ) : Prop :=
  ∀ later, Leads (fun _ _ => True) l later → Answers offer later

/-- The buffers that there are, are those of the filters `owned`. -/
structure Fitted (owned : List BufferId) (log : List Event) : Prop where
  nodup : owned.Nodup
  buffers_eq : buffers log = (owned.map fun id => (id.value, filterBufferType)).reverse

namespace Fitted

variable {owned : List BufferId} {log : List Event}

theorem length_eq (h : Fitted owned log) : (buffers log).length = owned.length := by
  rw [h.buffers_eq, List.length_reverse, List.length_map]

theorem mem (h : Fitted owned log) {filter : BufferId} (hfilter : filter ∈ owned) :
    (filter.value, filterBufferType) ∈ buffers log := by
  rw [h.buffers_eq, List.mem_reverse]
  exact List.mem_map_of_mem hfilter

theorem congr (h : Fitted owned log) {later : List Event} (heq : buffers later = buffers log) :
    Fitted owned later :=
  ⟨h.nodup, heq.trans h.buffers_eq⟩

/-- A filter that is made joins the others. -/
theorem concat (h : Fitted owned log) {context count id : Nat} {params : FilterParams}
    (hid : id ∉ (buffers log).map (·.1)) : Fitted (owned ++ [⟨id⟩])
      (.called (.createBuffer context count (.filter params)) success id :: log) where
  nodup := by
    refine List.nodup_append.2 ⟨h.nodup, List.pairwise_singleton _ _, ?_⟩
    intro filter hfilter other hother heq
    rw [heq, List.mem_singleton.1 hother] at hfilter
    exact hid (List.mem_map_of_mem (h.mem hfilter))
  buffers_eq := by
    rw [List.map_append, List.reverse_append, ← h.buffers_eq]
    rfl

end Fitted

/-! ## The driver -/

namespace Complies

variable {offer : Offer} {l later : Logged δ}

theorem answers (h : Complies offer l) : Answers offer l := h l .refl

theorem leads {allowed : Call → Int → Prop} (h : Complies offer l)
    (hleads : Leads allowed l later) : Complies offer later :=
  fun last hlast => h last ((hleads.mono fun _ _ _ => trivial).trans hlast)

theorem write (h : Complies offer l) (address : Address) (patch : Patch) :
    Complies offer (Library.write address patch l) := by
  have hwritten : Leads (fun _ _ => True) l (Library.write address patch l) :=
    .write address patch .refl
  exact h.leads hwritten

/-- A call succeeds, and is written down. -/
theorem exists_call (h : Complies offer l) {c : Call}
    (hc : ∀ id, c = .mapBuffer id → (id, filterBufferType) ∈ buffers l.log) :
    ∃ output later, Library.call c l = (success, output, later) ∧
      later.log = .called c success output :: l.log ∧ Complies offer later := by
  have hstatus := h.answers.succeeds c hc
  have hcalled : Leads (fun _ _ => True) l (Library.call c l).2.2 := .one c trivial
  have hlater := h.leads hcalled
  rcases hcall : Library.call c l with ⟨status, output, later⟩
  rw [hcall] at hstatus hlater
  subst hstatus
  obtain ⟨driver, rfl⟩ := Logged.eq_of_call hcall
  exact ⟨output, _, rfl, rfl, hlater⟩

end Complies

/-! ## The device -/

namespace Display

theorem ask_of_call {c : Call} {d : Display δ} {output : c.Output} {later : δ}
    (h : Library.call c d.driver = (success, output, later)) :
    d.ask c = (.ok output, { d with driver := later }) := by
  have hdone := ask_of_success (c := c) (d := d) (by rw [h])
  rw [h] at hdone
  exact hdone

end Display

namespace Complies

open Display

variable {offer : Offer} {d : Display (Logged δ)}

/-- What is asked about no buffer has an answer. -/
theorem exists_ask (h : Complies offer d.driver) {c : Call} (hc : ∀ status, c.Mute status) :
    ∃ later, d.ask c = (.ok (Library.call c d.driver).2.1, { d with driver := later }) ∧
      Leads Call.Mute d.driver later := by
  refine ⟨_, ask_of_success (h.answers.succeeds c ?_), .one c (hc _)⟩
  rintro id rfl
  exact (hc success).elim

theorem exists_createConfig (h : Complies offer d.driver) : ∃ config later,
    Device.createConfig d = (.ok config, { d with driver := later }) ∧
      Leads Call.Mute d.driver later := by
  obtain ⟨later, heq, hleads⟩ :=
    h.exists_ask (c := .createConfig noProfile videoProcessing 0) fun _ => trivial
  exact ⟨_, later, congrArg (mapAnswer Handle.mk) heq, hleads⟩

theorem exists_createContext (h : Complies offer d.driver) (config : ConfigId) :
    ∃ context later, Device.createContext config d = (.ok context, { d with driver := later }) ∧
      Leads Call.Mute d.driver later := by
  obtain ⟨later, heq, hleads⟩ :=
    h.exists_ask (c := .createContext config.value 0 0 0 []) fun _ => trivial
  exact ⟨_, later, congrArg (mapAnswer Handle.mk) heq, hleads⟩

theorem exists_queryFilters (h : Complies offer d.driver) (context : ContextId) :
    ∃ later, Device.queryFilters context d =
      (.ok (offer.filters.map filterOfCode), { d with driver := later }) ∧
        Leads Call.Mute d.driver later := by
  obtain ⟨later, heq, hleads⟩ :=
    h.exists_ask (c := .queryFilters context.value maxFilters) fun _ => trivial
  refine ⟨later, ?_, hleads⟩
  rw [← h.answers.filters context.value]
  exact congrArg (mapAnswer fun table => table.counted.map filterOfCode) heq

theorem exists_queryAlgorithms (h : Complies offer d.driver) (context : ContextId) :
    ∃ later, Device.queryAlgorithms context d =
      (.ok (offer.algorithms.filterMap algorithmOfCode?), { d with driver := later }) ∧
        Leads Call.Mute d.driver later := by
  obtain ⟨later, heq, hleads⟩ := h.exists_ask
    (c := .queryFilterCaps context.value deinterlacingCode maxAlgorithms) fun _ => trivial
  refine ⟨later, ?_, hleads⟩
  rw [← h.answers.algorithms context.value]
  exact congrArg (mapAnswer fun table => table.counted.filterMap algorithmOfCode?) heq

theorem exists_queryCaps (h : Complies offer d.driver) (context : ContextId)
    (filters : List BufferId) : ∃ caps later,
      Device.queryCaps context filters d = (.ok caps, { d with driver := later }) ∧
        caps.forwardReferences = offer.forward ∧ caps.backwardReferences = offer.backward ∧
          Leads Call.Mute d.driver later := by
  obtain ⟨later, heq, hleads⟩ := h.exists_ask (c := .queryPipelineCaps context.value
    (filters.map (Handle.value ·)) maxStandards maxStandards) fun _ => trivial
  exact ⟨_, later, congrArg (mapAnswer capsOf) heq, h.answers.forward _ _, h.answers.backward _ _,
    hleads⟩

/-- A filter that is made joins the others, as long as there are few. -/
theorem exists_createFilter (h : Complies offer d.driver) {owned : List BufferId}
    (hfitted : Fitted owned d.driver.log) (hroom : owned.length < noObject) (context : ContextId)
    (algorithm : Algorithm) (flags : DeintFlags) : ∃ id later,
      Device.createFilter context algorithm flags d = (.ok id, { d with driver := later }) ∧
        Complies offer later ∧ Fitted (owned ++ [id]) later.log ∧
          created later.log = created d.driver.log ∧
          (reading later.log).pictures = (reading d.driver.log).pictures := by
  obtain ⟨id, later, hcall, hlog, hlater⟩ := h.exists_call (c := .createBuffer context.value 1
    (.filter ⟨deinterlacingCode, algorithmCode algorithm, flags.bits⟩)) nofun
  have hnew := h.answers.buffer_fresh context.value 1
    (.filter ⟨deinterlacingCode, algorithmCode algorithm, flags.bits⟩) (hfitted.length_eq ▸ hroom)
  rw [hcall] at hnew
  refine ⟨⟨id⟩, later, congrArg (mapAnswer Handle.mk) (ask_of_call hcall), hlater, ?_⟩
  rw [hlog]
  exact ⟨hfitted.concat hnew, rfl, rfl⟩

/-- A surface that is made has a number. -/
theorem exists_createSurface (h : Complies offer d.driver) (desc : PoolDesc) : ∃ id later,
    Library.call (makes desc) d.driver = (success, id, later) ∧
      later.log = .called (makes desc) success id :: d.driver.log ∧ id ≠ noObject := by
  obtain ⟨id, later, hcall, hlog, -⟩ := h.exists_call (c := makes desc) nofun
  have hvalid := h.answers.surface_valid surfaceLayout desc.width desc.height 1 0
  rw [hcall] at hvalid
  exact ⟨id, later, hcall, hlog, hvalid⟩

/-- Flags are written to the buffer of a filter. -/
theorem exists_updateFlags (h : Complies offer d.driver) {filter : BufferId}
    (hfilter : (filter.value, filterBufferType) ∈ buffers d.driver.log) (flags : DeintFlags) :
    ∃ later, Device.updateFlags filter flags d = (.ok (), { d with driver := later }) ∧
      Complies offer later ∧ buffers later.log = buffers d.driver.log ∧
        created later.log = created d.driver.log ∧ reading later.log =
          { reading d.driver.log with
            mapping := none
            written := (filter, flags) :: (reading d.driver.log).written } := by
  obtain ⟨address, mapped, hmap, hmapped, h₁⟩ := h.exists_call (c := .mapBuffer filter.value)
    fun id hid => Call.mapBuffer.inj hid ▸ hfilter
  have hnonnull := h.answers.mapped filter.value hfilter
  rw [hmap] at hnonnull
  obtain ⟨address, rfl⟩ := Option.ne_none_iff_exists'.1 hnonnull
  have h₂ := h₁.write address (.flags flags.bits)
  obtain ⟨⟨⟩, later, hunmap, hlog, h₃⟩ := h₂.exists_call (c := .unmapBuffer filter.value) nofun
  refine ⟨later, ?_, h₃, ?_⟩
  · simp only [Device.updateFlags, updateFlags, ask_of_call hmap, Display.write, run, hunmap]
  · have hwritten : (Library.write address (.flags flags.bits) mapped).log =
      .wrote address (.flags flags.bits) :: mapped.log := rfl
    rw [hlog, hwritten, hmapped]
    exact ⟨rfl, rfl, Reading.next_flags (reading d.driver.log) filter address flags⟩

/-- What is told after the flags of a picture: its request, in a buffer of its own. -/
theorem exists_finish (h : Complies offer d.driver) (context : ContextId)
    (request : RenderRequest) : ∃ id d₁ d₂ d₃ later,
      Device.createRequest context request d = (.ok ⟨id⟩, d₁) ∧
      Device.renderPicture context [⟨id⟩] d₁ = (.ok (), d₂) ∧
      Device.endPicture context d₂ = (.ok (), d₃) ∧
      Device.destroyBuffer ⟨id⟩ d₃ = { d with driver := later, pending := [] } ∧
      Complies offer later ∧
      ((buffers d.driver.log).length < noObject → id ∉ (buffers d.driver.log).map (·.1)) ∧
      later.log = .called (.destroyBuffer id) success () ::
        .called (.endPicture context.value) success () ::
        .called (.renderPicture context.value [id]) success () ::
        .called (.createBuffer context.value 1 (.picture (pictureParams request))) success id ::
          d.driver.log := by
  have hfresh := h.answers.buffer_fresh context.value 1 (.picture (pictureParams request))
  obtain ⟨id, made, hmake, hmade, h₁⟩ := h.exists_call
    (c := .createBuffer context.value 1 (.picture (pictureParams request))) nofun
  obtain ⟨⟨⟩, rendered, hrender, hrendered, h₂⟩ :=
    h₁.exists_call (c := .renderPicture context.value [id]) nofun
  obtain ⟨⟨⟩, ended, hend, hended, h₃⟩ := h₂.exists_call (c := .endPicture context.value) nofun
  obtain ⟨⟨⟩, later, hdestroy, hlater, h₄⟩ := h₃.exists_call (c := .destroyBuffer id) nofun
  rw [hmake] at hfresh
  refine ⟨id, { d with driver := made, pending := request :: d.pending },
    { d with driver := rendered, pending := request :: d.pending },
    { d with driver := ended, pending := [] }, later, ?_,
    ask_of_call (d := { d with driver := made, pending := request :: d.pending }) hrender, ?_, ?_,
    h₄, hfresh, ?_⟩
  · simp only [Device.createRequest, createRequest, ask_of_call hmake]
  · simp only [Device.endPicture, endPicture, hend, check, if_true]
  · simp only [Device.destroyBuffer, destroyBuffer, run, hdestroy]
  · rw [hlater, hended, hrendered, hmade]

/-- **What a driver is told for a submission.** -/
theorem exists_submit (h : Complies offer d.driver) {owned : List BufferId}
    (hfitted : Fitted owned d.driver.log) (hroom : owned.length < noObject) (context : ContextId)
    {filter : BufferId} (hfilter : filter ∈ owned) (flags : DeintFlags) {request : RenderRequest}
    (hhead : request.filters.head? = some filter) : ∃ later,
      Rendering.submit context (some filter) flags request d =
        (.ok (), { d with driver := later, pending := [] }) ∧
      Complies offer later ∧ Fitted owned later.log ∧
      created later.log = created d.driver.log ∧
      (reading later.log).pictures =
        some ⟨request, some flags⟩ :: (reading d.driver.log).pictures := by
  obtain ⟨⟨⟩, begun, hbegin, hbegun, h₁⟩ := h.exists_call
    (c := .beginPicture context.value request.destination.value) nofun
  have hbuffers₁ : buffers begun.log = buffers d.driver.log := by
    rw [hbegun]
    rfl
  obtain ⟨flagged, hflag, h₂, hbuffers₂, hcreated, hread⟩ :=
    exists_updateFlags (d := { d with driver := begun }) h₁
      (by rw [hbuffers₁]; exact hfitted.mem hfilter) flags
  have happlied : Rendering.applyFlags (some filter) flags { d with driver := begun } = _ := hflag
  obtain ⟨id, d₁, d₂, d₃, later, hcreate, hrender, hend, hdestroy, h₃, hfresh, hlog⟩ :=
    exists_finish (d := { d with driver := flagged }) h₂ context request
  have hbuffers : buffers flagged.log = buffers d.driver.log := hbuffers₂.trans hbuffers₁
  refine ⟨later, ?_, h₃, hfitted.congr ?_, ?_, ?_⟩
  · rw [Rendering.submit_of_ok (ask_of_call hbegin) happlied hcreate hrender hend, hdestroy]
  · -- the buffer of the request is gone, and it was none of the filters
    have hnew := hfresh (by rw [hbuffers, hfitted.length_eq]; exact hroom)
    have hmade : buffers later.log =
        ((id, requestBufferType) :: buffers flagged.log).filter (·.1 != id) := by
      rw [hlog]
      rfl
    rw [hmade, List.filter_cons_of_neg (by simp), List.filter_eq_self.2, hbuffers]
    intro buffer hbuffer
    refine bne_iff_ne.2 ?_
    rintro rfl
    exact hnew (List.mem_map_of_mem hbuffer)
  · rw [hlog]
    refine hcreated.trans ?_
    rw [hbegun]
    rfl
  · have hasked : (reading later.log).pictures =
        ((reading flagged.log).next
          (.called (.createBuffer context.value 1 (.picture (pictureParams request)))
            success id)).pictures := by
      rw [hlog]
      rfl
    rw [hasked, hread, hbegun]
    exact Reading.next_picture { reading d.driver.log with
      target := request.destination
      mapping := none
      written := (filter, flags) :: (reading d.driver.log).written } context.value 1 success id rfl
      hhead (by simp)

end Complies

end Deinterlace.Va
