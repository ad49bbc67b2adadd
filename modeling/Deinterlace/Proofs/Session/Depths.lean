import Deinterlace.Proofs.Device.Traced
import Deinterlace.Proofs.Session.Agreement
import Deinterlace.Proofs.Session.Journal
import Deinterlace.Proofs.Simulator.Opening

/-!
# What the window keeps is enough

A request asks for frames on both sides of the current one, as many as the chain says
(`Chain.asked`), and it can only name frames that the window keeps. After any calls, whatever has
failed on the way, a window that holds frames is either set up for passing them through or for the
filters that were built (`Session.Applied`), so that no request asks for more frames on a side than
the window keeps there (`Session.tuned_of_calls`).
-/
namespace Deinterlace

/-- How many earlier and later frames the chain's requests ask for. -/
def Chain.asked (c : Chain) : Nat × Nat :=
  let (forward, backward) := c.reportedReferences
  if c.options.swapReferences then (forward, backward) else (backward, forward)

/-- The references to earlier and to later frames, where the lists may be swapped. -/
def RenderRequest.sides (r : RenderRequest) (swapped : Bool) : List SurfaceId × List SurfaceId :=
  if swapped then (r.forwardReferences, r.backwardReferences)
  else (r.backwardReferences, r.forwardReferences)

/-! ## What a request asks for -/

namespace Rendering

theorem length_collectReferences_le (w : Window) (direction : Int) (fuel distance : Nat) :
    (collectReferences w direction fuel distance).length ≤ fuel := by
  induction fuel generalizing distance with
  | zero => exact Nat.le_refl 0
  | succ fuel ih =>
    unfold collectReferences
    split
    · exact Nat.zero_le _
    · split
      · exact Nat.succ_le_succ (ih (distance + 1))
      · exact Nat.zero_le _

theorem length_references_le (w : Window) (count : Nat) (direction : Int) :
    (references w count direction).length ≤ count :=
  Nat.le_trans (length_collectReferences_le w direction _ 1) (Nat.min_le_left _ _)

theorem length_sides_le (c : Chain) (w : Window) (current : Frame) (target : SurfaceId) :
    ((buildRequest c w current target).sides c.options.swapReferences).1.length ≤ c.asked.1 ∧
      ((buildRequest c w current target).sides c.options.swapReferences).2.length ≤ c.asked.2 := by
  have hforward := length_references_le w c.reportedReferences.1
  have hbackward := length_references_le w c.reportedReferences.2
  cases hswap : c.options.swapReferences <;>
    simp only [RenderRequest.sides, Chain.asked, buildRequest, hswap, if_true, if_false,
      Bool.false_eq_true]
  · exact ⟨hbackward _, hforward _⟩
  · exact ⟨hforward _, hbackward _⟩

theorem Transcript.request_eq {buffer : Option BufferId} {flags : DeintFlags}
    {request asked : RenderRequest} {outcome : Except DeviceError Unit}
    {result : Except DeviceError BufferId} {events : List Device.Event}
    (h : Transcript buffer flags request outcome events)
    (hmem : .createRequest asked result ∈ events) : asked = request := by
  have hflags : Device.Event.createRequest asked result ∉ flagEvents buffer flags := by
    simp [flagEvents]
  cases h <;> simp_all

/-- Every request of an output is one that is built from the chain and the window. -/
theorem Report.request_eq {c : Chain} {w : Window} {current : Frame}
    {picture : Except Error Frame} {asked : RenderRequest} {result : Except DeviceError BufferId}
    {events : List Device.Event} (h : Report c w current picture events)
    (hmem : .createRequest asked result ∈ events) :
    ∃ target, asked = buildRequest c w current target := by
  cases h with
  | unreached e => cases hmem
  | failed target h => exact ⟨target.id, h.request_eq hmem⟩
  | done target h => exact ⟨target.id, h.request_eq hmem⟩

end Rendering

variable {σ : Type} [Device σ]

namespace Session

theorem exists_request {s : Session σ} {asked : RenderRequest}
    {result : Except DeviceError BufferId} (h : .createRequest asked result ∈ s.renderEvents) :
    ∃ current target, asked = Rendering.buildRequest s.chain s.window current target := by
  obtain ⟨-, -, ⟨hnil, -⟩ | ⟨current, picture, -, -, -, -, hreport⟩⟩ := s.output_traced
  · rw [hnil] at h
    cases h
  · exact ⟨current, hreport.request_eq h⟩

/-! ## The filters that were built -/

theorem built_calls (s : Session σ) (calls : List (Call σ)) :
    (calls.foldl perform s).chain.options = s.chain.options ∧
      (calls.foldl perform s).chain.descriptors = s.chain.descriptors := by
  induction calls generalizing s with
  | nil => exact ⟨rfl, rfl⟩
  | cons call rest ih =>
    obtain ⟨hoptions, hdescriptors⟩ := ih (s.perform call)
    obtain ⟨hoptions', hdescriptors'⟩ := s.filters_perform call
    exact ⟨hoptions.trans hoptions', hdescriptors.trans hdescriptors'⟩

theorem options_of_open {options : Options} {device : σ} {s : Session σ}
    (h : open? options device = .ok s) : s.chain.options = options := by
  obtain ⟨config, d₁, context, d₂, available, d₃, descriptors, later, -, -, -, -, rfl⟩ :=
    eq_of_open h
  rfl

/-- The deinterlacing filters that were built are applied, and the window is set up for what the
device says they need. -/
structure Applied (s : Session σ) (options : Options) (built : List FilterDescriptor)
    (caps : PipelineCaps) : Prop where
  active_eq : s.chain.active = (built.filter (·.filter == .deinterlacing)).map (·.buffer)
  active_ne : s.chain.active ≠ []
  caps_eq : s.chain.caps = some caps
  deinterlace : s.window.mode.deinterlace = true
  outputFields : s.window.mode.outputFields = options.mode.doublesFields
  interlacedOnly : s.window.mode.interlacedOnly = options.interlacedOnly
  depths : (s.window.backwardDepth, s.window.forwardDepth) =
    if options.swapReferences then
      (max caps.forwardReferences caps.backwardReferences,
        max caps.forwardReferences caps.backwardReferences)
    else (caps.backwardReferences, caps.forwardReferences)

omit [Device σ] in
/-- Filters in force are all the filters there are, since none of them is of another type. -/
theorem Agrees.applied {s : Session σ} (h : s.Agrees) {key : ChainKey} {caps : PipelineCaps}
    (hlast : s.chain.last = some key) (hforce : s.InForce key caps) :
    s.Applied s.chain.options s.chain.descriptors caps where
  active_eq := by
    have hall : s.chain.descriptors.filter (·.filter == .deinterlacing) = s.chain.descriptors :=
      List.filter_eq_self.2 fun d hd => by rw [h.descriptors d hd]; rfl
    rw [hall, hforce.active_eq, (h.settled key hlast).1, hforce.on, Chain.filtersFor_true]
  active_ne := hforce.active_eq ▸ hforce.filters
  caps_eq := hforce.caps_eq
  deinterlace := by rw [hforce.mode, Chain.windowMode, WindowMode.deinterlace_ofSwitches]
  outputFields := by rw [hforce.mode, Chain.windowMode, WindowMode.outputFields_ofSwitches]
  interlacedOnly := by rw [hforce.mode, Chain.windowMode, WindowMode.interlacedOnly_ofSwitches]
  depths := hforce.depths

omit [Device σ] in
/-- A chain in agreement with its window asks for no more than the window keeps. -/
theorem Agrees.asked_le {s : Session σ} (h : s.Agrees) :
    s.chain.asked.1 ≤ s.window.backwardDepth ∧ s.chain.asked.2 ≤ s.window.forwardDepth := by
  have hnothing : s.chain.caps = none → s.chain.asked = (0, 0) := by
    intro hcaps
    simp [Chain.asked, Chain.reportedReferences, hcaps]
  cases hlast : s.chain.last with
  | none =>
    rw [hnothing (h.unset hlast).2]
    exact ⟨Nat.zero_le _, Nat.zero_le _⟩
  | some key =>
    obtain ⟨-, hidle | ⟨caps, hforce⟩⟩ := h.settled key hlast
    · rw [hnothing hidle.caps_eq]
      exact ⟨Nat.zero_le _, Nat.zero_le _⟩
    · have hdepths := hforce.depths
      unfold Chain.windowDepths at hdepths
      cases hswap : s.chain.options.swapReferences <;>
        simp only [hswap, if_true, if_false, Bool.false_eq_true, Prod.mk.injEq] at hdepths <;>
        obtain ⟨hbackward, hforward⟩ := hdepths <;>
        simp only [Chain.asked, Chain.reportedReferences, hforce.caps_eq, hswap, if_true, if_false,
          Bool.false_eq_true]
      · omega
      · omega

theorem agrees_calls {s : Session σ} (h : s.Agrees) (calls : List (Call σ)) :
    (calls.foldl perform s).Agrees := by
  induction calls generalizing s with
  | nil => exact h
  | cons call rest ih => exact ih (h.perform call)

/-- **The chain and the window agree whenever frames are held.** After any calls on a session that
has been opened, failing ones included, a window that holds frames belongs to a negotiation; either
frames pass through and the window keeps no others, or the filters that were built are applied and
the window is set up for them. So no request asks for more frames on a side than the window keeps
there. -/
theorem tuned_of_calls {options : Options} {device : σ} {opened s : Session σ}
    (hopen : open? options device = .ok opened) (calls : List (Call σ))
    (hs : calls.foldl perform opened = s) :
    (s.window.frames ≠ [] → s.chain.last ≠ none ∧
      (s.Idle ∨ ∃ caps, s.Applied options opened.chain.descriptors caps)) ∧
    (s.chain.asked.1 ≤ s.window.backwardDepth ∧ s.chain.asked.2 ≤ s.window.forwardDepth) ∧
    ∀ request result, .createRequest request result ∈ s.renderEvents →
      (request.sides options.swapReferences).1.length ≤ s.chain.asked.1 ∧
      (request.sides options.swapReferences).2.length ≤ s.chain.asked.2 := by
  have hagrees : s.Agrees := hs ▸ agrees_calls (agrees_of_open hopen) calls
  obtain ⟨hoptions, hbuilt⟩ := hs ▸ opened.built_calls calls
  rw [options_of_open hopen] at hoptions
  refine ⟨fun hheld => ?_, hagrees.asked_le, fun request result hrequest => ?_⟩
  · obtain ⟨key, hlast⟩ := Option.ne_none_iff_exists'.1 (hagrees.held hheld)
    refine ⟨hagrees.held hheld, ?_⟩
    obtain ⟨-, hidle | ⟨caps, hforce⟩⟩ := hagrees.settled key hlast
    · exact .inl hidle
    · refine .inr ⟨caps, ?_⟩
      rw [← hoptions, ← hbuilt]
      exact hagrees.applied hlast hforce
  · obtain ⟨current, target, rfl⟩ := exists_request hrequest
    rw [← hoptions]
    exact Rendering.length_sides_le s.chain s.window current target

/-- Three frames, the first of which is output as soon as the second one is there. -/
def threeFrames : List (Call Simulator) :=
  [.reconfigure (.hardware 720 576 720 576), .input (some (Frame.decoded ⟨1⟩ 720 576)),
    .input (some (Frame.decoded ⟨2⟩ 720 576)), .take,
    .input (some (Frame.decoded ⟨3⟩ 720 576))]

/-- A device that looks at one frame on either side has the window keep them. -/
theorem tuned_of_threeFrames :
    ∃ s, open? {} (({} : Simulator).withReferences 1 1) = .ok s ∧
      (threeFrames.foldl perform s).window.frames.map (·.surfaceId) = [⟨1⟩, ⟨2⟩, ⟨3⟩] ∧
      (threeFrames.foldl perform s).chain.asked = (1, 1) ∧
      ∃ caps, (threeFrames.foldl perform s).Applied {} s.chain.descriptors caps := by
  obtain ⟨s, hs⟩ : ∃ s, open? {} (({} : Simulator).withReferences 1 1) = .ok s := ⟨_, rfl⟩
  have htuned := tuned_of_calls hs threeFrames rfl
  cases hs
  refine ⟨_, rfl, by decide, by decide, ?_⟩
  obtain ⟨-, hidle | happlied⟩ := htuned.1 (by decide)
  · exact absurd hidle.caps_eq (by decide)
  · exact happlied

end Session

end Deinterlace
