import Deinterlace.Proofs.Session.Reference
import Deinterlace.Proofs.Simulator.Opening

/-!
# Outputs on a simulated device

`Session.Tuned` says of a session on a simulated device that it is set up for a stream and that it
has negotiated, if at all, about what it is set up for. Negotiation then puts all filters in force
(`Tuned.configure`), and an output is one of the emissions of the stream: the current frame
(`Tuned.take_passed`) or the picture of one of its fields (`Tuned.take_rendered`).
-/
namespace Deinterlace

open Simulator

/-- A submission without its target. -/
def Simulator.Submission.untargeted (submission : Submission) : Submission :=
  { submission with request := { submission.request with destination := .invalid } }

namespace Emission

/-- What the device is asked for. -/
def submission? : Emission → Option Submission
  | .whole _ => none
  | .picture _ request flags => some ⟨request, some flags⟩

/-- The outcome of an output is the emission: the frame itself, or a picture on some surface of a
pool with the attributes of the frame, which is not interlaced any more. Its time is left open. -/
def Shows (desc : PoolDesc) : Emission → Except Error Frame → Prop
  | .whole frame, result => result = .ok frame
  | .picture frame _ _, result => ∃ id pts lease, result = .ok
      { format := .vaapi
        width := frame.width
        height := frame.height
        colorspace := frame.colorspace
        pts := pts
        fields := frame.fields.progressive
        content := .surface ⟨id, desc.width, desc.height, lease⟩ }

end Emission

theorem Reel.shows_pictureOf {r : Reel} {w : Window} {passed : Nat} {frame : Frame}
    (hcur : w.current? = some frame) (hshould : w.shouldDeinterlace = true) {desc : PoolDesc}
    {id : SurfaceId} {lease : Option LeaseId} :
    (r.picture passed frame w.secondField).Shows desc
      (.ok (Rendering.pictureOf w frame ⟨id, desc.width, desc.height, lease⟩)) := by
  have hfield : Rendering.fieldOf w ≠ .frame := by
    rw [Rendering.fieldOf_eq hcur hshould]
    split <;> simp
  refine ⟨id, w.currentPts, lease, ?_⟩
  rw [Rendering.pictureOf, if_neg hfield]
  rfl

namespace Session

/-- A session that is set up and negotiates about what it is set up for. -/
structure Tuned (s : Session Simulator) (r : Reel) (u : Setup) (rendered : List Submission) :
    Prop extends SetUp s r.options u rendered where
  agrees : s.Agrees
  filters_set : r.filters = u.filters
  caps_set : r.caps = u.caps
  last : s.chain.last = none ∨ s.chain.last = some (s.chain.keyFor s.deinterlacing)
  active_eq : s.chain.last ≠ none → s.chain.active = r.filters
  caps_eq : ∀ caps, s.chain.caps = some caps → caps = r.caps

namespace Tuned

variable {s : Session Simulator} {r : Reel} {u : Setup} {rendered : List Submission}

theorem keyFor_filters (h : s.Tuned r u rendered) :
    (s.chain.keyFor s.deinterlacing).filters = r.filters := by
  show s.chain.filtersFor s.deinterlacing = r.filters
  rw [h.filters_set]
  cases hon : s.deinterlacing with
  | true => exact h.filters_eq
  | false =>
    rw [Chain.filtersFor_false h.agrees.descriptors]
    by_contra hne
    have henabled := h.filters_ne.1 (Ne.symm hne)
    rw [← h.deinterlacing_eq, hon] at henabled
    cases henabled

/-- The frames that a window lets go of were in it. -/
theorem releaseFrames_retired {d : Simulator} {held : List Lease} (h : d.Ready u held rendered)
    {w : Window} (hframes : ∀ frame ∈ w.frames, Ready.Earlier u frame) (later : Window) :
    (Device.releaseFrames (w.retired later) d).Ready u held rendered :=
  h.releaseFrames fun frame hframe => hframes frame (List.mem_of_mem_take hframe)

/-- Negotiation puts all filters in force. -/
theorem configure (h : s.Tuned r u rendered)
    (hframes : ∀ frame ∈ s.window.frames, Ready.Earlier u frame) :
    s.configure.Tuned r u rendered ∧
      s.configure.chain.last = some (s.chain.keyFor s.deinterlacing) := by
  rcases h.last with hlast | hlast
  · obtain ⟨hagrees, hset⟩ := configure_agrees h.agrees
    refine ⟨?_, hset⟩
    have hkey := h.keyFor_filters
    obtain ⟨asked, hasked, hready⟩ := h.ready.queryCaps s.context
      (s.chain.keyFor s.deinterlacing).filters
    rw [configure_eq] at hagrees hset ⊢
    rcases Chain.configure_cases s.chain s.context s.deinterlacing s.window s.device with
      ⟨hsame, -⟩ | ⟨-, later, hdeclined, heq⟩ | ⟨-, -, caps, later, hok, heq⟩
    · rw [hlast] at hsame
      cases hsame
    · rw [heq] at hagrees hset ⊢
      rcases hdeclined with ⟨hnil, rfl⟩ | ⟨e, herror⟩
      · have hdevice := releaseFrames_retired h.ready hframes (Chain.passThrough s.window)
        exact ⟨⟨h.options_eq, h.deinterlacing_eq, h.pool_eq, h.filters_eq, h.filters_ne, hdevice⟩,
          hagrees, h.filters_set, h.caps_set, .inr rfl, fun _ => (hkey ▸ hnil).symm,
          fun _ hcaps => by cases hcaps⟩
      · rw [hasked] at herror
        cases herror
    · rw [heq] at hagrees hset ⊢
      rw [hasked] at hok
      cases hok
      have hdevice := releaseFrames_retired hready hframes
        (Chain.fitWindow s.chain.options s.deinterlacing u.caps s.window)
      refine ⟨⟨h.options_eq, h.deinterlacing_eq, h.pool_eq, h.filters_eq, h.filters_ne, hdevice⟩,
        hagrees, h.filters_set, h.caps_set, .inr rfl, fun _ => hkey, fun _ hcaps => ?_⟩
      cases hcaps
      exact h.caps_set.symm
  · rw [configure_of_last hlast]
    exact ⟨h, hlast⟩

theorem passesThrough_eq (h : s.Tuned r u rendered) {frame : Frame}
    (hout : s.window.hasOutput = true) (hcur : s.window.current? = some frame) :
    s.passesThrough = !(r.options.mode.isEnabled && r.options.treats frame) := by
  have hactive := h.active_eq (h.agrees.held (Window.frames_ne_nil hcur))
  rw [h.agrees.passesThrough_eq hout hcur, hactive, h.options_eq, h.filters_set]
  have hne := h.filters_ne
  cases henabled : r.options.mode.isEnabled with
  | true =>
    rw [henabled] at hne
    have hsome : u.filters.isEmpty = false := by simpa using hne.2 rfl
    rw [hsome]
    rfl
  | false =>
    rw [henabled] at hne
    have hnil : u.filters = [] := by simpa using hne
    rw [hnil]
    rfl

/-- Whatever leaves the chain, the switch and the pool alone keeps a session tuned, as long as the
device is ready. -/
theorem congr (h : s.Tuned r u rendered) {t : Session Simulator} {rendered' : List Submission}
    (hchain : t.chain = s.chain) (hon : t.deinterlacing = s.deinterlacing) (hpool : t.pool = s.pool)
    (hagrees : t.Agrees) (hready : t.device.Ready u [] rendered') : t.Tuned r u rendered' where
  options_eq := hchain ▸ h.options_eq
  deinterlacing_eq := hon ▸ h.deinterlacing_eq
  pool_eq := hpool ▸ h.pool_eq
  filters_eq := hchain ▸ h.filters_eq
  filters_ne := h.filters_ne
  ready := hready
  agrees := hagrees
  filters_set := h.filters_set
  caps_set := h.caps_set
  last := by
    rw [hchain, hon]
    exact h.last
  active_eq := hchain ▸ h.active_eq
  caps_eq := hchain ▸ h.caps_eq

/-- A frame passes through and is given back. -/
theorem take_passed (h : s.Tuned r u rendered)
    (hframes : ∀ frame ∈ s.window.frames, Ready.Earlier u frame) {frame : Frame}
    (hout : s.window.hasOutput = true) (hcur : s.window.current? = some frame)
    (hpass : s.passesThrough = true) :
    s.output.1 = .ok (some frame) ∧ s.take.2.window = s.window.advanceFrame ∧
      s.take.2.Tuned r u rendered := by
  have hearlier : Ready.Earlier u frame := hframes frame (List.mem_of_getElem? hcur)
  have heq := output_of_passed hout hcur hpass
  have htake : s.take = (.ok (some frame), s.output.2.dropFrame frame) := by
    simp only [take, heq]
  have hretired := releaseFrames_retired (h.ready.retainFrame hearlier) hframes
    s.window.advanceFrame
  have hready := hretired.releaseFrame hearlier
  have hagrees := h.agrees.perform .take
  rw [perform, htake, heq] at hagrees
  refine ⟨by rw [heq], by rw [htake, heq]; rfl, ?_⟩
  rw [htake, heq]
  exact h.congr rfl rfl rfl hagrees hready

/-- What is in force while a picture is rendered. -/
structure Filtering (s : Session Simulator) (r : Reel) (u : Setup) : Prop where
  should : s.window.shouldDeinterlace = true
  active_eq : s.chain.active = r.filters
  caps_eq : s.chain.caps = some r.caps
  depths : (s.window.backwardDepth, s.window.forwardDepth) = Chain.windowDepths r.options r.caps
  mode : s.window.mode = Chain.windowMode r.options true
  filter : ∃ filter rest, u.filters = filter :: rest ∧ s.chain.deinterlaceBuffer? = some filter

theorem filtering (h : s.Tuned r u rendered) (hpass : s.passesThrough = false) :
    Filtering s r u := by
  simp only [passesThrough, Bool.or_eq_false_iff, Bool.not_eq_false'] at hpass
  have hactive : s.chain.active ≠ [] := by
    intro hnil
    rw [hnil] at hpass
    cases hpass.1
  obtain ⟨key, caps, hlast, hforce⟩ := h.agrees.exists_inForce hactive
  have hcaps := h.caps_eq caps hforce.caps_eq
  subst hcaps
  have hfilters : s.chain.active = r.filters := h.active_eq (by simp [hlast])
  refine ⟨hpass.2, hfilters, hforce.caps_eq, h.options_eq ▸ hforce.depths,
    h.options_eq ▸ hforce.mode, ?_⟩
  have hall : s.chain.active = s.chain.filtersFor true := by
    rw [hfilters, h.filters_set, h.filters_eq]
  have hbuffer := Chain.deinterlaceBuffer?_eq h.agrees.descriptors hall
  rw [← hall, hfilters, h.filters_set] at hbuffer
  rw [hfilters, h.filters_set] at hactive
  obtain ⟨filter, rest, hcons⟩ := List.exists_cons_of_ne_nil hactive
  exact ⟨filter, rest, hcons, by rw [hbuffer, hcons]; rfl⟩

/-- A field is rendered and its picture is given back. -/
theorem take_rendered (h : s.Tuned r u rendered)
    (hframes : ∀ frame ∈ s.window.frames, Ready.Earlier u frame) {accepted : List Frame}
    {passed : Nat} {frame : Frame} (hstand : s.window.StandsAt accepted passed)
    (hfull : s.window.Full passed) (hvalid : ∀ x ∈ accepted, x.surfaceId.isValid = true)
    (hbegins : accepted <+: r.frames) (hended : s.window.ended = true → accepted = r.frames)
    (hcur : s.window.current? = some frame) (hpass : s.passesThrough = false) :
    ∃ picture submission, s.output.1 = .ok (some picture) ∧
      (r.picture passed frame s.window.secondField).Shows u.desc (.ok picture) ∧
      (r.picture passed frame s.window.secondField).submission? =
        some (Submission.untargeted submission) ∧
      s.take.2.window = s.window.advanceField ∧ s.take.2.Tuned r u (submission :: rendered) := by
  have hforce := h.filtering hpass
  obtain ⟨filter, rest, hfilters, hbuffer⟩ := hforce.filter
  have hframe : frame.surfaceId.isValid = true := by
    rw [hstand.current?_eq] at hcur
    exact hvalid frame (List.mem_of_getElem? hcur)
  obtain ⟨id, later, hrender, hready⟩ := h.ready.render s.context (w := s.window) hfilters
    (hforce.active_eq.trans h.filters_set) hbuffer hframe
  rw [← h.pool_eq] at hrender
  have hout := Window.hasOutput_of_shouldDeinterlace hforce.should
  obtain ⟨stats, heq⟩ := output_of_rendered hout hcur hpass hrender
  have htake : s.take.2 = s.output.2.dropFrame (Rendering.pictureOf s.window frame
      ⟨id, u.desc.width, u.desc.height, some s.device.leases.nextKey⟩) := by
    simp only [take, heq]
    rfl
  have hready' := (releaseFrames_retired hready hframes s.window.advanceField).release_held
  have hagrees : s.take.2.Agrees := h.agrees.perform .take
  have hrequest := Reel.request_eq hstand hfull hvalid hbegins hended hcur hforce.should
    h.options_eq hforce.active_eq hforce.caps_eq hforce.depths id
  refine ⟨_, ⟨Rendering.buildRequest s.chain s.window frame id,
      some (.ofField (Rendering.fieldOf s.window) s.window.topFieldFirst)⟩, by rw [heq]; rfl,
    Reel.shows_pictureOf hcur hforce.should, ?_, by rw [htake, heq]; rfl, ?_⟩
  · rw [Submission.untargeted, hrequest, Reel.flags_eq hcur hforce.should]
    rfl
  · rw [htake, heq] at hagrees ⊢
    exact h.congr rfl rfl rfl hagrees hready'

end Tuned

end Session

end Deinterlace
