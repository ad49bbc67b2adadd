import Deinterlace.Proofs.Session.Call
import Deinterlace.Proofs.Window.Segment

/-!
# The chain and the window agree

The outcome of a negotiation is kept in two places: the chain remembers the filters and what they
need, the window its depths and its mode. `Session.Agrees` says how the two fit together: after a
negotiation either frames pass through and the window asks for no others (`Idle`), or all filters
that were built are applied and the window is set up for them (`InForce`). Every call on a session
keeps this (`Agrees.perform`), and it holds of a session that has just been opened
(`agrees_of_open`).
-/
namespace Deinterlace

variable {σ : Type} [Device σ]

/-! ## The filters of a chain -/

namespace Chain

theorem filtersFor_true (c : Chain) : c.filtersFor true = c.descriptors.map (·.buffer) := by
  have hall : c.descriptors.filter (fun d => true || d.filter != .deinterlacing) = c.descriptors :=
    List.filter_eq_self.2 fun _ _ => rfl
  rw [filtersFor, hall]

/-- A chain of deinterlacing filters has nothing left when deinterlacing is off. -/
theorem filtersFor_false {c : Chain} (h : ∀ d ∈ c.descriptors, d.filter = .deinterlacing) :
    c.filtersFor false = [] := by
  have hnone : (c.descriptors.filter fun d => false || d.filter != .deinterlacing) = [] := by
    rw [List.filter_eq_nil_iff]
    intro d hd
    simp [h d hd]
  rw [filtersFor, hnone, List.map_nil]

/-- When all filters are applied, the first of them is the one whose flags are set. -/
theorem deinterlaceBuffer?_eq {c : Chain} (h : ∀ d ∈ c.descriptors, d.filter = .deinterlacing)
    (hactive : c.active = c.filtersFor true) :
    c.deinterlaceBuffer? = (c.filtersFor true).head? := by
  rw [filtersFor_true] at hactive ⊢
  unfold deinterlaceBuffer?
  rw [hactive]
  cases hd : c.descriptors with
  | nil => rfl
  | cons first rest =>
    have hfirst : first.filter = .deinterlacing := h first (by simp [hd])
    simp [hfirst]

theorem buildDeinterlacer_filter (context : ContextId) (mode : Mode) (device : σ) :
    ∀ d ∈ (buildDeinterlacer context mode device).1, d.filter = .deinterlacing := by
  intro d hd
  unfold buildDeinterlacer at hd
  split at hd
  · cases hd
  · split at hd
    · cases hd
    · split at hd
      · cases hd
      · split at hd
        · cases hd
        · cases hd
          rfl

theorem buildDescriptors_filter (context : ContextId) (mode : Mode) (filters : List FilterType)
    (device : σ) : ∀ d ∈ (buildDescriptors context mode filters device).1,
      d.filter = .deinterlacing := by
  induction filters generalizing device with
  | nil => simp [buildDescriptors]
  | cons filter rest ih =>
    cases filter
    case deinterlacing =>
      intro d hd
      simp only [buildDescriptors, List.mem_append, Option.mem_toList] at hd
      rcases hd with hmade | hother
      · exact buildDeinterlacer_filter context mode device d hmade
      · exact ih _ d hother
    all_goals exact ih device

end Chain

/-- Whether a frame is deinterlaced while the filters are applied. -/
def Options.treats (o : Options) (frame : Frame) : Bool := frame.isInterlaced || !o.interlacedOnly

/-! ## Agreement -/

namespace Session

/-- Frames pass through, and the window keeps none but those that are pending. -/
structure Idle (s : Session σ) : Prop where
  active_eq : s.chain.active = []
  caps_eq : s.chain.caps = none
  backwardDepth : s.window.backwardDepth = 0
  forwardDepth : s.window.forwardDepth = 0
  mode : s.window.mode = .passThrough

/-- The filters of `key` are applied, and the window is set up for what the device needs. -/
structure InForce (s : Session σ) (key : ChainKey) (caps : PipelineCaps) : Prop where
  on : key.deinterlace = true
  filters : key.filters ≠ []
  active_eq : s.chain.active = key.filters
  caps_eq : s.chain.caps = some caps
  depths : (s.window.backwardDepth, s.window.forwardDepth) =
    Chain.windowDepths s.chain.options caps
  mode : s.window.mode = Chain.windowMode s.chain.options true

/-- The chain and the window agree on the last negotiation. -/
structure Agrees (s : Session σ) : Prop where
  descriptors : ∀ d ∈ s.chain.descriptors, d.filter = .deinterlacing
  held : s.window.frames ≠ [] → s.chain.last ≠ none
  unset : s.chain.last = none → s.chain.active = [] ∧ s.chain.caps = none
  settled : ∀ key, s.chain.last = some key →
    key.filters = s.chain.filtersFor key.deinterlace ∧ (s.Idle ∨ ∃ caps, s.InForce key caps)

omit [Device σ] in
/-- Agreement depends on the chain, on the window's settings and on whether it holds frames. -/
theorem Agrees.congr {s t : Session σ} (h : s.Agrees) (hchain : t.chain = s.chain)
    (hbackward : t.window.backwardDepth = s.window.backwardDepth)
    (hforward : t.window.forwardDepth = s.window.forwardDepth)
    (hmode : t.window.mode = s.window.mode)
    (hheld : t.window.frames ≠ [] → s.chain.last ≠ none) : t.Agrees where
  descriptors := hchain ▸ h.descriptors
  held := hchain ▸ hheld
  unset := hchain ▸ h.unset
  settled key hkey := by
    obtain ⟨hfilters, hidle | ⟨caps, hforce⟩⟩ := h.settled key (hchain ▸ hkey)
    · exact ⟨hchain ▸ hfilters, .inl ⟨hchain ▸ hidle.active_eq, hchain ▸ hidle.caps_eq,
        hbackward.trans hidle.backwardDepth, hforward.trans hidle.forwardDepth,
        hmode.trans hidle.mode⟩⟩
    · refine ⟨hchain ▸ hfilters, .inr ⟨caps, hforce.on, hforce.filters, hchain ▸ hforce.active_eq,
        hchain ▸ hforce.caps_eq, ?_, ?_⟩⟩
      · rw [hbackward, hforward, hchain, hforce.depths]
      · rw [hmode, hchain, hforce.mode]

omit [Device σ] in
theorem Agrees.exists_inForce {s : Session σ} (h : s.Agrees) (hactive : s.chain.active ≠ []) :
    ∃ key caps, s.chain.last = some key ∧ s.InForce key caps := by
  cases hlast : s.chain.last with
  | none => exact absurd (h.unset hlast).1 hactive
  | some key =>
    obtain ⟨-, hidle | ⟨caps, hforce⟩⟩ := h.settled key hlast
    · exact absurd hidle.active_eq hactive
    · exact ⟨key, caps, rfl, hforce⟩

omit [Device σ] in
theorem Agrees.passesThrough_eq {s : Session σ} (h : s.Agrees) {frame : Frame}
    (hout : s.window.hasOutput = true) (hcur : s.window.current? = some frame) :
    s.passesThrough = (s.chain.active.isEmpty || !s.chain.options.treats frame) := by
  unfold passesThrough
  cases hempty : s.chain.active.isEmpty with
  | true => rfl
  | false =>
    have hactive : s.chain.active ≠ [] := by
      intro hnil
      rw [hnil] at hempty
      cases hempty
    obtain ⟨key, caps, -, hforce⟩ := h.exists_inForce hactive
    simp [Window.shouldDeinterlace, hout, hcur, hforce.mode, Chain.windowMode, Options.treats]

theorem configure_agrees {s : Session σ} (h : s.Agrees) :
    s.configure.Agrees ∧ s.configure.chain.last = some (s.chain.keyFor s.deinterlacing) := by
  rw [configure_eq]
  rcases Chain.configure_cases s.chain s.context s.deinterlacing s.window s.device with
    ⟨hlast, heq⟩ | ⟨-, later, -, heq⟩ | ⟨-, hfilters, caps, later, -, heq⟩
  · rw [heq]
    exact ⟨h.congr rfl rfl rfl rfl h.held, hlast⟩
  · rw [heq]
    refine ⟨⟨h.descriptors, fun _ => Option.some_ne_none _, fun hnone => ?_, fun key hkey => ?_⟩,
      rfl⟩
    · cases hnone
    · cases hkey
      exact ⟨rfl, .inl ⟨rfl, rfl, rfl, rfl, rfl⟩⟩
  · rw [heq]
    -- with deinterlacing off there would be no filter to apply
    have hon : s.deinterlacing = true := by
      cases hoff : s.deinterlacing with
      | true => rfl
      | false =>
        rw [hoff] at hfilters
        exact absurd (Chain.filtersFor_false h.descriptors) hfilters
    refine ⟨⟨h.descriptors, fun _ => Option.some_ne_none _, fun hnone => ?_, fun key hkey => ?_⟩,
      rfl⟩
    · cases hnone
    · cases hkey
      refine ⟨rfl, .inr ⟨caps, hon, hfilters, rfl, rfl, rfl, ?_⟩⟩
      show Chain.windowMode s.chain.options s.deinterlacing = Chain.windowMode s.chain.options true
      rw [hon]

theorem input_agrees {s : Session σ} (h : s.Agrees) (frame : Option Frame) :
    (s.input frame).2.Agrees := by
  obtain ⟨hconf, hlast⟩ := configure_agrees h
  have hset : s.configure.chain.last ≠ none := by
    rw [hlast]
    exact Option.some_ne_none _
  rcases s.input_cases frame with ⟨-, heq⟩ | ⟨given, -, -, heq⟩ |
    ⟨given, uploaded, device, -, -, heq⟩ | ⟨given, e, device, -, -, heq⟩ <;> rw [heq] <;>
    exact hconf.congr rfl rfl rfl rfl fun _ => hset

theorem output_agrees {s : Session σ} (h : s.Agrees) : s.output.2.Agrees := by
  have hset : ∀ {frame}, s.window.current? = some frame → s.chain.last ≠ none :=
    fun hcur => h.held (Window.frames_ne_nil hcur)
  rcases s.output_cases with ⟨-, heq⟩ | ⟨frame, -, hcur, -, heq⟩ |
    ⟨frame, picture, device, stats, -, hcur, -, -, heq⟩
  · rw [heq]
    exact h
  · rw [heq]
    exact h.congr rfl s.window.backwardDepth_advanceFrame s.window.forwardDepth_advanceFrame
      s.window.mode_advanceFrame fun _ => hset hcur
  · rw [heq]
    exact h.congr rfl s.window.backwardDepth_advanceField s.window.forwardDepth_advanceField
      s.window.mode_advanceField fun _ => hset hcur

theorem seek_agrees {s : Session σ} (h : s.Agrees) : s.seek.Agrees :=
  h.congr rfl rfl rfl rfl fun hne => absurd rfl hne

theorem forget_agrees {s : Session σ} (h : s.Agrees) : s.forget.Agrees := by
  have hchain := s.chain_forget
  refine ⟨?_, ?_, ?_, ?_⟩
  · rw [hchain]
    exact h.descriptors
  · intro hne
    rw [s.window_forget] at hne
    exact absurd rfl hne
  · intro _
    rw [hchain]
    exact ⟨rfl, rfl⟩
  · intro key hkey
    rw [hchain] at hkey
    cases hkey

theorem reconfigure_agrees {s : Session σ} (h : s.Agrees) (params : StreamParams) :
    (s.reconfigure params).2.Agrees := by
  have hforget := forget_agrees h
  rcases s.reconfigure_cases params with ⟨e, device, heq⟩ | ⟨desc, pool, device, -, -, heq⟩ <;>
    rw [heq] <;> exact hforget.congr rfl rfl rfl rfl hforget.held

/-- **Every call keeps the agreement.** -/
theorem Agrees.perform {s : Session σ} (h : s.Agrees) (call : Call σ) :
    (s.perform call).Agrees := by
  cases call with
  | input frame => exact input_agrees h frame
  | output => exact output_agrees h
  | take =>
    obtain ⟨-, device, heq⟩ := s.take_cases
    show s.take.2.Agrees
    rw [heq]
    have hout := output_agrees h
    exact hout.congr rfl rfl rfl rfl hout.held
  | seek => exact seek_agrees h
  | switch on =>
    show (s.setDeinterlacing on).2.Agrees
    unfold setDeinterlacing
    split <;> exact h.congr rfl rfl rfl rfl h.held
  | reconfigure params => exact reconfigure_agrees h params
  | alter change => exact h.congr rfl rfl rfl rfl h.held

/-- What a session is that has just been opened, and the calls that made it. -/
theorem eq_of_open {options : Options} {device : σ} {s : Session σ}
    (h : open? options device = .ok s) :
    ∃ config d₁ context d₂ available d₃ descriptors later,
      Device.createConfig device = (.ok config, d₁) ∧
      Device.createContext config d₁ = (.ok context, d₂) ∧
      Device.queryFilters context d₂ = (.ok available, d₃) ∧
      Chain.buildDescriptors context options.mode available d₃ = (descriptors, later) ∧
      s = { device := later, config := config, context := context,
            chain := { options := options, descriptors := descriptors },
            deinterlacing := options.mode.isEnabled } := by
  unfold open? at h
  split at h
  · cases h
  · rename_i config d₁ hconfig
    split at h
    · cases h
    · rename_i context d₂ hcontext
      unfold Chain.build at h
      split at h
      · cases h
      · rename_i hbuild
        split at hbuild
        · cases hbuild
        · rename_i available d₃ hfilters
          cases hbuild
          cases h
          exact ⟨config, d₁, context, d₂, available, d₃, _, _, hconfig, hcontext, hfilters, rfl,
            rfl⟩

/-- **A session that has just been opened agrees.** -/
theorem agrees_of_open {options : Options} {device : σ} {s : Session σ}
    (h : open? options device = .ok s) : s.Agrees := by
  obtain ⟨config, d₁, context, d₂, available, d₃, descriptors, later, -, -, -, hbuild, rfl⟩ :=
    eq_of_open h
  refine ⟨?_, fun hne => absurd rfl hne, fun _ => ⟨rfl, rfl⟩, fun key hkey => by cases hkey⟩
  have hdesc := Chain.buildDescriptors_filter context options.mode available d₃
  rw [hbuild] at hdesc
  exact hdesc

end Session

end Deinterlace
