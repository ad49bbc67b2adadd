import Deinterlace.Proofs.Device.Recorded
import Deinterlace.Proofs.Session.Agreement
import Deinterlace.Proofs.Session.Depths
import Deinterlace.Proofs.Simulator.Effects

/-!
# Without a filter to apply

No deinterlacing filter may come of opening a pipeline: the device has none, it cannot say which
algorithms it has, the one that is wanted is not among them, or the filter cannot be made
(`Chain.Unmade`, `Chain.Without`). Or there is a filter, but the device never says what it needs. In
all these cases (`Session.Degraded`) the session is a queue of frames (`Relay`): what is given is
the oldest frame that waits, as it came, and nothing is rendered (`Session.relays_of_degraded`).

What makes it so is that all of these ways lead to the same settings of the window, no depths and no
filters (`Session.Relays`), and that the settings a session starts with are no others.
-/
namespace Deinterlace

variable {σ : Type} [Device σ]

/-! ## No filter is made -/

namespace Chain

/-- An attempt to make a deinterlacing filter that comes to nothing, and the device after it. -/
inductive Unmade (context : ContextId) (mode : Mode) (d : σ) : σ → Prop
  | unwanted (hmode : mode.isEnabled = false) : Unmade context mode d d
  | unknown (hmode : mode.isEnabled = true) {e : DeviceError} {later : σ}
      (hquery : Device.queryAlgorithms context d = (.error e, later)) : Unmade context mode d later
  | unsupported (hmode : mode.isEnabled = true) {supported : List Algorithm} {later : σ}
      (hquery : Device.queryAlgorithms context d = (.ok supported, later))
      (halgorithm : mode.algorithm ∉ supported) : Unmade context mode d later
  | refused (hmode : mode.isEnabled = true) {supported : List Algorithm} {asked : σ}
      (hquery : Device.queryAlgorithms context d = (.ok supported, asked))
      (halgorithm : mode.algorithm ∈ supported) {e : DeviceError} {later : σ}
      (hcreate : Device.createFilter context mode.algorithm {} asked = (.error e, later)) :
      Unmade context mode d later

/-- No deinterlacing filter comes of a list of filters that are supported: it is not on the list, or
every attempt to make it comes to nothing. -/
inductive Without (context : ContextId) (mode : Mode) : List FilterType → σ → Prop
  | nil (d : σ) : Without context mode [] d
  | other {filter : FilterType} {rest : List FilterType} {d : σ} (hfilter : filter ≠ .deinterlacing)
      (hrest : Without context mode rest d) : Without context mode (filter :: rest) d
  | attempt {rest : List FilterType} {d later : σ} (hunmade : Unmade context mode d later)
      (hrest : Without context mode rest later) : Without context mode (.deinterlacing :: rest) d

theorem Unmade.buildDeinterlacer_eq {context : ContextId} {mode : Mode} {d later : σ}
    (h : Unmade context mode d later) : buildDeinterlacer context mode d = (none, later) := by
  cases h with
  | unwanted hmode => simp [buildDeinterlacer, hmode]
  | unknown hmode hquery => simp [buildDeinterlacer, hmode, hquery]
  | unsupported hmode hquery halgorithm => simp [buildDeinterlacer, hmode, hquery, halgorithm]
  | refused hmode hquery halgorithm hcreate =>
    simp [buildDeinterlacer, hmode, hquery, halgorithm, hcreate]

/-- There are no other ways to end up without a filter. -/
theorem unmade_of_none {context : ContextId} {mode : Mode} {d : σ}
    (h : (buildDeinterlacer context mode d).1 = none) :
    Unmade context mode d (buildDeinterlacer context mode d).2 := by
  unfold buildDeinterlacer at h ⊢
  cases hmode : mode.isEnabled with
  | false => exact .unwanted hmode
  | true =>
    rcases hquery : Device.queryAlgorithms context d with ⟨e | supported, asked⟩
    · simpa [hmode, hquery] using Unmade.unknown hmode hquery
    by_cases halgorithm : mode.algorithm ∈ supported
    · rcases hcreate : Device.createFilter context mode.algorithm {} asked with ⟨e | id, later⟩
      · simpa [hmode, hquery, halgorithm, hcreate] using
          Unmade.refused hmode hquery halgorithm hcreate
      · simp [hmode, hquery, halgorithm, hcreate] at h
    · simpa [hmode, hquery, halgorithm] using Unmade.unsupported hmode hquery halgorithm

/-- A pipeline has no filters exactly if none could be made. -/
theorem buildDescriptors_eq_nil_iff (context : ContextId) (mode : Mode)
    (available : List FilterType) (d : σ) :
    (buildDescriptors context mode available d).1 = [] ↔ Without context mode available d := by
  constructor
  · intro h
    induction available generalizing d with
    | nil => exact .nil d
    | cons filter rest ih =>
      by_cases hfilter : filter = .deinterlacing
      · subst hfilter
        simp only [buildDescriptors, List.append_eq_nil_iff, Option.toList_eq_nil_iff] at h
        exact .attempt (unmade_of_none h.1) (ih _ h.2)
      · refine .other hfilter (ih d ?_)
        cases filter
        case deinterlacing => exact absurd rfl hfilter
        all_goals exact h
  · intro h
    induction h with
    | nil d => rfl
    | @other filter rest d hfilter _ ih =>
      cases filter
      case deinterlacing => exact absurd rfl hfilter
      all_goals exact ih
    | attempt hunmade _ ih => simp [buildDescriptors, hunmade.buildDeinterlacer_eq, ih]

end Chain

/-! ## A queue of frames -/

/-- A queue of frames that are given as they came. -/
structure Relay where
  waiting : List Frame := []
  /-- The frames that have been given, in order. -/
  given : List Frame := []

/-- What a call does to the queue. -/
def Relay.next (r : Relay) : Session.Call σ → Relay
  | .input frame => { r with waiting := r.waiting ++ frame.toList }
  | .output | .take => ⟨r.waiting.tail, r.given ++ r.waiting.head?.toList⟩
  | .seek | .reconfigure _ => { r with waiting := [] }
  | .switch _ | .alter _ => r

/-! ## The session is a queue -/

namespace Session

/-- There is no chain of filters for a negotiation to come to: none was made, or the device cannot
say what the filters need. -/
def Chainless (s : Session σ) : Prop :=
  ∀ on, s.chain.filtersFor on = [] ∨
    ∃ e later, Device.queryCaps s.context (s.chain.filtersFor on) s.device = (.error e, later)

/-- The session is the queue: its frames pass through, and it holds no others than those that
wait. -/
structure Relays (s : Session σ) (r : Relay) : Prop where
  active_eq : s.chain.active = []
  frames_eq : s.window.frames = r.waiting
  cursor_eq : s.window.cursor = 0
  secondField_eq : s.window.secondField = false
  backwardDepth_eq : s.window.backwardDepth = 0
  forwardDepth_eq : s.window.forwardDepth = 0
  stats_eq : s.stats = { passedThrough := r.given.length }

variable {s : Session σ} {r : Relay}

theorem stats_reconfigure (s : Session σ) (params : StreamParams) :
    (s.reconfigure params).2.stats = s.stats := by
  have hforget : s.forget.stats = s.stats := by
    unfold forget closePool
    split <;> rfl
  rcases s.reconfigure_cases params with ⟨e, device, heq⟩ | ⟨desc, pool, device, -, -, heq⟩ <;>
    rw [heq] <;> exact hforget

theorem relays_of_open {options : Options} {device : σ} (h : open? options device = .ok s) :
    s.Relays {} := by
  obtain ⟨config, d₁, context, d₂, available, d₃, descriptors, later, -, -, -, -, rfl⟩ :=
    eq_of_open h
  exact ⟨rfl, rfl, rfl, rfl, rfl, rfl, rfl⟩

namespace Relays

omit [Device σ] in
theorem passesThrough_eq (h : s.Relays r) : s.passesThrough = true := by
  simp [passesThrough, h.active_eq]

omit [Device σ] in
theorem current?_eq (h : s.Relays r) : s.window.current? = r.waiting.head? := by
  rw [Window.current?, h.frames_eq, h.cursor_eq, List.head?_eq_getElem?]

omit [Device σ] in
/-- Nothing is waited for but a frame. -/
theorem hasOutput_eq (h : s.Relays r) : s.window.hasOutput = r.waiting.head?.isSome := by
  simp [Window.hasOutput, h.current?_eq, Window.needsInput, Window.lookahead, h.secondField_eq,
    h.forwardDepth_eq]

/-- Negotiations change nothing. -/
theorem configure (h : s.Relays r) (hchainless : s.Chainless) : s.configure.Relays r := by
  rw [configure_eq]
  rcases Chain.configure_cases s.chain s.context s.deinterlacing s.window s.device with
    ⟨-, heq⟩ | ⟨-, later, -, heq⟩ | ⟨-, hfilters, caps, later, hquery, -⟩
  · rw [heq]
    exact ⟨h.active_eq, h.frames_eq, h.cursor_eq, h.secondField_eq, h.backwardDepth_eq,
      h.forwardDepth_eq, h.stats_eq⟩
  · rw [heq]
    refine ⟨rfl, ?_, ?_, h.secondField_eq, rfl, rfl, h.stats_eq⟩
    · show s.window.frames.drop (s.window.cursor - 0) = r.waiting
      rw [h.cursor_eq, h.frames_eq, List.drop_zero]
    · exact Nat.min_zero _
  · rcases hchainless s.deinterlacing with hnone | ⟨e, failed, herror⟩
    · exact absurd hnone hfilters
    · cases hquery.symm.trans herror

theorem input (h : s.Relays r) (hchainless : s.Chainless) {frame : Option Frame}
    (hhard : ∀ x, frame = some x → x.format.isHardware = true) :
    (s.input frame).2.Relays { r with waiting := r.waiting ++ frame.toList } := by
  have hconf := h.configure hchainless
  obtain ⟨w, heq, ⟨rfl, rfl⟩ | ⟨x, rfl, rfl⟩⟩ := s.input_of_hardware hhard <;> rw [heq]
  · refine { hconf with frames_eq := ?_ }
    simp [Window.finish, hconf.frames_eq]
  · refine { hconf with frames_eq := ?_ }
    simp [Window.push, hconf.frames_eq]

/-- **An output gives the frame that has waited longest**, as it came, or nothing if none waits. -/
theorem output (h : s.Relays r) : s.output.1 = .ok r.waiting.head? ∧
    s.output.2.Relays ⟨r.waiting.tail, r.given ++ r.waiting.head?.toList⟩ := by
  have hout := h.hasOutput_eq
  have hcur := h.current?_eq
  cases hwaiting : r.waiting with
  | nil =>
    rw [hwaiting] at hout
    rw [output_of_idle hout]
    refine ⟨rfl, { h with frames_eq := ?_, stats_eq := ?_ }⟩
    · rw [h.frames_eq, hwaiting]
      rfl
    · rw [h.stats_eq]
      simp
  | cons frame rest =>
    rw [hwaiting] at hout hcur
    have hsome : ¬ s.window.current?.isNone = true := by simp [hcur]
    rw [output_of_passed hout hcur h.passesThrough_eq]
    refine ⟨rfl, ⟨h.active_eq, ?_, ?_, ?_, ?_, ?_, ?_⟩⟩
    · show s.window.advanceFrame.frames = rest
      rw [Window.advanceFrame, if_neg hsome]
      simp [Window.trim, h.frames_eq, h.cursor_eq, h.backwardDepth_eq, hwaiting]
    · show s.window.advanceFrame.cursor = 0
      rw [Window.advanceFrame, if_neg hsome]
      simp [Window.trim, h.backwardDepth_eq]
    · exact Window.secondField_advanceFrame (by simp [hcur])
    · exact s.window.backwardDepth_advanceFrame.trans h.backwardDepth_eq
    · exact s.window.forwardDepth_advanceFrame.trans h.forwardDepth_eq
    · simp [h.stats_eq]

/-- **Every call is done by the queue.** -/
theorem perform (h : s.Relays r) (hchainless : s.Chainless) {call : Call σ}
    (hhard : ∀ x, call = .input (some x) → x.format.isHardware = true) :
    (s.perform call).Relays (r.next call) := by
  cases call with
  | input frame => exact h.input hchainless fun x hx => hhard x (hx ▸ rfl)
  | output => exact h.output.2
  | take =>
    obtain ⟨-, device, heq⟩ := s.take_cases
    simp only [Session.perform, heq]
    exact { h.output.2 with }
  | seek => exact ⟨h.active_eq, rfl, rfl, rfl, h.backwardDepth_eq, h.forwardDepth_eq, h.stats_eq⟩
  | switch on =>
    simp only [Session.perform, setDeinterlacing]
    split <;> exact { h with }
  | reconfigure params =>
    have hchain := s.chain_reconfigure params
    have hwindow := s.window_reconfigure params
    have hstats := s.stats_reconfigure params
    refine ⟨congrArg (·.active) hchain, congrArg (·.frames) hwindow, congrArg (·.cursor) hwindow,
      congrArg (·.secondField) hwindow, ?_, ?_, hstats.trans h.stats_eq⟩
    · exact (congrArg (·.backwardDepth) hwindow).trans h.backwardDepth_eq
    · exact (congrArg (·.forwardDepth) hwindow).trans h.forwardDepth_eq
  | alter change => exact { h with }

end Relays

end Session

/-! ## Nothing is rendered -/

/-- Whether an operation takes a surface from a pool or begins a picture. -/
def Device.Operation.isRendering : Device.Operation → Bool
  | .allocate _ | .beginPicture .. => true
  | _ => false

namespace Session

open Device.Operation (isRendering)

variable {s : Session σ} {r : Relay}

omit [Device σ] in
theorem Relays.recorded (h : s.Relays r) : s.recorded.Relays r := ⟨h.active_eq, h.frames_eq,
  h.cursor_eq, h.secondField_eq, h.backwardDepth_eq, h.forwardDepth_eq, h.stats_eq⟩

theorem filter_setWindow (t : Session (Recorded σ)) (w : Window) :
    (t.setWindow w).device.operations.filter isRendering =
      t.device.operations.filter isRendering :=
  Recorded.filter_releaseFrames (fun _ => rfl) _ _

/-- A frame that passes through gets a second holder, and gives one up where it waited. -/
theorem filter_output {t : Session (Recorded σ)} (h : t.Relays r) :
    t.output.2.device.operations.filter isRendering =
      t.device.operations.filter isRendering := by
  have hout := h.hasOutput_eq
  have hcur := h.current?_eq
  cases hhead : r.waiting.head? with
  | none =>
    rw [hhead] at hout
    rw [output_of_idle hout]
  | some frame =>
    rw [hhead] at hout hcur
    rw [output_of_passed hout hcur h.passesThrough_eq]
    exact (filter_setWindow (t.shareFrame frame) _).trans
      (Recorded.filter_retainFrame (fun _ => rfl) frame t.device)

theorem filter_take (t : Session (Recorded σ)) :
    t.take.2.device.operations.filter isRendering =
      t.output.2.device.operations.filter isRendering := by
  unfold take
  rcases t.output with ⟨e | _ | picture, later⟩
  · rfl
  · rfl
  · exact Recorded.filter_releaseFrame (fun _ => rfl) picture later.device

theorem filter_reconfigure (t : Session (Recorded σ)) (params : StreamParams) :
    (t.reconfigure params).2.device.operations.filter isRendering =
      t.device.operations.filter isRendering := by
  have hforget : t.forget.device.operations.filter isRendering =
      t.device.operations.filter isRendering := by
    rw [← filter_setWindow t t.window.flush]
    unfold forget closePool
    split <;> rfl
  unfold reconfigure
  rw [← hforget]
  split
  · rfl
  · rename_i desc _
    dsimp only
    have hlater : (Device.createPool desc t.forget.device).2.operations =
        .createPool desc :: t.forget.device.operations := rfl
    rcases hmade : Device.createPool desc t.forget.device with ⟨e | pool, later⟩ <;>
      rw [hmade] at hlater <;> exact congrArg (·.filter isRendering) hlater

theorem Relays.filter_operations (h : s.Relays r) {call : Call σ}
    (hhard : ∀ x, call = .input (some x) → x.format.isHardware = true) :
    (s.operations call).filter isRendering = [] := by
  have hquiet : ∀ {later : Recorded σ}, later.operations.filter isRendering =
      s.recorded.device.operations.filter isRendering →
        later.operations.reverse.filter isRendering = [] := by
    intro later heq
    rw [List.filter_reverse, heq]
    rfl
  cases call with
  | input frame =>
    rw [filter_operations_input s frame (fun _ => rfl) (.inr fun x hx => hhard x (hx ▸ rfl)),
      Chain.questions]
    split <;> rfl
  | output => exact hquiet (filter_output h.recorded)
  | take => exact hquiet ((filter_take s.recorded).trans (filter_output h.recorded))
  | seek => exact hquiet (filter_setWindow s.recorded _)
  | switch on =>
    apply hquiet
    simp only [Call.recorded, Session.perform, setDeinterlacing]
    split <;> rfl
  | reconfigure params => exact hquiet (filter_reconfigure s.recorded params)
  | alter change => rfl

/-! ## Runs -/

theorem Relays.run (h : s.Relays r) {calls : List (Call σ)}
    (hhard : ∀ frame, .input (some frame) ∈ calls → frame.format.isHardware = true)
    (hchainless : ∀ before, before <+: calls → (before.foldl Session.perform s).Chainless) :
    (calls.foldl Session.perform s).Relays (calls.foldl Relay.next r) ∧
      (s.allOperations calls).filter isRendering = [] := by
  induction calls generalizing s r with
  | nil => exact ⟨h, rfl⟩
  | cons call calls ih =>
    have hnow : ∀ x, call = .input (some x) → x.format.isHardware = true :=
      fun x hx => hhard x (hx ▸ List.mem_cons_self)
    have hnext := h.perform (hchainless [] List.nil_prefix) hnow
    obtain ⟨hlater, hrest⟩ := ih hnext (fun x hx => hhard x (List.mem_cons_of_mem _ hx))
      (fun before hbefore => hchainless (call :: before) (List.cons_prefix_cons.2 ⟨rfl, hbefore⟩))
    refine ⟨hlater, ?_⟩
    rw [allOperations, List.filter_append, h.filter_operations hnow, hrest, List.append_nil]

/-- Why there is no chain of filters to apply, whatever is done: no filter was made when the
pipeline was opened, or the device never says what the filters need. -/
inductive Degraded (options : Options) (device : σ) (opened : Session σ) (calls : List (Call σ)) :
    Prop
  | unbuilt {config : ConfigId} {context : ContextId} {available : List FilterType} {d₁ d₂ d₃ : σ}
      (hconfig : Device.createConfig device = (.ok config, d₁))
      (hcontext : Device.createContext config d₁ = (.ok context, d₂))
      (hfilters : Device.queryFilters context d₂ = (.ok available, d₃))
      (hwithout : Chain.Without context options.mode available d₃) :
      Degraded options device opened calls
  | unanswered (hfails : ∀ before s, before <+: calls → before.foldl perform opened = s →
      ∃ e later,
        Device.queryCaps s.context (s.chain.filtersFor true) s.device = (.error e, later)) :
      Degraded options device opened calls

/-- What has been negotiated about is nothing, or what the device cannot say anything about. -/
theorem Degraded.chainless {options : Options} {device : σ} {opened : Session σ}
    {calls : List (Call σ)} (hopen : open? options device = .ok opened)
    (h : Degraded options device opened calls) {before : List (Call σ)}
    (hbefore : before <+: calls) :
    (before.foldl Session.perform opened).Chainless := by
  intro on
  cases h with
  | unbuilt hconfig hcontext hfilters hwithout =>
    left
    obtain ⟨-, hbuilt⟩ := opened.built_calls before
    obtain ⟨config', d₁', context', d₂', available', d₃', descriptors, later, hconfig', hcontext',
      hfilters', hbuild, rfl⟩ := eq_of_open hopen
    cases hconfig.symm.trans hconfig'
    cases hcontext.symm.trans hcontext'
    cases hfilters.symm.trans hfilters'
    have hnil := (Chain.buildDescriptors_eq_nil_iff _ _ _ _).2 hwithout
    rw [hbuild] at hnil
    have hnone : descriptors = [] := hnil
    rw [Chain.filtersFor, hbuilt, hnone]
    rfl
  | unanswered hfails =>
    cases on with
    | true => exact .inr (hfails before _ hbefore rfl)
    | false =>
      exact .inl (Chain.filtersFor_false (agrees_calls (agrees_of_open hopen) before).descriptors)

/-- **Without a filter to apply the session is a queue.** Whatever it is that keeps a pipeline which
was opened from deinterlacing, at every point of a run on it an output gives the frame that has
waited longest, as it came and at once, or nothing if no frame waits. No surface is taken from a
pool, no picture is begun, and only frames that passed through are counted. -/
theorem relays_of_degraded {options : Options} {device : σ} {opened : Session σ}
    {calls : List (Call σ)} (hopen : open? options device = .ok opened)
    (hhard : ∀ frame, .input (some frame) ∈ calls → frame.format.isHardware = true)
    (hdegraded : Degraded options device opened calls) :
    (∀ before, before <+: calls →
      (before.foldl perform opened).output.1 =
          .ok (before.foldl Relay.next {}).waiting.head? ∧
        (before.foldl perform opened).stats =
          { passedThrough := (before.foldl Relay.next {}).given.length }) ∧
    (opened.allOperations calls).filter isRendering = [] := by
  have hchainless : ∀ before, before <+: calls → (before.foldl perform opened).Chainless :=
    fun _ => hdegraded.chainless hopen
  refine ⟨fun before hbefore => ?_, ((relays_of_open hopen).run hhard hchainless).2⟩
  obtain ⟨hrelays, -⟩ := (relays_of_open hopen).run
    (fun frame hframe => hhard frame (hbefore.subset hframe))
    (fun earlier hearlier => hchainless earlier (hearlier.trans hbefore))
  exact ⟨hrelays.output.1, hrelays.stats_eq⟩

/-- A stream with a jump in it, during which deinterlacing is switched off and on again. -/
def jumping : List (Call Simulator) :=
  [.reconfigure (.hardware 720 576 720 576), .input (some (Frame.decoded ⟨1⟩ 720 576)), .output,
    .input (some (Frame.decoded ⟨2⟩ 720 576)), .switch false,
    .input (some (Frame.decoded ⟨3⟩ 720 576)), .output, .seek, .switch true,
    .input (some (Frame.decoded ⟨4⟩ 720 576))]

/-- Frames pass through on a device that does not answer capability queries, and on one that has
not the algorithm. -/
theorem relays_of_jumping :
    (∃ s, open? {} (({} : Simulator).failOn .queryPipelineCaps) = .ok s ∧
      (jumping.foldl perform s).output.1 = .ok (some (Frame.decoded ⟨4⟩ 720 576)) ∧
      (jumping.foldl perform s).stats = { passedThrough := 2 }) ∧
    ∃ s, open? {} ({ algorithms := [.weave] } : Simulator) = .ok s ∧
      (jumping.foldl perform s).output.1 = .ok (some (Frame.decoded ⟨4⟩ 720 576)) ∧
      (jumping.foldl perform s).stats = { passedThrough := 2 } := by
  have hhard : ∀ frame, .input (some frame) ∈ jumping → frame.format.isHardware = true := by
    intro frame hframe
    simp only [jumping, List.mem_cons, Call.input.injEq, Option.some.injEq, reduceCtorEq,
      List.not_mem_nil, or_false, false_or] at hframe
    rcases hframe with rfl | rfl | rfl | rfl <;> rfl
  refine ⟨?_, ?_⟩
  · obtain ⟨s, hs⟩ : ∃ s, open? {} (({} : Simulator).failOn .queryPipelineCaps) = .ok s := ⟨_, rfl⟩
    have hfails : ∀ n ≤ jumping.length,
        ((jumping.take n).foldl perform s).device.fails .queryPipelineCaps = true := by
      cases hs
      decide
    have hdegraded : Degraded {} (({} : Simulator).failOn .queryPipelineCaps) s jumping := by
      refine .unanswered ?_
      rintro before _ hbefore rfl
      have hnow := hfails before.length hbefore.length_le
      rw [← List.prefix_iff_eq_take.1 hbefore] at hnow
      rw [Simulator.queryCaps_eq, hnow]
      exact ⟨_, _, rfl⟩
    obtain ⟨hgiven, hstats⟩ := (relays_of_degraded hs hhard hdegraded).1 jumping List.prefix_rfl
    exact ⟨s, hs, hgiven, hstats⟩
  · obtain ⟨s, hs⟩ : ∃ s, open? {} ({ algorithms := [.weave] } : Simulator) = .ok s := ⟨_, rfl⟩
    have hdegraded : Degraded {} ({ algorithms := [.weave] } : Simulator) s jumping :=
      .unbuilt rfl rfl rfl (.other (by decide)
        (.attempt (.unsupported rfl rfl (by decide)) (.other (by decide) (.nil _))))
    obtain ⟨hgiven, hstats⟩ := (relays_of_degraded hs hhard hdegraded).1 jumping List.prefix_rfl
    exact ⟨s, hs, hgiven, hstats⟩

end Session

end Deinterlace
