import Deinterlace.Proofs.Session.Agreement
import Deinterlace.Proofs.Session.Coupling

/-!
# Sessions in step

Two sessions on coupled devices are in step when their chains have been negotiated to the same
effect and their windows hold the same frames, up to the surfaces of pools (`Session.InStep`). Calls
that are made on both keep them in step, and their answers are alike: negotiations
(`Session.InStep.configure`), inputs, outputs, seeks, switches, and new streams, if the devices can
renew their pools (`Coupling.RenewsBeside`).
-/
namespace Deinterlace

/-! ## Negotiations -/

namespace Chain

theorem blank_passThrough (w : Window) : (passThrough w).blank = passThrough w.blank :=
  congrArg (·.setMode .passThrough) (w.blank_apply (.setDepths 0 0))

theorem blank_fitWindow (o : Options) (on : Bool) (caps : PipelineCaps) (w : Window) :
    (fitWindow o on caps w).blank = fitWindow o on caps w.blank :=
  congrArg (·.setMode (windowMode o on))
    (w.blank_apply (.setDepths (windowDepths o caps).1 (windowDepths o caps).2))

/-- All that a window is set up for is how many references the device wants. -/
theorem fitWindow_congr {caps caps' : PipelineCaps} (h : caps'.references = caps.references)
    (o : Options) (on : Bool) (w : Window) : fitWindow o on caps' w = fitWindow o on caps w := by
  obtain ⟨hforward, hbackward⟩ := Prod.ext_iff.1 h
  have hforward : caps'.forwardReferences = caps.forwardReferences := hforward
  have hbackward : caps'.backwardReferences = caps.backwardReferences := hbackward
  unfold fitWindow windowDepths
  rw [hforward, hbackward]

end Chain

namespace Session

variable {σ : Type}

/-- What was negotiated about last is known from whether deinterlacing was on. -/
theorem Agrees.last_iff {s : Session σ} (h : s.Agrees) (on : Bool) :
    s.chain.last = some (s.chain.keyFor on) ↔ s.chain.last.map (·.deinterlace) = some on := by
  constructor
  · intro hlast
    rw [hlast]
    rfl
  · intro hon
    obtain ⟨key, hkey, rfl⟩ := Option.map_eq_some_iff.1 hon
    rw [hkey, Chain.keyFor, ← (h.settled key hkey).1]

/-- Filters that are applied are all that were built. -/
theorem Agrees.active_eq {s : Session σ} (h : s.Agrees) (hactive : s.chain.active ≠ []) :
    s.chain.active = s.fixtures.filters ∧
      s.chain.deinterlaceBuffer? = s.fixtures.filters.head? := by
  obtain ⟨key, caps, hlast, hforce⟩ := h.exists_inForce hactive
  have hall : s.chain.active = s.chain.filtersFor true := by
    rw [hforce.active_eq, (h.settled key hlast).1, hforce.on]
  have hbuffer := Chain.deinterlaceBuffer?_eq h.descriptors hall
  rw [Chain.filtersFor_true] at hall hbuffer
  exact ⟨hall, hbuffer⟩

theorem Agrees.filters_keyFor {s : Session σ} (h : s.Agrees) (on : Bool) :
    (s.chain.keyFor on).filters = if on then s.fixtures.filters else [] := by
  cases on with
  | false => exact Chain.filtersFor_false h.descriptors
  | true => exact Chain.filtersFor_true _

end Session

variable {σ τ : Type} [Device σ] [Device τ] {k : Coupling σ τ} {n : Names}
variable {pools : Option (PoolId × PoolId)} {inside out pairs : List (Frame × Frame)}

/-! ## Sessions on both sides -/

namespace Session

variable {s : Session σ} {t : Session τ}

/-- The sessions are coupled. Their windows hold the frames `inside`, and their callers the frames
`out`. -/
structure InStep (k : Coupling σ τ) (n : Names) (pools : Option (PoolId × PoolId))
    (inside out : List (Frame × Frame)) (s : Session σ) (t : Session τ) : Prop where
  left_eq : s.fixtures = k.left
  right_eq : t.fixtures = k.right
  agrees : s.Agrees
  agrees' : t.Agrees
  chain : s.chain.Alike t.chain
  window : Window.Twin inside s.window t.window
  pool_eq : s.pool = pools.map (·.1)
  pool_eq' : t.pool = pools.map (·.2)
  deinterlacing_eq : t.deinterlacing = s.deinterlacing
  named : n.buffers = k.left.filters.zip k.right.filters
  seen : ∀ p ∈ inside, k.seen n p.1 p.2
  shown : ∀ p ∈ out, k.Shown n p.1 p.2
  bond : k.bond n pools (sharesOf (inside ++ out)) s.device t.device

/-- No call changes what a session has made on opening. -/
theorem fixtures_perform (s : Session σ) (call : Call σ) :
    (s.perform call).fixtures = s.fixtures := by
  have h : s.Obeys s.fixtures (fun _ _ _ => True) (call.given?.toList ++ []) := ⟨rfl, trivial⟩
  exact (h.perform (Device.upholds_const _ True) fun _ _ _ _ _ _ => trivial).fixtures_eq

theorem fixtures_configure (s : Session σ) : s.configure.fixtures = s.fixtures := by
  have h : s.Obeys s.fixtures (fun _ _ _ => True) [] := ⟨rfl, trivial⟩
  exact (h.configure (Device.upholds_const _ True)).fixtures_eq

theorem input_of_format (s : Session σ) {f : Frame} (h : f.format.isHardware = true) :
    s.input (some f) = (.ok (), s.configure.pushFrame f) := by
  simp only [input, h, if_true]

theorem input_of_uploaded (s : Session σ) {f : Frame} (h : f.format.isHardware = false)
    {result : Except Error Frame} {d : σ}
    (hup : upload s.configure.pool f s.configure.device = (result, d)) :
    s.input (some f) = (result.map fun _ => (),
      { s.configure with
        device := Device.releaseFrame f d
        window := match result with
          | .error _ => s.configure.window
          | .ok uploaded => s.configure.window.push uploaded }) := by
  unfold input
  simp only [h, Bool.false_eq_true, if_false, hup]
  cases result <;> rfl

/-- What two outputs give: nothing, the same error, or frames that are alike. -/
inductive Delivers (n : Names) : List (Frame × Frame) → Except Error (Option Frame) →
    Except Error (Option Frame) → Prop
  | nothing : Delivers n [] (.ok none) (.ok none)
  | failure (e : Error) : Delivers n [] (.error e) (.error e)
  | picture {f g : Frame} (h : f.Alike n g) : Delivers n [(f, g)] (.ok (some f)) (.ok (some g))

namespace InStep

/-- The chains have the same to negotiate about, and it comes to the same. -/
theorem negotiate (h : InStep k n pools inside out s t) :
    let left := s.chain.configure s.context s.deinterlacing s.window s.device
    let right := t.chain.configure t.context t.deinterlacing t.window t.device
    left.1.Alike right.1 ∧ right.2.1.blank = left.2.1.blank ∧
      k.bond n pools (sharesOf (inside ++ out)) left.2.2 right.2.2 ∧
      (k.room pools s.device t.device → k.room pools left.2.2 right.2.2) := by
  have hasked := k.queryCaps h.bond
  rw [← h.left_eq, ← h.right_eq] at hasked
  have hcontext : s.fixtures.context = s.context := rfl
  have hcontext' : t.fixtures.context = t.context := rfl
  rw [hcontext, hcontext'] at hasked
  obtain ⟨hanswer, hbond, hroom⟩ := hasked
  have hidle : (Chain.passThrough t.window).blank = (Chain.passThrough s.window).blank := by
    rw [Chain.blank_passThrough, Chain.blank_passThrough, h.window.blank_eq]
  have hnone : t.fixtures.filters = [] ↔ s.fixtures.filters = [] := by
    rw [← List.length_eq_zero_iff, ← List.length_eq_zero_iff, h.left_eq, h.right_eq, k.length_eq]
  dsimp only
  rw [Chain.configure_eq, Chain.configure_eq, h.deinterlacing_eq]
  by_cases hlast : s.chain.last.map (·.deinterlace) = some s.deinterlacing
  · -- both have negotiated about this before
    rw [if_pos ((h.agrees.last_iff _).2 hlast),
      if_pos ((h.agrees'.last_iff _).2 (h.chain.on_eq.trans hlast))]
    exact ⟨h.chain, h.window.blank_eq, h.bond, id⟩
  rw [if_neg (mt (h.agrees.last_iff _).1 hlast),
    if_neg (mt (h.agrees'.last_iff _).1 (h.chain.on_eq ▸ hlast)), h.agrees.filters_keyFor,
    h.agrees'.filters_keyFor]
  cases s.deinterlacing with
  | false => exact ⟨⟨h.chain.options_eq, rfl, .rfl, rfl⟩, hidle, h.bond, id⟩
  | true =>
    simp only [if_true]
    by_cases hempty : s.fixtures.filters = []
    · rw [if_pos (List.isEmpty_iff.2 hempty), if_pos (List.isEmpty_iff.2 (hnone.2 hempty))]
      exact ⟨⟨h.chain.options_eq, rfl, .rfl, rfl⟩, hidle, h.bond, id⟩
    rw [if_neg (mt List.isEmpty_iff.1 hempty), if_neg (mt List.isEmpty_iff.1 (mt hnone.1 hempty))]
    rcases hleft : Device.queryCaps s.context s.fixtures.filters s.device with ⟨_ | caps, d⟩ <;>
      rcases hright : Device.queryCaps t.context t.fixtures.filters t.device with
        ⟨_ | caps', e⟩ <;>
      rw [hleft, hright] at hanswer hbond hroom
    · exact ⟨⟨h.chain.options_eq, rfl, .rfl, rfl⟩, hidle, hbond, hroom⟩
    · cases hanswer
    · cases hanswer
    · have hcaps : caps'.references = caps.references := Option.some.inj hanswer
      refine ⟨⟨h.chain.options_eq, rfl, ?_, hcaps⟩, ?_, hbond, hroom⟩
      · show (t.chain.keyFor true).filters = [] ↔ (s.chain.keyFor true).filters = []
        rw [h.agrees.filters_keyFor, h.agrees'.filters_keyFor]
        exact hnone
      · show (Chain.fitWindow t.chain.options true caps' t.window).blank =
          (Chain.fitWindow s.chain.options true caps s.window).blank
        rw [Chain.fitWindow_congr hcaps, Chain.blank_fitWindow, Chain.blank_fitWindow,
          h.window.blank_eq, h.chain.options_eq]

theorem configure (h : InStep k n pools inside out s t) :
    ∃ rest, InStep k n pools rest out s.configure t.configure ∧
      (k.room pools s.device t.device → k.room pools s.configure.device t.configure.device) := by
  obtain ⟨hchain, hblank, hbond, hroom⟩ := h.negotiate
  obtain ⟨rest, hwindow, hseen, hbond', hroom'⟩ := Coupling.leave h.window h.seen
    (Chain.frames_configure_suffix _ _ _ _ _) (Chain.frames_configure_suffix _ _ _ _ _) hblank
    hbond
  refine ⟨rest, ⟨?_, ?_, (configure_agrees h.agrees).1, (configure_agrees h.agrees').1, hchain,
    hwindow, h.pool_eq, h.pool_eq', h.deinterlacing_eq, h.named, hseen, h.shown, hbond'⟩,
    fun hbefore => hroom' (hroom hbefore)⟩
  · rw [fixtures_configure, h.left_eq]
  · rw [fixtures_configure, h.right_eq]

variable {f g : Frame}

/-- The callers' frames may be taken in any order. -/
theorem perm (h : InStep k n pools inside out s t) (hperm : out.Perm pairs) :
    InStep k n pools inside pairs s t :=
  { h with
    shown := fun p hp => h.shown p (hperm.mem_iff.2 hp)
    bond := Coupling.permFrames (hperm.append_left inside) h.bond }

/-- Frames from outside need no counterpart. -/
theorem bring (h : InStep k n pools inside out s t) (hf : f.holding? = none)
    (hseen : k.keeps → k.seen n f f) :
    InStep k n pools inside ((f, f) :: out) s t :=
  { h with
    shown := by
      intro p hp
      rcases List.mem_cons.1 hp with rfl | hp
      · exact ⟨.refl n hf, hseen⟩
      · exact h.shown p hp
    bond := by
      rw [sharesOf_append, sharesOf_cons, share?_of_none hf]
      have hbond := h.bond
      rw [sharesOf_append] at hbond
      exact hbond }

theorem finish (hs : s.Agrees) (ht : t.Agrees)
    (h : InStep k n pools inside out s.configure t.configure) :
    InStep k n pools inside out (s.input none).2 (t.input none).2 ∧
      (t.input none).1 = (s.input none).1 :=
  ⟨{ h with
    agrees := input_agrees hs none
    agrees' := input_agrees ht none
    window := h.window.finish }, rfl⟩

/-- Frames at the ends of the windows may be seen together if they are alike. -/
theorem seen_concat {m : Names} {a b : Frame} (h : InStep k n pools inside out s t)
    (hgrows : n.Grows m) (hab : k.seen m a b) : ∀ p ∈ inside ++ [(a, b)], k.seen m p.1 p.2 := by
  intro p hp
  rcases List.mem_append.1 hp with hp | hp
  · exact k.seen_mono hgrows (h.seen p hp)
  · rw [List.mem_singleton.1 hp]
    exact hab

theorem accept_hardware {rest : List (Frame × Frame)} (hs : s.Agrees) (ht : t.Agrees)
    (hconf : InStep k n pools rest ((f, g) :: out) s.configure t.configure)
    (hhard : f.format.isHardware = true) (hseen : k.seen n f g) :
    InStep k n pools (rest ++ [(f, g)]) out (s.input (some f)).2 (t.input (some g)).2 ∧
      (t.input (some g)).1 = (s.input (some f)).1 := by
  obtain ⟨hfg, -⟩ := hconf.shown _ List.mem_cons_self
  have hagrees := input_agrees hs (some f)
  have hagrees' := input_agrees ht (some g)
  rw [s.input_of_format hhard] at hagrees ⊢
  rw [t.input_of_format (hfg.format_eq ▸ hhard)] at hagrees' ⊢
  refine ⟨{ hconf with
    agrees := hagrees
    agrees' := hagrees'
    window := hconf.window.push hfg.blank_eq
    seen := hconf.seen_concat (.refl n) hseen
    shown := fun p hp => hconf.shown p (List.mem_cons_of_mem _ hp)
    bond := ?_ }, rfl⟩
  rw [List.append_assoc]
  exact hconf.bond

/-- A frame in memory is uploaded, or dropped on both sides. -/
theorem accept_software {rest : List (Frame × Frame)} (hs : s.Agrees) (ht : t.Agrees)
    (hconf : InStep k n pools rest ((f, g) :: out) s.configure t.configure)
    (hsoft : f.format.isHardware = false) (hkeeps : k.keeps)
    (hroom : k.room pools s.configure.device t.configure.device) :
    ∃ m rest, n.Grows m ∧ InStep k m pools rest out (s.input (some f)).2 (t.input (some g)).2 ∧
      (t.input (some g)).1 = (s.input (some f)).1 := by
  obtain ⟨hfg, -⟩ := hconf.shown _ List.mem_cons_self
  have hagrees := input_agrees hs (some f)
  have hagrees' := input_agrees ht (some g)
  have hothers : ∀ {m : Names}, n.Grows m → ∀ p ∈ out, k.Shown m p.1 p.2 :=
    fun hgrows p hp => (hconf.shown p (List.mem_cons_of_mem _ hp)).mono hgrows
  have hup := Coupling.uploadFrame hkeeps hfg hconf.bond hroom
  rw [← hconf.pool_eq, ← hconf.pool_eq'] at hup
  rcases hleft : upload s.configure.pool f s.configure.device with ⟨result, d⟩
  rcases hright : upload t.configure.pool g t.configure.device with ⟨result', e⟩
  rw [hleft, hright] at hup
  rw [s.input_of_uploaded hsoft hleft] at hagrees ⊢
  rw [t.input_of_uploaded (hfg.format_eq ▸ hsoft) hright] at hagrees' ⊢
  cases hup with
  | @error m _ _ _ hgrows hbond =>
    refine ⟨m, rest, hgrows, { hconf with
      agrees := hagrees
      agrees' := hagrees'
      named := hgrows.buffers.trans hconf.named
      seen := fun p hp => k.seen_mono hgrows (hconf.seen p hp)
      shown := hothers hgrows
      bond := ?_ }, rfl⟩
    exact (Coupling.releaseFrame (hfg.mono hgrows)
      (Coupling.permFrames List.perm_middle hbond)).1
  | @frame m f' g' _ _ hgrows halike hlent hbond =>
    refine ⟨m, rest ++ [(f', g')], hgrows, { hconf with
      agrees := hagrees
      agrees' := hagrees'
      window := hconf.window.push halike.blank_eq
      named := hgrows.buffers.trans hconf.named
      seen := hconf.seen_concat hgrows (k.seen_lent hkeeps halike hlent)
      shown := hothers hgrows
      bond := ?_ }, rfl⟩
    refine (Coupling.releaseFrame (hfg.mono hgrows) (Coupling.permFrames ?_ hbond)).1
    show ((f', g') :: (rest ++ (f, g) :: out)).Perm ((f, g) :: (rest ++ [(f', g')] ++ out))
    rw [List.append_assoc]
    exact (List.perm_middle.cons _).trans ((List.Perm.swap _ _ _).trans
      (List.perm_middle.symm.cons _))

/-- Once the chains have been negotiated, a frame of the callers' moves into the windows. -/
theorem accept {rest : List (Frame × Frame)} (hs : s.Agrees) (ht : t.Agrees)
    (hconf : InStep k n pools rest ((f, g) :: out) s.configure t.configure)
    (hhard : f.format.isHardware = true → k.seen n f g)
    (hsoft : f.format.isHardware = false → k.keeps)
    (hroom : k.room pools s.configure.device t.configure.device) :
    ∃ m rest, n.Grows m ∧ InStep k m pools rest out (s.input (some f)).2 (t.input (some g)).2 ∧
      (t.input (some g)).1 = (s.input (some f)).1 := by
  cases hformat : f.format.isHardware with
  | true => exact ⟨n, _, .refl n, accept_hardware hs ht hconf hformat (hhard hformat)⟩
  | false => exact accept_software hs ht hconf hformat (hsoft hformat) hroom

/-- An input moves a frame of the callers' into the windows. -/
theorem input (h : InStep k n pools inside ((f, g) :: out) s t)
    (hhard : f.format.isHardware = true → k.seen n f g)
    (hsoft : f.format.isHardware = false → k.keeps) (hroom : k.room pools s.device t.device) :
    ∃ m rest, n.Grows m ∧ InStep k m pools rest out (s.input (some f)).2 (t.input (some g)).2 ∧
      (t.input (some g)).1 = (s.input (some f)).1 := by
  obtain ⟨rest, hconf, hroom'⟩ := h.configure
  exact hconf.accept h.agrees h.agrees' hhard hsoft (hroom' hroom)

theorem passesThrough_eq (h : InStep k n pools inside out s t) :
    t.passesThrough = s.passesThrough := by
  have hempty : t.chain.active.isEmpty = s.chain.active.isEmpty := by
    rw [Bool.eq_iff_iff, List.isEmpty_iff, List.isEmpty_iff]
    exact h.chain.active_iff
  simp only [passesThrough, hempty, h.window.shouldDeinterlace_eq]

/-- A frame that passes through is shared with the callers. -/
theorem output_passed (h : InStep k n pools inside out s t) (hout : s.window.hasOutput = true)
    (hcur : s.window.current? = some f) (hpass : s.passesThrough = true) :
    ∃ rest g, InStep k n pools rest ((f, g) :: out) s.output.2 t.output.2 ∧
      Delivers n [(f, g)] s.output.1 t.output.1 := by
  obtain ⟨g, hmem, hcur'⟩ := h.window.current?_some hcur
  have hfg : f.Alike n g := k.alike (h.seen _ hmem)
  have hleft := output_of_passed hout hcur hpass
  have hright := output_of_passed (h.window.hasOutput_eq.trans hout) hcur'
    (h.passesThrough_eq.trans hpass)
  have hagrees := output_agrees h.agrees
  have hagrees' := output_agrees h.agrees'
  have hshared := Coupling.permFrames List.perm_middle.symm
    (Coupling.retainFrame hfg (List.mem_append_left out hmem) h.bond)
  have hblank : t.window.advanceFrame.blank = s.window.advanceFrame.blank := by
    rw [Window.blank_advanceFrame, Window.blank_advanceFrame, h.window.blank_eq]
  obtain ⟨rest, hwindow, hseen, hbond, -⟩ := Coupling.leave h.window h.seen
    (Window.frames_advanceFrame_suffix _) (Window.frames_advanceFrame_suffix _) hblank hshared
  rw [hleft] at hagrees ⊢
  rw [hright] at hagrees' ⊢
  refine ⟨rest, g, { h with
    agrees := hagrees
    agrees' := hagrees'
    window := hwindow
    seen := hseen
    shown := ?_
    bond := hbond }, .picture hfg⟩
  intro p hp
  rcases List.mem_cons.1 hp with rfl | hp
  · exact .of_seen (h.seen _ hmem)
  · exact h.shown p hp

/-- A picture is rendered on both sides or on neither. -/
theorem output_rendered (h : InStep k n pools inside out s t)
    (hroom : k.room pools s.device t.device)
    (hout : s.window.hasOutput = true) (hcur : s.window.current? = some f)
    (hpass : s.passesThrough = false) :
    ∃ m rest gained, n.Grows m ∧ InStep k m pools rest (gained ++ out) s.output.2 t.output.2 ∧
      Delivers m gained s.output.1 t.output.1 := by
  obtain ⟨g, hmem, hcur'⟩ := h.window.current?_some hcur
  have hactive : s.chain.active ≠ [] := by
    intro hnil
    rw [passesThrough, hnil] at hpass
    cases hpass
  obtain ⟨hall, hbuffer⟩ := h.agrees.active_eq hactive
  obtain ⟨hall', hbuffer'⟩ := h.agrees'.active_eq (mt h.chain.active_iff.1 hactive)
  rw [h.left_eq] at hall hbuffer
  rw [h.right_eq] at hall' hbuffer'
  have hyields := Coupling.render h.chain h.window h.seen hmem (hall ▸ hactive) hall hall' hbuffer
    hbuffer' h.named h.bond hroom
  rw [← h.left_eq, ← h.right_eq, ← h.pool_eq, ← h.pool_eq'] at hyields
  rcases hleft : Rendering.render s.fixtures.context s.chain s.window s.pool f s.device with
    ⟨result, d⟩
  rcases hright : Rendering.render t.fixtures.context t.chain t.window t.pool g t.device with
    ⟨result', e⟩
  rw [hleft, hright] at hyields
  obtain ⟨stats, houtput⟩ := output_of_rendered hout hcur hpass hleft
  obtain ⟨stats', houtput'⟩ := output_of_rendered (h.window.hasOutput_eq.trans hout) hcur'
    (h.passesThrough_eq.trans hpass) hright
  have hagrees := output_agrees h.agrees
  have hagrees' := output_agrees h.agrees'
  rw [houtput] at hagrees ⊢
  rw [houtput'] at hagrees' ⊢
  have hblank : t.window.advanceField.blank = s.window.advanceField.blank := by
    rw [Window.blank_advanceField, Window.blank_advanceField, h.window.blank_eq]
  cases hyields with
  | @error m error _ _ hgrows hbond =>
    obtain ⟨rest, hwindow, hseen, hbond', -⟩ := Coupling.leave h.window
      (fun p hp => k.seen_mono hgrows (h.seen p hp)) (Window.frames_advanceField_suffix _)
      (Window.frames_advanceField_suffix _) hblank hbond
    exact ⟨m, rest, [], hgrows, { h with
      agrees := hagrees
      agrees' := hagrees'
      window := hwindow
      named := hgrows.buffers.trans h.named
      seen := hseen
      shown := fun p hp => (h.shown p hp).mono hgrows
      bond := hbond' }, .failure error⟩
  | @frame m f' g' _ _ hgrows halike hlent hbond =>
    obtain ⟨rest, hwindow, hseen, hbond', -⟩ := Coupling.leave h.window
      (fun p hp => k.seen_mono hgrows (h.seen p hp)) (Window.frames_advanceField_suffix _)
      (Window.frames_advanceField_suffix _) hblank
      (Coupling.permFrames List.perm_middle.symm hbond)
    refine ⟨m, rest, [(f', g')], hgrows, { h with
      agrees := hagrees
      agrees' := hagrees'
      window := hwindow
      named := hgrows.buffers.trans h.named
      seen := hseen
      shown := ?_
      bond := hbond' }, .picture halike⟩
    intro p hp
    rcases List.mem_cons.1 hp with rfl | hp
    · exact .of_lent halike hlent
    · exact (h.shown p hp).mono hgrows

/-- An output leaves what it gives with the callers. -/
theorem output (h : InStep k n pools inside out s t) (hroom : k.room pools s.device t.device) :
    ∃ m rest gained, n.Grows m ∧ InStep k m pools rest (gained ++ out) s.output.2 t.output.2 ∧
      Delivers m gained s.output.1 t.output.1 := by
  cases hout : s.window.hasOutput with
  | false =>
    rw [output_of_idle hout, output_of_idle (h.window.hasOutput_eq.trans hout)]
    exact ⟨n, inside, [], .refl n, h, .nothing⟩
  | true =>
    obtain ⟨f, hcur⟩ : ∃ f, s.window.current? = some f := by
      simp only [Window.hasOutput, Bool.and_eq_true] at hout
      exact Option.isSome_iff_exists.1 hout.1
    cases hpass : s.passesThrough with
    | true =>
      obtain ⟨rest, g, hafter, hdelivers⟩ := h.output_passed hout hcur hpass
      exact ⟨n, rest, [(f, g)], .refl n, hafter, hdelivers⟩
    | false => exact h.output_rendered hroom hout hcur hpass

theorem dropFrame (h : InStep k n pools inside ((f, g) :: out) s t) :
    InStep k n pools inside out (s.dropFrame f) (t.dropFrame g) :=
  { h with
    agrees := h.agrees.congr rfl rfl rfl rfl h.agrees.held
    agrees' := h.agrees'.congr rfl rfl rfl rfl h.agrees'.held
    shown := fun p hp => h.shown p (List.mem_cons_of_mem _ hp)
    bond := (Coupling.releaseFrame (h.shown _ List.mem_cons_self).1
      (Coupling.permFrames List.perm_middle h.bond)).1 }

theorem shareFrame (h : InStep k n pools inside out s t) (hmem : (f, g) ∈ out) :
    InStep k n pools inside ((f, g) :: out) (s.shareFrame f) (t.shareFrame g) :=
  { h with
    agrees := h.agrees.congr rfl rfl rfl rfl h.agrees.held
    agrees' := h.agrees'.congr rfl rfl rfl rfl h.agrees'.held
    shown := by
      intro p hp
      rcases List.mem_cons.1 hp with rfl | hp
      · exact h.shown _ hmem
      · exact h.shown p hp
    bond := Coupling.permFrames List.perm_middle.symm
      (Coupling.retainFrame (h.shown _ hmem).1 (List.mem_append_right inside hmem) h.bond) }

theorem take (h : InStep k n pools inside out s t) (hroom : k.room pools s.device t.device) :
    ∃ m rest gained, n.Grows m ∧ InStep k m pools rest out s.take.2 t.take.2 ∧
      Delivers m gained s.take.1 t.take.1 := by
  obtain ⟨m, rest, gained, hgrows, hafter, hdelivers⟩ := h.output hroom
  unfold Session.take
  rcases hleft : s.output with ⟨result, s'⟩
  rcases hright : t.output with ⟨result', t'⟩
  rw [hleft, hright] at hafter hdelivers
  cases hdelivers with
  | nothing => exact ⟨m, rest, [], hgrows, hafter, .nothing⟩
  | failure e => exact ⟨m, rest, [], hgrows, hafter, .failure e⟩
  | picture hfg => exact ⟨m, rest, _, hgrows, hafter.dropFrame, .picture hfg⟩

/-- Windows that hold nothing any more have given everything back. -/
theorem flushed (h : InStep k n pools inside out s t) :
    InStep k n pools [] out s.seek t.seek := by
  have hblank : (t.window.apply .flush).blank = (s.window.apply .flush).blank := by
    rw [Window.blank_apply, Window.blank_apply, h.window.blank_eq]
  obtain ⟨rest, hwindow, hseen, hbond, -⟩ := Coupling.leave h.window h.seen List.nil_suffix
    List.nil_suffix hblank h.bond
  have hnone : rest = [] := List.map_eq_nil_iff.1 hwindow.left.symm
  subst hnone
  exact { h with
    agrees := seek_agrees h.agrees
    agrees' := seek_agrees h.agrees'
    window := hwindow
    seen := hseen
    bond := hbond }

theorem setDeinterlacing (h : InStep k n pools inside out s t) (on : Bool) :
    InStep k n pools inside out (s.setDeinterlacing on).2 (t.setDeinterlacing on).2 ∧
      (t.setDeinterlacing on).1 = (s.setDeinterlacing on).1 := by
  unfold Session.setDeinterlacing
  rw [h.chain.options_eq]
  split
  · exact ⟨{ h with
      agrees := h.agrees.congr rfl rfl rfl rfl h.agrees.held
      agrees' := h.agrees'.congr rfl rfl rfl rfl h.agrees'.held
      deinterlacing_eq := rfl }, rfl⟩
  · exact ⟨h, rfl⟩

section Renewals

variable {fits : PoolDesc → Prop}

theorem closePool (hk : k.RenewsBeside (sharesOf out) fits) (h : InStep k n pools [] out s t) :
    InStep k n none [] out s.closePool t.closePool := by
  cases pools with
  | none =>
    have hnone : s.closePool = s := by simp only [Session.closePool, h.pool_eq, Option.map_none]
    have hnone' : t.closePool = t := by simp only [Session.closePool, h.pool_eq', Option.map_none]
    rw [hnone, hnone']
    exact h
  | some p =>
    have hclosed : s.closePool =
        { s with pool := none, device := Device.closePool p.1 s.device } := by
      simp only [Session.closePool, h.pool_eq, Option.map_some]
    have hclosed' : t.closePool =
        { t with pool := none, device := Device.closePool p.2 t.device } := by
      simp only [Session.closePool, h.pool_eq', Option.map_some]
    rw [hclosed, hclosed']
    exact { h with
      agrees := h.agrees.congr rfl rfl rfl rfl h.agrees.held
      agrees' := h.agrees'.congr rfl rfl rfl rfl h.agrees'.held
      pool_eq := rfl
      pool_eq' := rfl
      bond := hk.closePool h.bond }

theorem forget (hk : k.RenewsBeside (sharesOf out) fits) (h : InStep k n pools inside out s t) :
    InStep k n none [] out s.forget t.forget := by
  have hclosed := h.flushed.closePool hk
  exact { hclosed with
    agrees := forget_agrees h.agrees
    agrees' := forget_agrees h.agrees'
    chain := ⟨hclosed.chain.options_eq, rfl, .rfl, rfl⟩ }

/-- A new stream finds both sessions alike, whatever the callers still hold. -/
theorem reconfigure (hk : k.RenewsBeside (sharesOf out) fits) (h : InStep k n pools inside out s t)
    {params : StreamParams} (hfits : ∀ desc, poolFor params = some desc → fits desc) :
    ∃ later, InStep k n later [] out (s.reconfigure params).2 (t.reconfigure params).2 ∧
      (t.reconfigure params).1 = (s.reconfigure params).1 := by
  have hforgot := h.forget hk
  have hagrees := reconfigure_agrees h.agrees params
  have hagrees' := reconfigure_agrees h.agrees' params
  unfold Session.reconfigure at hagrees hagrees' ⊢
  cases hdesc : poolFor params with
  | none =>
    simp only [hdesc] at hagrees hagrees' ⊢
    exact ⟨none, hforgot, trivial⟩
  | some desc =>
    simp only [hdesc] at hagrees hagrees' ⊢
    rcases hk.createPool (hfits desc hdesc) hforgot.bond with ⟨error, d, e, hleft, hright, hbond⟩ |
      ⟨p, q, d, e, hleft, hright, hbond⟩
    · simp only [hleft] at hagrees ⊢
      simp only [hright] at hagrees' ⊢
      exact ⟨none, { hforgot with agrees := hagrees, agrees' := hagrees', bond := hbond }, trivial⟩
    · simp only [hleft] at hagrees ⊢
      simp only [hright] at hagrees' ⊢
      exact ⟨some (p, q), { hforgot with
        agrees := hagrees
        agrees' := hagrees'
        pool_eq := rfl
        pool_eq' := rfl
        bond := hbond }, trivial⟩

end Renewals

end InStep

end Session

end Deinterlace
