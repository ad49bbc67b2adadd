import Deinterlace.Proofs.Device.Traced
import Deinterlace.Proofs.Session.Moves

/-!
# Devices that cannot be told apart

A `Device.Bisimulation` relates states of two devices that give the same answers to every call that
an open session makes, and stay related. Sessions that differ in such a device and in nothing else
(`Session.Beside`) do the same: every call has the same answer on both sides, and leaves the
sessions beside each other again (`Device.Bisimulation.perform`). A device that takes no notice of
capability queries cannot be told from what it was before one (`Device.Indifferent`).
-/
namespace Deinterlace

variable {σ τ : Type} {α : Type} {R : σ → τ → Prop}

/-- Two outcomes with the same answer that leave related states. -/
structure Device.Same (R : σ → τ → Prop) (x : α × σ) (y : α × τ) : Prop where
  answer_eq : y.1 = x.1
  related : R x.2 y.2

/-- The outcomes, taken apart. -/
theorem Device.Same.exists_answer {x : α × σ} {y : α × τ} (h : Device.Same R x y) :
    ∃ answer d e, x = (answer, d) ∧ y = (answer, e) ∧ R d e := by
  obtain ⟨answer, d⟩ := x
  obtain ⟨other, e⟩ := y
  obtain ⟨hanswer, hrelated⟩ := h
  cases hanswer
  exact ⟨answer, d, e, rfl, rfl, hrelated⟩

variable [Device σ] [Device τ]

/-- Every call that an open session makes has the same answer in related states, and leads to
related states. -/
structure Device.Bisimulation (R : σ → τ → Prop) : Prop where
  queryCaps {d : σ} {e : τ} (context : ContextId) (filters : List BufferId) : R d e →
    Same R (Device.queryCaps context filters d) (Device.queryCaps context filters e)
  updateFlags {d : σ} {e : τ} (buffer : BufferId) (flags : DeintFlags) : R d e →
    Same R (Device.updateFlags buffer flags d) (Device.updateFlags buffer flags e)
  beginPicture {d : σ} {e : τ} (context : ContextId) (target : SurfaceId) : R d e →
    Same R (Device.beginPicture context target d) (Device.beginPicture context target e)
  createRequest {d : σ} {e : τ} (context : ContextId) (request : RenderRequest) : R d e →
    Same R (Device.createRequest context request d) (Device.createRequest context request e)
  renderPicture {d : σ} {e : τ} (context : ContextId) (buffers : List BufferId) : R d e →
    Same R (Device.renderPicture context buffers d) (Device.renderPicture context buffers e)
  endPicture {d : σ} {e : τ} (context : ContextId) : R d e →
    Same R (Device.endPicture context d) (Device.endPicture context e)
  destroyBuffer {d : σ} {e : τ} (buffer : BufferId) : R d e →
    R (Device.destroyBuffer buffer d) (Device.destroyBuffer buffer e)
  createPool {d : σ} {e : τ} (desc : PoolDesc) : R d e →
    Same R (Device.createPool desc d) (Device.createPool desc e)
  closePool {d : σ} {e : τ} (pool : PoolId) : R d e →
    R (Device.closePool pool d) (Device.closePool pool e)
  allocate {d : σ} {e : τ} (pool : PoolId) : R d e →
    Same R (Device.allocate pool d) (Device.allocate pool e)
  upload {d : σ} {e : τ} (pool : PoolId) (target : Surface) (frame : Frame) : R d e →
    Same R (Device.upload pool target frame d) (Device.upload pool target frame e)
  retain {d : σ} {e : τ} (lease : LeaseId) : R d e →
    R (Device.retain lease d) (Device.retain lease e)
  release {d : σ} {e : τ} (lease : LeaseId) : R d e →
    R (Device.release lease d) (Device.release lease e)

/-- States that are related cannot be told apart, and capability queries lead to related states. -/
structure Device.Indifferent (same : σ → σ → Prop) : Prop where
  bisimulation : Device.Bisimulation same
  refl (d : σ) : same d d
  asked {d e : σ} (context : ContextId) (filters : List BufferId) (h : same d e) :
    same d (Device.queryCaps context filters e).2

namespace Session

/-- The session on the other device, which is in a related state; everything else is the same. -/
structure Beside (R : σ → τ → Prop) (s : Session σ) (t : Session τ) : Prop where
  eq_on : t = s.on t.device
  related : R s.device t.device

/-- What the caller is told. -/
def answer (s : Session σ) : Call σ → Answer
  | .input frame => .accepted (s.input frame).1
  | .output => .delivered s.output.1
  | .take => .delivered s.take.1
  | .switch on => .switched (s.setDeinterlacing on).1
  | .reconfigure params => .configured (s.reconfigure params).1
  | .seek | .alter _ => .done

/-- What the caller is told, call by call. -/
def answers (s : Session σ) : List (Call σ) → List Answer
  | [] => []
  | call :: calls => s.answer call :: (s.perform call).answers calls

/-- The same call. Changes of the devices lead to related states again. -/
inductive Call.Beside (R : σ → τ → Prop) : Call σ → Call τ → Prop
  | input (frame : Option Frame) : Beside R (.input frame) (.input frame)
  | output : Beside R .output .output
  | take : Beside R .take .take
  | seek : Beside R .seek .seek
  | switch (on : Bool) : Beside R (.switch on) (.switch on)
  | reconfigure (params : StreamParams) : Beside R (.reconfigure params) (.reconfigure params)
  | alter {change : σ → σ} {other : τ → τ} (h : ∀ d e, R d e → R (change d) (other e)) :
      Beside R (.alter change) (.alter other)

omit [Device σ] in
/-- Calls that do nothing behind the session's back are the same calls. -/
theorem Call.beside_self {same : σ → σ → Prop} {call : Call σ}
    (h : ∀ change, call ≠ .alter change) : call.Beside same call := by
  cases call with
  | alter change => exact absurd rfl (h change)
  | _ => constructor

omit [Device σ] [Device τ] in
theorem Beside.of_related {s : Session σ} {e : τ} (h : R s.device e) : s.Beside R (s.on e) :=
  ⟨rfl, h⟩

omit [Device σ] [Device τ] in
/-- The other session differs in its device. -/
theorem Beside.exists_on {s : Session σ} {t : Session τ} (h : s.Beside R t) :
    ∃ e, t = s.on e ∧ R s.device e :=
  ⟨t.device, h.eq_on, h.related⟩

omit [Device σ] [Device τ] in
theorem Beside.window_eq {s : Session σ} {t : Session τ} (h : s.Beside R t) :
    t.window = s.window :=
  congrArg (·.window) h.eq_on

end Session

namespace Device.Bisimulation

open Session (Beside)

variable (h : Bisimulation R) {d : σ} {e : τ}
include h

/-! ## Frames and pictures -/

theorem retainFrame (frame : Frame) (hde : R d e) :
    R (Device.retainFrame frame d) (Device.retainFrame frame e) := by
  unfold Device.retainFrame
  split
  · exact h.retain _ hde
  · exact hde

theorem releaseFrame (frame : Frame) (hde : R d e) :
    R (Device.releaseFrame frame d) (Device.releaseFrame frame e) := by
  unfold Device.releaseFrame
  split
  · exact h.release _ hde
  · exact hde

theorem releaseSurface (surface : Surface) (hde : R d e) :
    R (Device.releaseSurface surface d) (Device.releaseSurface surface e) := by
  unfold Device.releaseSurface
  split
  · exact h.release _ hde
  · exact hde

theorem releaseFrames (frames : List Frame) (hde : R d e) :
    R (Device.releaseFrames frames d) (Device.releaseFrames frames e) := by
  unfold Device.releaseFrames
  induction frames generalizing d e with
  | nil => exact hde
  | cons frame rest ih => exact ih (h.releaseFrame frame hde)

theorem applyFlags (buffer : Option BufferId) (flags : DeintFlags) (hde : R d e) :
    Same R (Rendering.applyFlags buffer flags d) (Rendering.applyFlags buffer flags e) := by
  cases buffer with
  | none => exact ⟨rfl, hde⟩
  | some id => exact h.updateFlags id flags hde

/-- Submissions end in the same way. -/
theorem submit (context : ContextId) (buffer : Option BufferId) (flags : DeintFlags)
    (request : RenderRequest) (hde : R d e) :
    Same R (Rendering.submit context buffer flags request d)
      (Rendering.submit context buffer flags request e) := by
  have habandon : ∀ {d e}, R d e →
      R (Rendering.abandon context d) (Rendering.abandon context e) :=
    fun hde => (h.endPicture context hde).related
  unfold Rendering.submit
  obtain ⟨begun, d₁, e₁, hd, he, h₁⟩ :=
    (h.beginPicture context request.destination hde).exists_answer
  rw [hd, he]
  rcases begun with error | _
  · exact ⟨rfl, h₁⟩
  obtain ⟨set, d₂, e₂, hd, he, h₂⟩ := (h.applyFlags buffer flags h₁).exists_answer
  dsimp only
  rw [hd, he]
  rcases set with error | _
  · exact ⟨rfl, habandon h₂⟩
  obtain ⟨made, d₃, e₃, hd, he, h₃⟩ := (h.createRequest context request h₂).exists_answer
  dsimp only
  rw [hd, he]
  rcases made with error | params
  · exact ⟨rfl, habandon h₃⟩
  obtain ⟨rendered, d₄, e₄, hd, he, h₄⟩ := (h.renderPicture context [params] h₃).exists_answer
  dsimp only
  rw [hd, he]
  rcases rendered with error | _
  · exact ⟨rfl, h.destroyBuffer params (habandon h₄)⟩
  obtain ⟨ended, d₅, e₅, hd, he, h₅⟩ := (h.endPicture context h₄).exists_answer
  dsimp only
  rw [hd, he]
  exact ⟨rfl, h.destroyBuffer params h₅⟩

theorem render (context : ContextId) (c : Chain) (w : Window) (pool : Option PoolId)
    (current : Frame) (hde : R d e) :
    Same R (Rendering.render context c w pool current d)
      (Rendering.render context c w pool current e) := by
  unfold Rendering.render
  split
  · exact ⟨rfl, hde⟩
  cases pool with
  | none => exact ⟨rfl, hde⟩
  | some p =>
    obtain ⟨lent, d₁, e₁, hd, he, h₁⟩ := (h.allocate p hde).exists_answer
    dsimp only
    rw [hd, he]
    rcases lent with error | target
    · exact ⟨rfl, h₁⟩
    dsimp only
    split
    · exact ⟨rfl, h.releaseSurface target h₁⟩
    obtain ⟨done, d₂, e₂, hd, he, h₂⟩ := (h.submit context c.deinterlaceBuffer?
      (.ofField (Rendering.buildRequest c w current target.id).field w.topFieldFirst)
      (Rendering.buildRequest c w current target.id) h₁).exists_answer
    rw [hd, he]
    rcases done with error | _
    · exact ⟨rfl, h.releaseSurface target h₂⟩
    · exact ⟨rfl, h₂⟩

theorem uploadFrame (pool : Option PoolId) (frame : Frame) (hde : R d e) :
    Same R (Session.upload pool frame d) (Session.upload pool frame e) := by
  cases pool with
  | none => exact ⟨rfl, hde⟩
  | some p =>
    unfold Session.upload
    obtain ⟨lent, d₁, e₁, hd, he, h₁⟩ := (h.allocate p hde).exists_answer
    dsimp only
    rw [hd, he]
    rcases lent with error | target
    · exact ⟨rfl, h₁⟩
    obtain ⟨copied, d₂, e₂, hd, he, h₂⟩ := (h.upload p target frame h₁).exists_answer
    dsimp only
    rw [hd, he]
    rcases copied with error | _
    · exact ⟨rfl, h.releaseSurface target h₂⟩
    · exact ⟨rfl, h₂⟩

/-! ## Calls -/

variable {s : Session σ} {t : Session τ}

/-- Negotiations come to the same. -/
theorem negotiate (c : Chain) (context : ContextId) (on : Bool) (w : Window) (hde : R d e) :
    ∃ chain window d' e', c.configure context on w d = (chain, window, d') ∧
      c.configure context on w e = (chain, window, e') ∧ R d' e' := by
  rw [Chain.configure_eq, Chain.configure_eq]
  split
  · exact ⟨_, _, d, e, rfl, rfl, hde⟩
  split
  · exact ⟨_, _, d, e, rfl, rfl, hde⟩
  obtain ⟨told, d₁, e₁, hd, he, h₁⟩ :=
    (h.queryCaps context (c.keyFor on).filters hde).exists_answer
  rw [hd, he]
  cases told <;> exact ⟨_, _, d₁, e₁, rfl, rfl, h₁⟩

theorem setWindow (hst : s.Beside R t) (w : Window) : (s.setWindow w).Beside R (t.setWindow w) := by
  obtain ⟨e, rfl, hde⟩ := hst.exists_on
  exact ⟨rfl, h.releaseFrames _ hde⟩

theorem configure (hst : s.Beside R t) : s.configure.Beside R t.configure := by
  obtain ⟨e, rfl, hde⟩ := hst.exists_on
  obtain ⟨chain, window, d', e', hd, he, hrelated⟩ :=
    h.negotiate s.chain s.context s.deinterlacing s.window hde
  have hs : s.configure = { s with chain := chain, device := d' }.setWindow window := by
    rw [Session.configure_eq, hd]
  have ht : (s.on e).configure = { s.on e with chain := chain, device := e' }.setWindow window := by
    rw [Session.configure_eq]
    exact congrArg (fun negotiated : Chain × Window × τ =>
      { s.on e with chain := negotiated.1, device := negotiated.2.2 }.setWindow negotiated.2.1) he
  rw [hs, ht]
  exact h.setWindow (s := { s with chain := chain, device := d' }) ⟨rfl, hrelated⟩ window

/-- Inputs come to the same once the negotiations have come to the same. -/
theorem input_of_configure (hst : s.configure.Beside R t.configure) (frame : Option Frame) :
    (t.input frame).1 = (s.input frame).1 ∧ (s.input frame).2.Beside R (t.input frame).2 := by
  obtain ⟨e, heq, hde⟩ := hst.exists_on
  unfold Session.input
  rw [heq]
  cases frame with
  | none => exact ⟨rfl, rfl, hde⟩
  | some frame =>
    dsimp only
    split
    · exact ⟨rfl, rfl, hde⟩
    obtain ⟨uploaded, d₁, e₁, hd, he, h₁⟩ :=
      (h.uploadFrame s.configure.pool frame hde).exists_answer
    have he : Session.upload (s.configure.on e).pool frame (s.configure.on e).device =
        (uploaded, e₁) := he
    rw [hd, he]
    cases uploaded <;> exact ⟨rfl, rfl, h.releaseFrame frame h₁⟩

theorem input (hst : s.Beside R t) (frame : Option Frame) :
    (t.input frame).1 = (s.input frame).1 ∧ (s.input frame).2.Beside R (t.input frame).2 :=
  h.input_of_configure (h.configure hst) frame

theorem output (hst : s.Beside R t) :
    t.output.1 = s.output.1 ∧ s.output.2.Beside R t.output.2 := by
  obtain ⟨e, rfl, hde⟩ := hst.exists_on
  rcases s.output_cases with ⟨hout, heq⟩ | ⟨frame, hout, hcur, hpass, heq⟩ |
    ⟨frame, picture, device, stats, hout, hcur, hpass, hrender, heq⟩
  · rw [heq, Session.output_of_idle (s := s.on e) hout]
    exact ⟨rfl, hst⟩
  · rw [heq, Session.output_of_passed (s := s.on e) hout hcur hpass]
    exact ⟨rfl, rfl, h.releaseFrames _ (h.retainFrame frame hde)⟩
  · obtain ⟨outcome, d', e', hd, he, hrelated⟩ :=
      (h.render s.context s.chain s.window s.pool frame hde).exists_answer
    have hout' : (s.on e).window.hasOutput = true := hout
    have hcur' : (s.on e).window.current? = some frame := hcur
    have hpass' : (s.on e).passesThrough = false := hpass
    have he : Rendering.render (s.on e).context (s.on e).chain (s.on e).window (s.on e).pool frame
        (s.on e).device = (outcome, e') := he
    have hside : ∀ stats, Beside R
        { { s with device := d' }.setWindow s.window.advanceField with stats }
        { { s.on e with device := e' }.setWindow s.window.advanceField with stats } :=
      fun stats => ⟨rfl, h.releaseFrames _ hrelated⟩
    simp only [Session.output, hout, hout', hcur, hcur', hpass, hpass', hd, he, Bool.not_true,
      Bool.false_eq_true, if_false]
    cases outcome with
    | ok picture => exact ⟨rfl, hside _⟩
    | error error => exact ⟨rfl, hside _⟩

theorem take (hst : s.Beside R t) : t.take.1 = s.take.1 ∧ s.take.2.Beside R t.take.2 := by
  obtain ⟨hanswer, hlater⟩ := h.output hst
  unfold Session.take
  rcases hs : s.output with ⟨result, s'⟩
  rcases ht : t.output with ⟨result', t'⟩
  rw [hs, ht] at hanswer hlater
  cases hanswer
  obtain ⟨e, rfl, hde⟩ := hlater.exists_on
  match result with
  | .error _ => exact ⟨rfl, rfl, hde⟩
  | .ok none => exact ⟨rfl, rfl, hde⟩
  | .ok (some picture) => exact ⟨rfl, rfl, h.releaseFrame picture hde⟩

theorem poolClosed (hst : s.Beside R t) : s.closePool.Beside R t.closePool := by
  obtain ⟨e, rfl, hde⟩ := hst.exists_on
  have hpool : (s.on e).pool = s.pool := rfl
  unfold Session.closePool
  rw [hpool]
  cases s.pool with
  | none => exact hst
  | some pool => exact ⟨rfl, h.closePool pool hde⟩

theorem forget (hst : s.Beside R t) : s.forget.Beside R t.forget := by
  have hclosed := h.poolClosed (h.setWindow hst s.window.flush)
  unfold Session.forget
  rw [hst.window_eq]
  obtain ⟨e, heq, hde⟩ := hclosed.exists_on
  rw [heq]
  exact ⟨rfl, hde⟩

theorem reconfigure (hst : s.Beside R t) (params : StreamParams) :
    (t.reconfigure params).1 = (s.reconfigure params).1 ∧
      (s.reconfigure params).2.Beside R (t.reconfigure params).2 := by
  obtain ⟨e, heq, hde⟩ := (h.forget hst).exists_on
  unfold Session.reconfigure
  rw [heq]
  cases Session.poolFor params with
  | none => exact ⟨rfl, rfl, hde⟩
  | some desc =>
    obtain ⟨made, d₁, e₁, hd, he, h₁⟩ := (h.createPool desc hde).exists_answer
    have he : Device.createPool desc (s.forget.on e).device = (made, e₁) := he
    dsimp only
    rw [hd, he]
    cases made <;> exact ⟨rfl, rfl, h₁⟩

omit [Device σ] [Device τ] h in
theorem setDeinterlacing (hst : s.Beside R t) (on : Bool) :
    (t.setDeinterlacing on).1 = (s.setDeinterlacing on).1 ∧
      (s.setDeinterlacing on).2.Beside R (t.setDeinterlacing on).2 := by
  obtain ⟨e, rfl, hde⟩ := hst.exists_on
  have hoptions : (s.on e).chain = s.chain := rfl
  unfold Session.setDeinterlacing
  rw [hoptions]
  split <;> exact ⟨rfl, rfl, hde⟩

/-! ## Runs -/

/-- **A call has the same answer on both sides**, and the sessions are beside each other again. -/
theorem perform (hst : s.Beside R t) {call : Session.Call σ} {other : Session.Call τ}
    (hcalls : call.Beside R other) :
    t.answer other = s.answer call ∧ (s.perform call).Beside R (t.perform other) := by
  cases hcalls with
  | input frame =>
    obtain ⟨hanswer, hlater⟩ := h.input hst frame
    exact ⟨congrArg _ hanswer, hlater⟩
  | output =>
    obtain ⟨hanswer, hlater⟩ := h.output hst
    exact ⟨congrArg _ hanswer, hlater⟩
  | take =>
    obtain ⟨hanswer, hlater⟩ := h.take hst
    exact ⟨congrArg _ hanswer, hlater⟩
  | seek =>
    refine ⟨rfl, ?_⟩
    simp only [Session.perform, Session.seek, hst.window_eq]
    exact h.setWindow hst _
  | switch on =>
    obtain ⟨hanswer, hlater⟩ := setDeinterlacing hst on
    exact ⟨congrArg _ hanswer, hlater⟩
  | reconfigure params =>
    obtain ⟨hanswer, hlater⟩ := h.reconfigure hst params
    exact ⟨congrArg _ hanswer, hlater⟩
  | alter hchange =>
    obtain ⟨e, rfl, hde⟩ := hst.exists_on
    exact ⟨rfl, rfl, hchange _ _ hde⟩

/-- **Runs of the same calls have the same answers**, and the sessions stay beside each other. -/
theorem run (hst : s.Beside R t) {calls : List (Session.Call σ)} {others : List (Session.Call τ)}
    (hcalls : List.Forall₂ (Session.Call.Beside R) calls others) :
    t.answers others = s.answers calls ∧
      (calls.foldl Session.perform s).Beside R (others.foldl Session.perform t) := by
  induction hcalls generalizing s t with
  | nil => exact ⟨rfl, hst⟩
  | cons hcall _ ih =>
    obtain ⟨hanswer, hnext⟩ := h.perform hst hcall
    obtain ⟨hanswers, hlater⟩ := ih hnext
    exact ⟨by rw [Session.answers, Session.answers, hanswer, hanswers], hlater⟩

end Device.Bisimulation

end Deinterlace
