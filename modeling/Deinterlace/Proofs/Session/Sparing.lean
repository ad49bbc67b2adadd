import Deinterlace.Proofs.Session.Oblivion

/-!
# What only submissions change

Much of what can be said of a device is none of the business of most operations: only a submission
sets the flags of a filter or renders a request. `Device.Spares` says that nothing else that a
session does with its device can end a statement about it. Then every call keeps the statement if
the session's submissions do (`Session.keeps_perform`), and it holds in every state that can be
reached (`Custody.Reachable.keeps`). Compared with `Device.Upholds` more is known of a submission
here: the session that makes it, and so the filter whose flags it sets.
-/
namespace Deinterlace

variable {σ : Type} [Device σ] {P : σ → Prop}

/-- Whatever a session does with its device apart from submissions, the statement still holds. -/
structure Device.Spares (P : σ → Prop) : Prop where
  retain (lease : LeaseId) {d : σ} : P d → P (Device.retain lease d)
  release (lease : LeaseId) {d : σ} : P d → P (Device.release lease d)
  queryCaps (context : ContextId) (filters : List BufferId) {d : σ} : P d →
    P (Device.queryCaps context filters d).2
  createPool (desc : PoolDesc) {d : σ} : P d → P (Device.createPool desc d).2
  closePool (pool : PoolId) {d : σ} : P d → P (Device.closePool pool d)
  allocate (pool : PoolId) {d : σ} : P d → P (Device.allocate pool d).2
  upload (pool : PoolId) (target : Surface) (frame : Frame) {d : σ} : P d →
    P (Device.upload pool target frame d).2

/-- The submissions of a session do not end the statement. -/
def Session.Submits (P : σ → Prop) (s : Session σ) : Prop :=
  ∀ flags request d, P d →
    P (Rendering.submit s.context s.chain.deinterlaceBuffer? flags request d).2

namespace Device.Spares

variable (h : Device.Spares P) {d : σ}
include h

theorem retainFrame (frame : Frame) (hd : P d) : P (Device.retainFrame frame d) := by
  unfold Device.retainFrame
  split
  · exact h.retain _ hd
  · exact hd

theorem releaseFrame (frame : Frame) (hd : P d) : P (Device.releaseFrame frame d) := by
  unfold Device.releaseFrame
  split
  · exact h.release _ hd
  · exact hd

theorem releaseSurface (surface : Surface) (hd : P d) : P (Device.releaseSurface surface d) := by
  unfold Device.releaseSurface
  split
  · exact h.release _ hd
  · exact hd

theorem releaseFrames (frames : List Frame) (hd : P d) : P (Device.releaseFrames frames d) :=
  List.foldlRecOn frames _ hd fun _ hd frame _ => h.releaseFrame frame hd

theorem allocate_eq (hd : P d) {pool : PoolId} {result : Except DeviceError Surface} {lent : σ}
    (hallocate : Device.allocate pool d = (result, lent)) : P lent := by
  have hlent := h.allocate pool hd
  rwa [hallocate] at hlent

theorem uploadFrame (pool : Option PoolId) (frame : Frame) (hd : P d) :
    P (Session.upload pool frame d).2 := by
  have hcopied : ∀ {p surface lent result later}, P lent →
      Device.upload p surface frame lent = (result, later) → P later := by
    intro p surface lent result later hlent heq
    have hcopied := h.upload p surface frame hlent
    rwa [heq] at hcopied
  rcases Session.upload_cases pool frame d with ⟨e, heq⟩ | ⟨p, e, later, -, hallocate, heq⟩ |
    ⟨p, surface, lent, e, later, -, hallocate, hupload, heq⟩ |
    ⟨p, surface, lent, later, -, hallocate, hupload, heq⟩ <;> rw [heq]
  · exact hd
  · exact h.allocate_eq hd hallocate
  · exact h.releaseSurface surface (hcopied (h.allocate_eq hd hallocate) hupload)
  · exact hcopied (h.allocate_eq hd hallocate) hupload

/-- Besides the submission, rendering takes a surface and may give it back. -/
theorem render {s : Session σ} (hsubmits : s.Submits P) (w : Window) (pool : Option PoolId)
    (current : Frame) (hd : P d) :
    P (Rendering.render s.context s.chain w pool current d).2 := by
  have hdone : ∀ {p target lent flags request result later},
      Device.allocate p d = (.ok target, lent) →
      Rendering.submit s.context s.chain.deinterlaceBuffer? flags request lent = (result, later) →
        P later := by
    intro p target lent flags request result later hallocate heq
    have hdone := hsubmits flags request lent (h.allocate_eq hd hallocate)
    rwa [heq] at hdone
  rcases Rendering.render_cases s.context s.chain w pool current d with ⟨e, heq⟩ |
    ⟨p, e, later, -, hallocate, heq⟩ | ⟨p, target, lent, e, -, hallocate, heq⟩ |
    ⟨p, target, lent, e, later, -, hallocate, hsubmit, heq⟩ |
    ⟨p, target, lent, later, -, hallocate, hsubmit, heq⟩ <;> rw [heq]
  · exact hd
  · exact h.allocate_eq hd hallocate
  · exact h.releaseSurface target (h.allocate_eq hd hallocate)
  · exact h.releaseSurface target (hdone hallocate hsubmit)
  · exact hdone hallocate hsubmit

end Device.Spares

namespace Session

variable (h : Device.Spares P) {s : Session σ}
include h

theorem keeps_configure (hs : P s.device) : P s.configure.device := by
  rw [configure_eq]
  refine h.releaseFrames _ ?_
  have hasked : ∀ {answer later},
      Device.queryCaps s.context (s.chain.keyFor s.deinterlacing).filters s.device =
        (answer, later) → P later := by
    intro answer later heq
    have hasked := h.queryCaps s.context (s.chain.keyFor s.deinterlacing).filters hs
    rwa [heq] at hasked
  rcases s.chain.configure_cases s.context s.deinterlacing s.window s.device with ⟨-, heq⟩ |
    ⟨-, later, ⟨-, hsame⟩ | ⟨e, hquery⟩, heq⟩ | ⟨-, -, caps, later, hquery, heq⟩ <;> rw [heq]
  · exact hs
  · exact hsame ▸ hs
  · exact hasked hquery
  · exact hasked hquery

theorem keeps_input (frame : Option Frame) (hs : P s.device) : P (s.input frame).2.device := by
  have hconf := keeps_configure h hs
  unfold Session.input
  cases frame with
  | none => exact hconf
  | some frame =>
    dsimp only
    split
    · exact hconf
    · have huploaded := h.uploadFrame s.configure.pool frame hconf
      rcases hupload : Session.upload s.configure.pool frame s.configure.device with
        ⟨e | uploaded, later⟩ <;> rw [hupload] at huploaded <;>
        exact h.releaseFrame frame huploaded

theorem keeps_output (hsubmits : s.Submits P) (hs : P s.device) : P s.output.2.device := by
  rcases s.output_cases with ⟨-, heq⟩ | ⟨frame, -, -, -, heq⟩ |
    ⟨frame, picture, later, stats, -, -, -, hrender, heq⟩ <;> rw [heq]
  · exact hs
  · exact h.releaseFrames _ (h.retainFrame frame hs)
  · have hrendered := h.render hsubmits s.window s.pool frame hs
    rw [hrender] at hrendered
    exact h.releaseFrames _ hrendered

theorem keeps_take (hsubmits : s.Submits P) (hs : P s.device) : P s.take.2.device := by
  have hout := keeps_output h hsubmits hs
  unfold Session.take
  rcases hres : s.output with ⟨e | _ | picture, later⟩ <;> rw [hres] at hout
  · exact hout
  · exact hout
  · exact h.releaseFrame picture hout

theorem keeps_reconfigure (params : StreamParams) (hs : P s.device) :
    P (s.reconfigure params).2.device := by
  have hclosed : ∀ t : Session σ, P t.device → P t.closePool.device := by
    intro t ht
    unfold Session.closePool
    split
    · exact h.closePool _ ht
    · exact ht
  have hforget : P s.forget.device := hclosed _ (h.releaseFrames _ hs)
  unfold Session.reconfigure
  dsimp only
  split
  · exact hforget
  · rename_i desc _
    have hmade := h.createPool desc hforget
    rcases hpool : Device.createPool desc s.forget.device with ⟨e | pool, later⟩ <;>
      rw [hpool] at hmade <;> exact hmade

/-- **What submissions do not end, no call ends**, unless something is done to the device behind the
session's back. -/
theorem keeps_perform (hsubmits : s.Submits P) {call : Call σ}
    (halter : ∀ change, call = .alter change → ∀ d, P d → P (change d)) (hs : P s.device) :
    P (s.perform call).device := by
  cases call with
  | input frame => exact keeps_input h frame hs
  | output => exact keeps_output h hsubmits hs
  | take => exact keeps_take h hsubmits hs
  | seek => exact h.releaseFrames _ hs
  | switch on =>
    show P (s.setDeinterlacing on).2.device
    unfold Session.setDeinterlacing
    split <;> exact hs
  | reconfigure params => exact keeps_reconfigure h params hs
  | alter change => exact halter change rfl _ hs

end Session

namespace Custody

variable {harmless : (σ → σ) → Prop} {c : Custody σ}

theorem keeps_next (h : Device.Spares P) (hharmless : ∀ change, harmless change → ∀ d, P d →
      P (change d)) (hsubmits : c.session.Submits P) {deed : Deed σ}
    (hdeed : c.Permits harmless deed) (hc : P c.session.device) :
    P (c.next deed).session.device := by
  cases deed with
  | call call =>
    refine Session.keeps_perform h hsubmits (fun change heq => ?_) hc
    subst heq
    exact hharmless change hdeed
  | give place =>
    simp only [next]
    split
    · exact Session.keeps_input h _ hc
    · exact hc
  | share place =>
    simp only [next]
    split
    · exact h.retainFrame _ hc
    · exact hc
  | drop place =>
    simp only [next]
    split
    · exact h.releaseFrame _ hc
    · exact hc
  | revise place frame => exact hc

/-- The objects of a session stay the same. -/
theorem fixtures_next (c : Custody σ) {deed : Deed σ} (hdeed : c.Permits harmless deed) :
    (c.next deed).session.fixtures = c.session.fixtures :=
  (obeys_next (Device.upholds_const c.session.fixtures True) (fun _ _ _ _ _ _ => trivial)
    ⟨rfl, trivial⟩ hdeed).fixtures_eq

/-- **What the submissions of a session do not end holds in every state that can be reached**, if it
holds on opening. It may depend on the objects of the session. -/
theorem Reachable.keeps {options : Options} {device : σ} {P : Fixtures → σ → Prop}
    (hspares : ∀ u, Device.Spares (P u))
    (hharmless : ∀ u change, harmless change → ∀ d, P u d → P u (change d))
    (hsubmits : ∀ s : Session σ, s.Agrees → s.Submits (P s.fixtures))
    (hopen : ∀ s, Session.open? options device = .ok s → P s.fixtures s.device)
    (h : Reachable harmless options device c) : P c.session.fixtures c.session.device := by
  induction h with
  | opened hs => exact hopen _ hs
  | @next c deed hc hdeed ih =>
    rw [c.fixtures_next hdeed]
    exact keeps_next (hspares _) (hharmless _) (hsubmits _ hc.agrees.1) hdeed ih

end Custody

end Deinterlace
