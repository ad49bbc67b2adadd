import Deinterlace.Proofs.Session.Feeding
import Deinterlace.Proofs.Session.Upkeep
import Deinterlace.Proofs.Simulator.Effects

/-!
# One surface for all pictures

A caller who gives every picture back before it asks for the next one makes do with one surface: a
pool of a simulated device puts a surface that comes back on top of the free ones and hands it out
again. `Simulator.Sole` says that a pool has no surface but one, and that this one is not out; every
input and every output that is given back at once keeps it (`Journal.Recycles`). So all pictures
that are rendered from a stream of frames from elsewhere are on the same surface
(`Journal.Recycles.follow`).
-/
namespace Deinterlace

/-! ## Frames from elsewhere -/

namespace Device

variable {σ : Type} [Device σ]

/-- Frames that no pool owns are of no concern to a device. -/
theorem releaseFrame_of_unleased {frame : Frame} (h : frame.lease? = none) (d : σ) :
    releaseFrame frame d = d := by
  simp only [releaseFrame, h]

theorem retainFrame_of_unleased {frame : Frame} (h : frame.lease? = none) (d : σ) :
    retainFrame frame d = d := by
  simp only [retainFrame, h]

theorem releaseFrames_of_unleased {frames : List Frame} (h : ∀ x ∈ frames, x.lease? = none)
    (d : σ) : releaseFrames frames d = d :=
  List.foldlRecOn (motive := fun d' => d' = d) frames _ rfl fun d' hd x hx => by
    rw [releaseFrame_of_unleased (h x hx), hd]

end Device

theorem Session.setWindow_of_unleased {σ : Type} [Device σ] {s : Session σ}
    (h : ∀ x ∈ s.window.frames, x.lease? = none) (later : Window) :
    s.setWindow later = { s with window := later } := by
  have hretired : ∀ x ∈ s.window.retired later, x.lease? = none :=
    fun x hx => h x (List.mem_of_mem_take hx)
  rw [setWindow, Device.releaseFrames_of_unleased hretired]

theorem Session.configure_of_unleased {σ : Type} [Device σ] {s : Session σ}
    (h : ∀ x ∈ s.window.frames, x.lease? = none) :
    s.configure =
      let negotiated := s.chain.configure s.context s.deinterlacing s.window s.device
      { s with chain := negotiated.1, window := negotiated.2.1, device := negotiated.2.2 } := by
  let negotiated := s.chain.configure s.context s.deinterlacing s.window s.device
  exact setWindow_of_unleased (s := { s with chain := negotiated.1, device := negotiated.2.2 }) h
    negotiated.2.1

/-! ## A pool of one surface -/

namespace Simulator

/-- The pool has no surface but `id`, and none of any pool is out. -/
structure Sole (d : Simulator) (pool : PoolId) (id : SurfaceId) : Prop where
  live : d.leases.live = []
  stocked : ∃ p, d.pools[pool]? = some p ∧
    (p.allocated = 0 ∧ p.free = [] ∧ d.nextId = id.value ∨ p.allocated = 1 ∧ p.free = [id])

/-- The one surface of the pool is out, with one holder. -/
structure Lent (d : Simulator) (pool : PoolId) (id : SurfaceId) (key : LeaseId) : Prop where
  live : d.leases.live = [⟨key, pool, id, 1⟩]
  stocked : ∃ p, d.pools[pool]? = some p ∧ p.allocated = 1 ∧ p.free = []

variable {d later : Simulator} {pool : PoolId} {id : SurfaceId} {key : LeaseId}

theorem Sole.record (h : d.Sole pool id) (call : Call) : (d.record call).Sole pool id :=
  ⟨h.live, h.stocked⟩

theorem Lent.quiet (h : d.Lent pool id key) (hquiet : Quiet d later) : later.Lent pool id key where
  live := by
    rw [hquiet.leases_eq]
    exact h.live
  stocked := by
    rw [hquiet.pools_eq]
    exact h.stocked

theorem lent_of_lend {p : Pool} {desc : PoolDesc} {target : Surface}
    (hlend : d.lend pool desc id = (.ok target, later)) (hlive : d.leases.live = [])
    (hp : d.pools[pool]? = some p) (hone : p.allocated = 1) (hnone : p.free = []) :
    ∃ key, target.id = id ∧ target.lease = some key ∧ later.Lent pool id key := by
  cases hlend
  refine ⟨d.leases.nextKey, rfl, rfl, ?_, p, hp, hone, hnone⟩
  show ⟨d.leases.nextKey, pool, id, 1⟩ :: d.leases.live = _
  rw [hlive]

/-- Taking the surface. -/
theorem Sole.allocate (h : d.Sole pool id) {target : Surface}
    (hallocate : Device.allocate pool d = (.ok target, later)) :
    ∃ key, target.id = id ∧ target.lease = some key ∧ later.Lent pool id key := by
  obtain ⟨p, hp, hstock⟩ := h.stocked
  rcases allocate_cases d pool with ⟨e, heq, -⟩ | ⟨q, taken, rest, hq, hfree, -, heq⟩ |
    ⟨q, hq, hfree, -, -, heq⟩ <;> rw [heq] at hallocate
  · cases hallocate
  · rw [hp] at hq
    cases hq
    rcases hstock with ⟨-, hnone, -⟩ | ⟨hone, hsole⟩
    · rw [hnone] at hfree
      cases hfree
    · rw [hsole] at hfree
      cases hfree
      exact lent_of_lend hallocate (p := { p with free := [] }) h.live
        (by simp [modifyPool, hp]) hone rfl
  · rw [hp] at hq
    cases hq
    rcases hstock with ⟨hzero, hnone, hnext⟩ | ⟨-, hsole⟩
    · have hid : (⟨d.nextId⟩ : SurfaceId) = id := by rw [hnext]
      rw [hid] at hallocate
      exact lent_of_lend hallocate (p := { p with allocated := p.allocated + 1 }) h.live
        (by simp [modifyPool, bump, hp]) (by simp [hzero]) hnone
    · rw [hsole] at hfree
      cases hfree

/-- Giving it back. -/
theorem Lent.release (h : d.Lent pool id key) : (Device.release key d).Sole pool id := by
  obtain ⟨p, hp, hone, hnone⟩ := h.stocked
  have heq : Device.release key d =
      modifyPool { d with leases := { d.leases with live := [] } } pool
        fun p => { p with free := id :: p.free } := by
    show Simulator.release key d = _
    simp [Simulator.release, Leases.release?, Leases.find?, h.live]
  rw [heq]
  refine ⟨rfl, { p with free := [id] }, ?_, .inr ⟨hone, rfl⟩⟩
  simp [modifyPool, hp, hnone]

/-- An attempt to render leaves the surface where it was, or gives a picture on it. -/
theorem Sole.render (h : d.Sole pool id) (context : ContextId) (c : Chain) (w : Window)
    (current : Frame) :
    (∃ e later, Rendering.render context c w (some pool) current d = (.error e, later) ∧
      later.Sole pool id) ∨
    ∃ picture later key, Rendering.render context c w (some pool) current d =
      (.ok picture, later) ∧ picture.surfaceId = id ∧ picture.lease? = some key ∧
      later.Lent pool id key := by
  have hquiet := quiet_submit context c.deinterlaceBuffer?
    (.ofField (Rendering.fieldOf w) w.topFieldFirst)
  rcases Rendering.render_cases context c w (some pool) current d with ⟨e, heq⟩ |
    ⟨q, e, later, hq, hallocate, heq⟩ | ⟨q, target, lent, e, hq, hallocate, heq⟩ |
    ⟨q, target, lent, e, later, hq, hallocate, hsubmit, heq⟩ |
    ⟨q, target, lent, later, hq, hallocate, hsubmit, heq⟩
  · exact .inl ⟨e, d, heq, h⟩
  all_goals cases hq
  · refine .inl ⟨_, later, heq, ?_⟩
    rcases allocate_cases d pool with ⟨e', hsame, -⟩ | ⟨q, taken, rest, -, -, -, hlend⟩ |
      ⟨q, -, -, -, -, hlend⟩
    · rw [hsame] at hallocate
      cases hallocate
      exact h
    · rw [hlend] at hallocate
      cases hallocate
    · rw [hlend] at hallocate
      cases hallocate
  -- the surface has been taken: it goes back unless there is a picture on it
  all_goals obtain ⟨key, htarget, hlease, hlent⟩ := h.allocate hallocate
  · refine .inl ⟨_, _, heq, ?_⟩
    rw [Device.releaseSurface, hlease]
    exact hlent.release
  · refine .inl ⟨_, _, heq, ?_⟩
    have hlater := hquiet (Rendering.buildRequest c w current target.id) lent
    rw [hsubmit] at hlater
    rw [Device.releaseSurface, hlease]
    exact (hlent.quiet hlater).release
  · have hlater := hquiet (Rendering.buildRequest c w current target.id) lent
    rw [hsubmit] at hlater
    exact .inr ⟨_, _, key, heq, htarget, hlease, hlent.quiet hlater⟩

end Simulator

/-! ## Streams of frames from elsewhere -/

namespace Journal

open Simulator

variable {j : Journal Simulator} {pool : PoolId} {id : SurfaceId}

/-- The window holds frames that no pool owns, and every picture that was rendered was on the one
surface of the session's pool. -/
structure Recycles (j : Journal Simulator) (pool : PoolId) (id : SurfaceId) : Prop where
  pool_eq : j.session.pool = some pool
  sole : j.session.device.Sole pool id
  unleased : ∀ x ∈ j.session.window.frames, x.lease? = none
  shown : ∀ t ∈ j.ticks, t.rendered = true → ∀ picture, t.result = .ok picture →
    picture.surfaceId = id

namespace Recycles

theorem configure (h : j.Recycles pool id) :
    j.session.configure.pool = some pool ∧ j.session.configure.device.Sole pool id ∧
      ∀ x ∈ j.session.configure.window.frames, x.lease? = none := by
  have hframes := Chain.frames_configure_suffix j.session.chain j.session.context
    j.session.deinterlacing j.session.window j.session.device
  rw [Session.configure_of_unleased h.unleased]
  refine ⟨h.pool_eq, ?_, fun x hx => h.unleased x (hframes.subset hx)⟩
  have hsole := h.sole
  rcases Chain.configure_cases j.session.chain j.session.context j.session.deinterlacing
    j.session.window j.session.device with ⟨-, heq⟩ | ⟨-, later, ⟨-, rfl⟩ | ⟨e, hquery⟩, heq⟩ |
    ⟨-, -, caps, later, hquery, heq⟩ <;> rw [heq]
  · exact hsole
  · exact hsole
  all_goals
    have hlater := congrArg Prod.snd hquery
    rw [queryCaps_eq] at hlater
    subst hlater
    exact hsole.record _

theorem input (h : j.Recycles pool id) {frame : Option Frame}
    (hframe : ∀ x, frame = some x → x.format.isHardware = true ∧ x.lease? = none) :
    (j.next (.input frame)).Recycles pool id := by
  obtain ⟨hpool, hsole, hframes⟩ := h.configure
  obtain ⟨w, hw, hcases⟩ := j.session.input_of_hardware fun x hx => (hframe x hx).1
  have hsession : (j.next (.input frame)).session = { j.session.configure with window := w } := hw
  refine ⟨?_, ?_, ?_, ?_⟩
  · rw [hsession]
    exact hpool
  · rw [hsession]
    exact hsole
  · rw [hsession]
    rcases hcases with ⟨-, rfl⟩ | ⟨x, hx, rfl⟩
    · exact hframes
    · intro y hy
      rcases List.mem_append.1 hy with hold | hnew
      · exact hframes y hold
      · rw [List.mem_singleton.1 hnew]
        exact (hframe x hx).2
  · have hticks : (j.next (.input frame)).ticks = j.ticks := List.append_nil _
    rw [hticks]
    exact h.shown

/-- An output that is given back at once, of which the window lets some frames go. -/
theorem of_take (h : j.Recycles pool id) {result : Except Error Frame}
    (hgave : Session.gave? j.session.output.1 = some result)
    (hpool : j.session.take.2.pool = some pool) (hsole : j.session.take.2.device.Sole pool id)
    (hframes : j.session.take.2.window.frames <:+ j.session.window.frames)
    (hresult : j.session.passesThrough = false → ∀ picture, result = .ok picture →
      picture.surfaceId = id) : (j.next .take).Recycles pool id := by
  obtain ⟨frame, -, hticks⟩ := ticks_next_take hgave
  refine ⟨hpool, hsole, fun x hx => h.unleased x (hframes.subset hx), ?_⟩
  rw [hticks]
  intro t ht hrendered picture hpicture
  rcases List.mem_append.1 ht with hold | hnew
  · exact h.shown t hold hrendered picture hpicture
  · cases List.mem_singleton.1 hnew
    refine hresult ?_ picture hpicture
    have hnot : (!j.session.passesThrough) = true := hrendered
    simpa using hnot

theorem take_passed (h : j.Recycles pool id) {frame : Frame}
    (hout : j.session.window.hasOutput = true)
    (hcur : j.session.window.current? = some frame) (hpass : j.session.passesThrough = true) :
    (j.next .take).Recycles pool id := by
  have hframe : frame.lease? = none := h.unleased frame (List.mem_of_getElem? hcur)
  have heq := Session.output_of_passed hout hcur hpass
  have hgave : Session.gave? j.session.output.1 = some (.ok frame) := by
    rw [heq]
    rfl
  have htake : j.session.take.2 = j.session.output.2.dropFrame frame := by
    simp only [Session.take, heq]
  have hdevice : j.session.take.2.device = j.session.device := by
    rw [htake, heq]
    show Device.releaseFrame frame ((j.session.shareFrame frame).setWindow _).device = _
    rw [Device.releaseFrame_of_unleased hframe,
      Session.setWindow_of_unleased (s := j.session.shareFrame frame) h.unleased]
    exact Device.retainFrame_of_unleased hframe _
  refine h.of_take hgave ?_ ?_ ?_ ?_
  · rw [htake, heq]
    exact h.pool_eq
  · rw [hdevice]
    exact h.sole
  · rw [htake, heq]
    exact Window.frames_advanceFrame_suffix _
  · intro hrendered
    rw [hpass] at hrendered
    cases hrendered

theorem take_rendered (h : j.Recycles pool id) {frame : Frame}
    (hout : j.session.window.hasOutput = true)
    (hcur : j.session.window.current? = some frame) (hpass : j.session.passesThrough = false) :
    (j.next .take).Recycles pool id := by
  rcases h.sole.render j.session.context j.session.chain j.session.window frame with
    ⟨e, later, hrender, hsole⟩ | ⟨picture, later, key, hrender, hid, hlease, hlent⟩ <;>
    rw [← h.pool_eq] at hrender <;>
    obtain ⟨stats, heq⟩ := Session.output_of_rendered hout hcur hpass hrender <;>
    rw [Session.setWindow_of_unleased (s := { j.session with device := later }) h.unleased] at heq
  · have hgave : Session.gave? j.session.output.1 = some (.error e) := by
      rw [heq]
      rfl
    have htake : j.session.take.2 = j.session.output.2 := by simp only [Session.take, heq]; rfl
    refine h.of_take hgave ?_ ?_ ?_ ?_
    · rw [htake, heq]
      exact h.pool_eq
    · rw [htake, heq]
      exact hsole
    · rw [htake, heq]
      exact Window.frames_advanceField_suffix _
    · exact fun _ picture hpicture => by cases hpicture
  · have hgave : Session.gave? j.session.output.1 = some (.ok picture) := by
      rw [heq]
      rfl
    have htake : j.session.take.2 = j.session.output.2.dropFrame picture := by
      simp only [Session.take, heq]
      rfl
    refine h.of_take hgave ?_ ?_ ?_ ?_
    · rw [htake, heq]
      exact h.pool_eq
    · rw [htake, heq]
      show (Device.releaseFrame picture later).Sole pool id
      simp only [Device.releaseFrame, hlease]
      exact hlent.release
    · rw [htake, heq]
      exact Window.frames_advanceField_suffix _
    · intro _ other hother
      cases hother
      exact hid

theorem take (h : j.Recycles pool id) : (j.next .take).Recycles pool id := by
  cases hout : j.session.window.hasOutput with
  | false =>
    rw [next_take_of_none hout]
    exact h
  | true =>
    obtain ⟨frame, hcur⟩ := Option.isSome_iff_exists.1 ((Bool.and_eq_true _ _).mp hout).1
    cases hpass : j.session.passesThrough with
    | true => exact h.take_passed hout hcur hpass
    | false => exact h.take_rendered hout hcur hpass

/-- **All pictures of a stream are on the same surface.** -/
theorem follow {s : Session Simulator} (hpool : s.pool = some pool)
    (hsole : s.device.Sole pool id) (hempty : s.window.frames = [])
    {calls : List (Session.Call Simulator)} (hcalls : ∀ c ∈ calls, c = .take ∨ ∃ frame,
      (∀ x, frame = some x → x.format.isHardware = true ∧ x.lease? = none) ∧ c = .input frame) :
    (s.follow calls).Recycles pool id := by
  refine List.foldlRecOn (motive := fun j : Journal Simulator => j.Recycles pool id) calls
    Journal.next ⟨hpool, hsole, ?_, ?_⟩ fun j hj c hc => ?_
  · rw [hempty]
    exact fun x hx => by cases hx
  · exact fun t ht => by cases ht
  · rcases hcalls c hc with rfl | ⟨frame, hframe, rfl⟩
    · exact hj.take
    · exact hj.input hframe

end Recycles

end Journal

end Deinterlace
