import Deinterlace.Proofs.Session.Journal

/-!
# What sessions uphold

A session uses its device in a disciplined way: it gives back what it has taken, it names only its
own filters, and it has at most one pool. `Device.Law` is a statement about a device that may depend
on the session's pool and on the shares in leases that are out. If every operation of the device
keeps a law when it is used in that way (`Device.Upholds`), then every call on a session does
(`Session.Obeys.perform`).
-/
namespace Deinterlace

/-! ## Shares in leases -/

/-- The share that a copy of a frame has in the lease of its surface. -/
structure Holding where
  lease : LeaseId
  surface : SurfaceId
deriving DecidableEq, Repr

def Surface.holding? (s : Surface) : Option Holding := s.lease.map fun lease => ⟨lease, s.id⟩

def Frame.holding? (f : Frame) : Option Holding := f.surface?.bind (·.holding?)

/-- The shares that go with frames. Frames that no pool owns have none. -/
def holdings (frames : List Frame) : List Holding := frames.filterMap (·.holding?)

@[simp] theorem holdings_append (frames more : List Frame) :
    holdings (frames ++ more) = holdings frames ++ holdings more :=
  List.filterMap_append

theorem holdings_cons (frame : Frame) (frames : List Frame) :
    holdings (frame :: frames) = frame.holding?.toList ++ holdings frames := by
  rw [holdings, List.filterMap_cons]
  cases frame.holding? <;> rfl

theorem Frame.lease?_eq (f : Frame) : f.lease? = f.holding?.map (·.lease) := by
  unfold lease? holding? Surface.holding?
  cases f.surface? with
  | none => rfl
  | some surface => cases hlease : surface.lease <;> simp [hlease]

/-! ## Laws -/

/-- The objects that a session makes on opening and keeps until it is closed. -/
structure Fixtures where
  config : ConfigId
  context : ContextId
  filters : List BufferId
deriving DecidableEq, Repr

/-- A statement about a device while a session has the pool `pool` and the shares `held` are out. -/
abbrev Device.Law (σ : Type) : Type := (pool : Option PoolId) → (held : List Holding) → σ → Prop

variable {σ : Type} [Device σ]

/-- Every operation keeps the law when it is used as a session with the fixtures `u` uses it. -/
structure Device.Upholds (u : Fixtures) (law : Device.Law σ) : Prop where
  perm {pool : Option PoolId} {held later : List Holding} {d : σ} : held.Perm later →
    law pool held d → law pool later d
  retain {pool : Option PoolId} {held : List Holding} {share : Holding} {d : σ} : share ∈ held →
    law pool held d → law pool (share :: held) (Device.retain share.lease d)
  release {pool : Option PoolId} {held : List Holding} {share : Holding} {d : σ} :
    law pool (share :: held) d → law pool held (Device.release share.lease d)
  queryCaps {pool : Option PoolId} {held : List Holding} {filters : List BufferId} {d : σ} :
    (∀ id ∈ filters, id ∈ u.filters) → law pool held d →
      law pool held (Device.queryCaps u.context filters d).2
  createPool {held : List Holding} (desc : PoolDesc) {d : σ} : law none held d →
    law (Device.createPool desc d).1.toOption held (Device.createPool desc d).2
  closePool {pool : PoolId} {held : List Holding} {d : σ} : law (some pool) held d →
    law none held (Device.closePool pool d)
  allocate {pool : PoolId} {held : List Holding} {d : σ} : law (some pool) held d →
    law (some pool) (((Device.allocate pool d).1.toOption.bind (·.holding?)).toList ++ held)
      (Device.allocate pool d).2
  upload {pool : PoolId} {held : List Holding} (target : Surface) (frame : Frame) {d : σ} :
    law (some pool) held d → law (some pool) held (Device.upload pool target frame d).2
  submit {pool : Option PoolId} {held : List Holding} {buffer : Option BufferId}
    (flags : DeintFlags) (request : RenderRequest) {d : σ} :
    (∀ id, buffer = some id → id ∈ u.filters) → law pool held d →
      law pool held (Rendering.submit u.context buffer flags request d).2

/-- What giving a share back keeps, giving a frame back keeps. -/
theorem Device.releaseFrame_induction {P : List Holding → σ → Prop}
    (hrelease : ∀ share held d, P (share :: held) d → P held (Device.release share.lease d))
    {frame : Frame} {frames : List Frame} {d : σ} (h : P (holdings (frame :: frames)) d) :
    P (holdings frames) (Device.releaseFrame frame d) := by
  unfold Device.releaseFrame
  rw [holdings_cons] at h
  rw [frame.lease?_eq]
  cases hholding : frame.holding? with
  | none =>
    rw [hholding] at h
    exact h
  | some share =>
    rw [hholding] at h
    exact hrelease share _ _ h

theorem Device.releaseFrames_induction {P : List Holding → σ → Prop}
    (hrelease : ∀ share held d, P (share :: held) d → P held (Device.release share.lease d))
    {gone frames : List Frame} {d : σ} (h : P (holdings (gone ++ frames)) d) :
    P (holdings frames) (Device.releaseFrames gone d) := by
  unfold Device.releaseFrames
  induction gone generalizing d with
  | nil => exact h
  | cons frame rest ih => exact ih (Device.releaseFrame_induction hrelease h)

theorem Device.upholds_const (u : Fixtures) (p : Prop) : Device.Upholds u fun _ _ (_ : σ) => p where
  perm _ h := h
  retain _ h := h
  release h := h
  queryCaps _ h := h
  createPool _ _ h := h
  closePool h := h
  allocate h := h
  upload _ _ _ h := h
  submit _ _ _ _ h := h

namespace Device.Upholds

variable {u : Fixtures} {law : Device.Law σ} {pool : Option PoolId} {frames : List Frame} {d : σ}

theorem permFrames (hlaw : Upholds u law) {later : List Frame} (hperm : frames.Perm later)
    (h : law pool (holdings frames) d) : law pool (holdings later) d :=
  hlaw.perm (hperm.filterMap _) h

theorem retainFrame (hlaw : Upholds u law) {frame : Frame} (hframe : frame ∈ frames)
    (h : law pool (holdings frames) d) :
    law pool (holdings (frame :: frames)) (Device.retainFrame frame d) := by
  unfold Device.retainFrame
  rw [frame.lease?_eq, holdings_cons]
  cases hholding : frame.holding? with
  | none => exact h
  | some share => exact hlaw.retain (List.mem_filterMap.2 ⟨frame, hframe, hholding⟩) h

theorem releaseFrame (hlaw : Upholds u law) {frame : Frame}
    (h : law pool (holdings (frame :: frames)) d) :
    law pool (holdings frames) (Device.releaseFrame frame d) :=
  Device.releaseFrame_induction (fun _ _ _ => hlaw.release) h

theorem releaseFrames (hlaw : Upholds u law) {gone : List Frame}
    (h : law pool (holdings (gone ++ frames)) d) :
    law pool (holdings frames) (Device.releaseFrames gone d) :=
  Device.releaseFrames_induction (fun _ _ _ => hlaw.release) h

theorem releaseSurface (hlaw : Upholds u law) {surface : Surface} {held : List Holding}
    (h : law pool (surface.holding?.toList ++ held) d) :
    law pool held (Device.releaseSurface surface d) := by
  unfold Device.releaseSurface
  cases hlease : surface.lease with
  | none =>
    rw [Surface.holding?, hlease] at h
    exact h
  | some key =>
    rw [Surface.holding?, hlease] at h
    exact hlaw.release h

theorem allocate_eq (hlaw : Upholds u law) {p : PoolId} {held : List Holding}
    {result : Except DeviceError Surface} {lent : σ} (h : law (some p) held d)
    (hallocate : Device.allocate p d = (result, lent)) :
    law (some p) ((result.toOption.bind (·.holding?)).toList ++ held) lent := by
  have htaken := hlaw.allocate h
  rw [hallocate] at htaken
  exact htaken

/-- Rendering takes a surface, and gives it back unless there is a picture on it. -/
theorem render (hlaw : Upholds u law) {c : Chain} (w : Window) (current : Frame)
    (hbuffer : ∀ id, c.deinterlaceBuffer? = some id → id ∈ u.filters)
    (h : law pool (holdings frames) d) :
    law pool
      (holdings ((Rendering.render u.context c w pool current d).1.toOption.toList ++ frames))
      (Rendering.render u.context c w pool current d).2 := by
  have hsubmitted : ∀ {p target lent result later}, pool = some p →
      Device.allocate p d = (.ok target, lent) →
      Rendering.submit u.context c.deinterlaceBuffer?
        (.ofField (Rendering.fieldOf w) w.topFieldFirst)
        (Rendering.buildRequest c w current target.id) lent = (result, later) →
      law pool (target.holding?.toList ++ holdings frames) later := by
    rintro p target lent result later rfl hallocate hsubmit
    have hdone := hlaw.submit (.ofField (Rendering.fieldOf w) w.topFieldFirst)
      (Rendering.buildRequest c w current target.id) hbuffer (hlaw.allocate_eq h hallocate)
    rw [hsubmit] at hdone
    exact hdone
  rcases Rendering.render_cases u.context c w pool current d with ⟨e, heq⟩ |
    ⟨p, e, later, hpool, hallocate, heq⟩ | ⟨p, target, lent, e, hpool, hallocate, heq⟩ |
    ⟨p, target, lent, e, later, hpool, hallocate, hsubmit, heq⟩ |
    ⟨p, target, lent, later, hpool, hallocate, hsubmit, heq⟩ <;> rw [heq]
  · exact h
  · subst hpool
    exact hlaw.allocate_eq h hallocate
  · subst hpool
    exact hlaw.releaseSurface (hlaw.allocate_eq h hallocate)
  · exact hlaw.releaseSurface (hsubmitted hpool hallocate hsubmit)
  · show law pool (holdings (Rendering.pictureOf w current target :: frames)) later
    rw [holdings_cons]
    exact hsubmitted hpool hallocate hsubmit

/-- An upload takes a surface, and gives it back unless the frame has been copied onto it. -/
theorem uploadFrame (hlaw : Upholds u law) (frame : Frame) (h : law pool (holdings frames) d) :
    law pool (holdings ((Session.upload pool frame d).1.toOption.toList ++ frames))
      (Session.upload pool frame d).2 := by
  rcases Session.upload_cases pool frame d with ⟨e, heq⟩ | ⟨p, e, later, rfl, hallocate, heq⟩ |
    ⟨p, surface, lent, e, later, rfl, hallocate, hupload, heq⟩ |
    ⟨p, surface, lent, later, rfl, hallocate, hupload, heq⟩ <;> rw [heq]
  · exact h
  · exact hlaw.allocate_eq h hallocate
  all_goals
    have hcopied := hlaw.upload surface frame (hlaw.allocate_eq h hallocate)
    rw [hupload] at hcopied
  · exact hlaw.releaseSurface hcopied
  · show law (some p) (holdings (_ :: frames)) later
    rw [holdings_cons]
    exact hcopied

end Device.Upholds

/-! ## Frames that a window lets go of -/

namespace Window

variable {w later : Window}

theorem frames_trim_suffix (w : Window) : w.trim.frames <:+ w.frames := List.drop_suffix _ _

theorem frames_advanceFrame_suffix (w : Window) : w.advanceFrame.frames <:+ w.frames := by
  unfold advanceFrame
  split
  · exact List.suffix_refl _
  · exact frames_trim_suffix _

theorem frames_advanceField_suffix (w : Window) : w.advanceField.frames <:+ w.frames := by
  unfold advanceField
  split
  · exact List.suffix_refl _
  · split
    · exact List.suffix_refl _
    · exact w.frames_advanceFrame_suffix

theorem retired_append (h : later.frames <:+ w.frames) :
    w.retired later ++ later.frames = w.frames := by
  obtain ⟨gone, hgone⟩ := h
  have hlength : w.frames.length - later.frames.length = gone.length := by
    rw [← hgone, List.length_append]
    omega
  rw [retired, hlength, ← hgone, List.take_left]

end Window

theorem Chain.frames_configure_suffix (c : Chain) (context : ContextId) (on : Bool) (w : Window)
    (d : σ) : (c.configure context on w d).2.1.frames <:+ w.frames := by
  rcases c.configure_cases context on w d with ⟨-, heq⟩ | ⟨-, later, -, heq⟩ |
    ⟨-, -, caps, later, -, heq⟩
  · have hsame : (c.configure context on w d).2.1.frames = w.frames := congrArg (·.2.1.frames) heq
    exact ⟨[], hsame⟩
  all_goals
    rw [heq]
    exact Window.frames_trim_suffix _

/-! ## Sessions -/

namespace Session

def fixtures (s : Session σ) : Fixtures :=
  ⟨s.config, s.context, s.chain.descriptors.map (·.buffer)⟩

/-- The law holds of the device of a session, when the shares that are out are those of the window
and of the frames `frames` of the caller. -/
structure Obeys (u : Fixtures) (law : Device.Law σ) (s : Session σ) (frames : List Frame) :
    Prop where
  fixtures_eq : s.fixtures = u
  holds : law s.pool (holdings (s.window.frames ++ frames)) s.device

def gained? (s : Session σ) : Call σ → Option Frame
  | .output => s.output.1.toOption.join
  | _ => none

end Session

theorem Chain.mem_of_filtersFor {c : Chain} {on : Bool} {id : BufferId}
    (h : id ∈ c.filtersFor on) : id ∈ c.descriptors.map (·.buffer) := by
  obtain ⟨d, hd, rfl⟩ := List.mem_map.1 h
  exact List.mem_map.2 ⟨d, (List.mem_filter.1 hd).1, rfl⟩

theorem Chain.mem_of_deinterlaceBuffer? {c : Chain} {id : BufferId}
    (h : c.deinterlaceBuffer? = some id) : id ∈ c.descriptors.map (·.buffer) := by
  obtain ⟨d, hd, rfl⟩ := Option.map_eq_some_iff.1 h
  exact List.mem_map.2 ⟨d, List.mem_of_find?_eq_some hd, rfl⟩

namespace Session.Obeys

variable {u : Fixtures} {law : Device.Law σ} {s : Session σ} {frames : List Frame}

theorem setWindow (hlaw : Device.Upholds u law) (h : s.Obeys u law frames) {later : Window}
    (hsuffix : later.frames <:+ s.window.frames) : (s.setWindow later).Obeys u law frames where
  fixtures_eq := h.fixtures_eq
  holds := by
    refine hlaw.releaseFrames ?_
    rw [← List.append_assoc]
    show law s.pool (holdings (s.window.retired later ++ later.frames ++ frames)) s.device
    rw [Window.retired_append hsuffix]
    exact h.holds

theorem seek (hlaw : Device.Upholds u law) (h : s.Obeys u law frames) :
    s.seek.Obeys u law frames :=
  h.setWindow hlaw List.nil_suffix

theorem configure (hlaw : Device.Upholds u law) (h : s.Obeys u law frames) :
    s.configure.Obeys u law frames := by
  have hask : ∀ {answer later},
      Device.queryCaps s.context (s.chain.keyFor s.deinterlacing).filters s.device =
        (answer, later) → law s.pool (holdings (s.window.frames ++ frames)) later := by
    intro answer later hquery
    have hu := h.fixtures_eq
    subst hu
    have hnames : ∀ id ∈ (s.chain.keyFor s.deinterlacing).filters, id ∈ s.fixtures.filters :=
      fun _ => Chain.mem_of_filtersFor
    have hasked := hlaw.queryCaps hnames h.holds
    have hcontext : s.fixtures.context = s.context := rfl
    rw [hcontext] at hasked
    rw [hquery] at hasked
    exact hasked
  -- what the negotiation leaves behind, before the window is exchanged
  have hdevice : law s.pool (holdings (s.window.frames ++ frames))
      (s.chain.configure s.context s.deinterlacing s.window s.device).2.2 ∧
      (s.chain.configure s.context s.deinterlacing s.window s.device).1.descriptors =
        s.chain.descriptors := by
    rcases Chain.configure_cases s.chain s.context s.deinterlacing s.window s.device with
      ⟨-, heq⟩ | ⟨-, later, ⟨-, hsame⟩ | ⟨e, hquery⟩, heq⟩ | ⟨-, -, caps, later, hquery, heq⟩ <;>
      rw [heq]
    · exact ⟨h.holds, rfl⟩
    · exact ⟨hsame ▸ h.holds, rfl⟩
    · exact ⟨hask hquery, rfl⟩
    · exact ⟨hask hquery, rfl⟩
  rw [configure_eq]
  refine setWindow hlaw ⟨?_, hdevice.1⟩ (Chain.frames_configure_suffix _ _ _ _ _)
  show (⟨s.config, s.context, List.map _ _⟩ : Fixtures) = u
  rw [hdevice.2]
  exact h.fixtures_eq

/-- An input takes the shares of the frame over. -/
theorem input (hlaw : Device.Upholds u law) {frame : Option Frame}
    (h : s.Obeys u law (frame.toList ++ frames)) : (s.input frame).2.Obeys u law frames := by
  have hconf := h.configure hlaw
  unfold Session.input
  cases frame with
  | none => exact ⟨hconf.fixtures_eq, hconf.holds⟩
  | some frame =>
    dsimp only
    split
    · refine ⟨hconf.fixtures_eq, ?_⟩
      show law _ (holdings (s.configure.window.frames ++ [frame] ++ frames)) _
      rw [List.append_assoc]
      exact hconf.holds
    · have hup := hlaw.uploadFrame frame (hlaw.permFrames List.perm_middle hconf.holds)
      rcases hupload : Session.upload s.configure.pool frame s.configure.device with
        ⟨e | uploaded, device⟩ <;> rw [hupload] at hup
      · exact ⟨hconf.fixtures_eq, hlaw.releaseFrame hup⟩
      · refine ⟨hconf.fixtures_eq, hlaw.releaseFrame (hlaw.permFrames ?_ hup)⟩
        show (uploaded :: frame :: (s.configure.window.frames ++ frames)).Perm
          (frame :: (s.configure.window.frames ++ [uploaded] ++ frames))
        rw [List.append_assoc]
        exact (List.Perm.swap frame uploaded _).trans (List.perm_middle.symm.cons frame)

/-- An output hands a share over to the caller with the picture. -/
theorem output (hlaw : Device.Upholds u law) (h : s.Obeys u law frames) :
    s.output.2.Obeys u law (s.output.1.toOption.join.toList ++ frames) := by
  rcases s.output_cases with ⟨-, heq⟩ | ⟨frame, -, hcur, -, heq⟩ |
    ⟨frame, picture, device, stats, -, -, -, hrender, heq⟩
  · rw [heq]
    exact h
  · rw [heq]
    have hmem : frame ∈ s.window.frames ++ frames :=
      List.mem_append_left _ (List.mem_of_getElem? hcur)
    have hshared : (s.shareFrame frame).Obeys u law (frame :: frames) :=
      ⟨h.fixtures_eq, hlaw.permFrames List.perm_middle.symm (hlaw.retainFrame hmem h.holds)⟩
    have hmoved := hshared.setWindow hlaw s.window.frames_advanceFrame_suffix
    exact ⟨hmoved.fixtures_eq, hmoved.holds⟩
  · have hdone : law s.pool (holdings (picture.toOption.toList ++ (s.window.frames ++ frames)))
        device := by
      have hu := h.fixtures_eq
      subst hu
      have hrendered := hlaw.render s.window frame
        (fun _ => Chain.mem_of_deinterlaceBuffer?) h.holds
      have hcontext : s.fixtures.context = s.context := rfl
      rw [hcontext, hrender] at hrendered
      exact hrendered
    have hlater : ({ s with device }).Obeys u law (picture.toOption.toList ++ frames) := by
      refine ⟨h.fixtures_eq, hlaw.permFrames ?_ hdone⟩
      rw [← List.append_assoc, ← List.append_assoc]
      exact List.perm_append_comm.append_right frames
    have hmoved := hlater.setWindow hlaw s.window.frames_advanceField_suffix
    have hgiven : (picture.map some).toOption.join = picture.toOption := by cases picture <;> rfl
    rw [heq]
    show Obeys u law _ ((picture.map some).toOption.join.toList ++ frames)
    rw [hgiven]
    exact ⟨hmoved.fixtures_eq, hmoved.holds⟩

theorem dropFrame (hlaw : Device.Upholds u law) {frame : Frame}
    (h : s.Obeys u law (frame :: frames)) : (s.dropFrame frame).Obeys u law frames :=
  ⟨h.fixtures_eq, hlaw.releaseFrame (hlaw.permFrames List.perm_middle h.holds)⟩

theorem shareFrame (hlaw : Device.Upholds u law) {frame : Frame} (hframe : frame ∈ frames)
    (h : s.Obeys u law frames) : (s.shareFrame frame).Obeys u law (frame :: frames) :=
  ⟨h.fixtures_eq, hlaw.permFrames List.perm_middle.symm
    (hlaw.retainFrame (List.mem_append_right _ hframe) h.holds)⟩

theorem closePool (hlaw : Device.Upholds u law) (h : s.Obeys u law frames) :
    s.closePool.Obeys u law frames ∧ s.closePool.pool = none := by
  unfold Session.closePool
  cases hpool : s.pool with
  | none => exact ⟨h, hpool⟩
  | some pool =>
    have hopen := h.holds
    rw [hpool] at hopen
    exact ⟨⟨h.fixtures_eq, hlaw.closePool hopen⟩, rfl⟩

theorem forget (hlaw : Device.Upholds u law) (h : s.Obeys u law frames) :
    s.forget.Obeys u law frames ∧ s.forget.pool = none := by
  have hflushed : (s.setWindow s.window.flush).Obeys u law frames :=
    h.setWindow hlaw List.nil_suffix
  obtain ⟨hclosed, hnone⟩ := hflushed.closePool hlaw
  exact ⟨⟨hclosed.fixtures_eq, hclosed.holds⟩, hnone⟩

theorem reconfigure (hlaw : Device.Upholds u law) (h : s.Obeys u law frames)
    (params : StreamParams) : (s.reconfigure params).2.Obeys u law frames := by
  obtain ⟨hforget, hnone⟩ := h.forget hlaw
  unfold Session.reconfigure
  dsimp only
  split
  · exact hforget
  · rename_i desc _
    have hclosed := hforget.holds
    rw [hnone] at hclosed
    have hmade := hlaw.createPool desc hclosed
    rcases hpool : Device.createPool desc s.forget.device with ⟨e | pool, device⟩ <;>
      rw [hpool] at hmade
    · refine ⟨hforget.fixtures_eq, ?_⟩
      show law s.forget.pool _ device
      rw [hnone]
      exact hmade
    · exact ⟨hforget.fixtures_eq, hmade⟩

/-- **Every call on a session keeps a law that its device upholds.** An input takes the shares of
its frame over from the caller, and an output leaves those of its picture with the caller. -/
theorem perform (hlaw : Device.Upholds u law) {call : Call σ}
    (halter : ∀ change, call = .alter change → ∀ pool held d, law pool held d →
      law pool held (change d))
    (h : s.Obeys u law (call.given?.toList ++ frames)) :
    (s.perform call).Obeys u law ((s.gained? call).toList ++ frames) := by
  cases call with
  | input frame => exact h.input hlaw
  | output => exact h.output hlaw
  | take =>
    have hout : s.output.2.Obeys u law (s.output.1.toOption.join.toList ++ frames) :=
      Obeys.output hlaw h
    show s.take.2.Obeys u law frames
    unfold Session.take
    rcases hres : s.output with ⟨e | _ | picture, later⟩ <;> rw [hres] at hout
    · exact hout
    · exact hout
    · exact hout.dropFrame hlaw
  | seek => exact h.seek hlaw
  | switch on =>
    show (s.setDeinterlacing on).2.Obeys u law frames
    unfold Session.setDeinterlacing
    split
    · exact ⟨h.fixtures_eq, h.holds⟩
    · exact h
  | reconfigure params => exact h.reconfigure hlaw params
  | alter change => exact ⟨h.fixtures_eq, halter change rfl _ _ _ h.holds⟩

end Session.Obeys

end Deinterlace
