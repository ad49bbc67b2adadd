import Deinterlace.Proofs.Session.Draining
import Deinterlace.Proofs.Simulator.Outputs
import Mathlib.Data.List.Induction

/-!
# Whole runs on a simulated device

A stream that goes through a session on a simulated device comes out as `Reel.emissions` says, and
the device is asked for just that, whenever the outputs are taken (`Session.emissions_of_run`). The
invariant is `Underway`: the window holds all earlier frames that its depth allows, what has been
taken in is the beginning of the stream, and what has come out are the emissions up to the frame and
the field that the window stands on.
-/
namespace Deinterlace

open Simulator

/-! ## A stream on its way -/

/-- The frames of a stream are on valid surfaces of the device, and those that come from a pool
come from one that was there before the session's. -/
def Reel.Playable (r : Reel) (u : Setup) : Prop :=
  ∀ x ∈ r.frames, x.format.isHardware = true ∧ x.surfaceId.isValid = true ∧ Ready.Earlier u x

/-- A stream on its way through a session, with the first `passed` frames done. `before` are the
submissions from before the session and `rendered` all of them, latest first. -/
structure Underway (r : Reel) (u : Setup) (before : List Submission) (j : Journal Simulator)
    (passed : Nat) (rendered : List Submission) : Prop where
  tuned : j.session.Tuned r u rendered
  stands : j.session.window.StandsAt j.accepted passed
  full : j.session.window.Full passed
  begins : j.accepted <+: r.frames
  ended : j.session.window.ended = true → j.accepted = r.frames
  unset : j.session.chain.last = none → j.accepted = []
  second : j.session.window.secondField = true → r.options.mode.doublesFields = true ∧
    ∀ frame, r.frames[passed]? = some frame →
      (r.options.mode.isEnabled && r.options.treats frame) = true
  shown : List.Forall₂ (Emission.Shows u.desc)
    (r.emissionsUntil passed j.session.window.secondField) (j.ticks.map (·.result))
  submitted : rendered.reverse.map (·.untargeted) = before.reverse.map (·.untargeted) ++
    (r.emissionsUntil passed j.session.window.secondField).filterMap (·.submission?)

namespace Underway

variable {r : Reel} {u : Setup} {before rendered : List Submission} {j : Journal Simulator}
  {passed : Nat}

theorem mem_frames (h : Underway r u before j passed rendered) {x : Frame} (hx : x ∈ j.accepted) :
    x ∈ r.frames :=
  h.begins.subset hx

theorem earlier (h : Underway r u before j passed rendered) (hplay : r.Playable u) :
    ∀ x ∈ j.session.window.frames, Ready.Earlier u x := by
  intro x hx
  rw [h.stands.frames_eq] at hx
  exact (hplay x (h.mem_frames (List.mem_of_mem_drop hx))).2.2

theorem frame_eq (h : Underway r u before j passed rendered) {frame : Frame}
    (hcur : j.session.window.current? = some frame) : r.frames[passed]? = some frame := by
  rw [h.stands.current?_eq] at hcur
  obtain ⟨rest, hrest⟩ := h.begins
  rw [← hrest, List.getElem?_append_left (List.getElem?_eq_some_iff.1 hcur).1]
  exact hcur

/-- An output that gives one more emission. -/
theorem of_take (h : Underway r u before j passed rendered) {picture : Frame}
    {rendered' : List Submission} {passed' : Nat} {e : Emission}
    (hgave : j.session.output.1 = .ok (some picture)) (hshows : e.Shows u.desc (.ok picture))
    (htuned : j.session.take.2.Tuned r u rendered')
    (hsubmitted : rendered'.reverse.map (·.untargeted) =
      rendered.reverse.map (·.untargeted) ++ e.submission?.toList)
    (hstand : j.session.take.2.window.StandsAt j.accepted passed')
    (hfull : j.session.take.2.window.Full passed')
    (hended : j.session.take.2.window.ended = j.session.window.ended)
    (hsecond : j.session.take.2.window.secondField = true → r.options.mode.doublesFields = true ∧
      ∀ frame, r.frames[passed']? = some frame →
        (r.options.mode.isEnabled && r.options.treats frame) = true)
    (hemitted : r.emissionsUntil passed' j.session.take.2.window.secondField =
      r.emissionsUntil passed j.session.window.secondField ++ [e]) :
    Underway r u before (j.next .take) passed' rendered' := by
  have haccepted : (j.next .take).accepted = j.accepted := List.append_nil _
  have hsession : (j.next .take).session = j.session.take.2 := rfl
  have hchain : (j.session.perform .take).chain = j.session.chain :=
    j.session.chain_perform rfl (by simp)
  refine ⟨htuned, ?_, hfull, ?_, ?_, ?_, hsecond, ?_, ?_⟩
  · rwa [haccepted]
  · rw [haccepted]
    exact h.begins
  · rw [haccepted, hsession, hended]
    exact h.ended
  · rw [haccepted]
    show (j.session.perform .take).chain.last = none → _
    rw [hchain]
    exact h.unset
  · have hout : Session.gave? j.session.output.1 = some (.ok picture) := by
      rw [hgave]
      rfl
    rw [hsession, hemitted, Journal.results_next_take hout]
    exact List.rel_append h.shown (.cons hshows .nil)
  · rw [hsession, hemitted, hsubmitted, h.submitted, List.filterMap_append, List.append_assoc]
    cases hsub : e.submission? <;> simp [hsub]

theorem take_passed (h : Underway r u before j passed rendered) (hplay : r.Playable u)
    (hout : j.session.window.hasOutput = true) (hpass : j.session.passesThrough = true) :
    Underway r u before (j.next .take) (passed + 1) rendered := by
  have hlt := h.stands.lt_of_hasOutput hout
  have hsome := h.stands.current?_isSome.2 hlt
  obtain ⟨frame, hcur⟩ := Option.isSome_iff_exists.1 hsome
  have hframe := h.frame_eq hcur
  obtain ⟨hgave, hwindow, htuned⟩ := h.tuned.take_passed (h.earlier hplay) hout hcur hpass
  have htreats : (r.options.mode.isEnabled && r.options.treats frame) = false := by
    rwa [h.tuned.passesThrough_eq hout hcur, Bool.not_eq_true'] at hpass
  have hsecond : j.session.window.secondField = false := by
    cases hs : j.session.window.secondField with
    | false => rfl
    | true =>
      rw [(h.second hs).2 frame hframe] at htreats
      cases htreats
  have hlater := Window.secondField_advanceFrame hsome
  refine h.of_take (e := .whole frame) hgave rfl htuned (by simp [Emission.submission?]) ?_ ?_
    ?_ ?_ ?_ <;> rw [hwindow]
  · exact h.stands.advanceFrame hlt
  · exact h.full.advanceFrame hsome
  · exact Window.ended_advanceFrame _
  · intro hs
    rw [hlater] at hs
    cases hs
  · rw [hlater, hsecond]
    exact Reel.emissionsUntil_whole hframe htreats

theorem take_rendered (h : Underway r u before j passed rendered) (hplay : r.Playable u)
    (hout : j.session.window.hasOutput = true) (hpass : j.session.passesThrough = false) :
    ∃ passed rendered, Underway r u before (j.next .take) passed rendered := by
  have hlt := h.stands.lt_of_hasOutput hout
  have hsome := h.stands.current?_isSome.2 hlt
  obtain ⟨frame, hcur⟩ := Option.isSome_iff_exists.1 hsome
  have hframe := h.frame_eq hcur
  have htreats : (r.options.mode.isEnabled && r.options.treats frame) = true := by
    rwa [h.tuned.passesThrough_eq hout hcur, Bool.not_eq_false'] at hpass
  have hvalid : ∀ x ∈ j.accepted, x.surfaceId.isValid = true :=
    fun x hx => (hplay x (h.mem_frames hx)).2.1
  obtain ⟨picture, submission, hgave, hshows, hsubmission, hwindow, htuned⟩ :=
    h.tuned.take_rendered (h.earlier hplay) h.stands h.full hvalid h.begins h.ended hcur
      hpass
  have hlater := Window.secondField_advanceField hsome
  -- the mode decides whether the second field comes next
  have hforce := h.tuned.filtering hpass
  have hnext : j.session.window.hasSecondField =
      (!j.session.window.secondField && r.options.mode.doublesFields) := by
    simp [Window.hasSecondField, hforce.should, hforce.mode, Chain.windowMode]
  refine ⟨if j.session.window.hasSecondField then passed else passed + 1, submission :: rendered,
    h.of_take hgave hshows htuned ?_ ?_ ?_ ?_ ?_ ?_⟩
  · simp [hsubmission]
  · rw [hwindow]
    exact h.stands.advanceField hlt
  · rw [hwindow]
    exact h.full.advanceField hsome
  · rw [hwindow]
    exact Window.ended_advanceField _
  · intro hs
    rw [hwindow, hlater] at hs
    rw [if_pos hs]
    rw [hnext, Bool.and_eq_true] at hs
    refine ⟨hs.2, fun given hgiven => ?_⟩
    rw [hframe] at hgiven
    cases hgiven
    exact htreats
  · rw [hwindow, hlater, hnext]
    exact Reel.emissionsUntil_picture hframe htreats fun hs => (h.second hs).1

theorem take (h : Underway r u before j passed rendered) (hplay : r.Playable u) :
    ∃ passed rendered, Underway r u before (j.next .take) passed rendered := by
  cases hout : j.session.window.hasOutput with
  | false =>
    rw [Journal.next_take_of_none hout]
    exact ⟨passed, rendered, h⟩
  | true =>
    cases hpass : j.session.passesThrough with
    | true => exact ⟨passed + 1, rendered, h.take_passed hplay hout hpass⟩
    | false => exact h.take_rendered hplay hout hpass

theorem full_configure (h : Underway r u before j passed rendered) :
    j.session.configure.window.Full passed := by
  rcases h.tuned.last with hlast | hlast
  · have haccepted := h.unset hlast
    have hpassed := h.stands.passed_le
    rw [haccepted, List.length_nil, Nat.le_zero] at hpassed
    subst hpassed
    exact .of_zero (Session.standsAt_configure h.stands)
  · rw [Session.configure_of_last hlast]
    exact h.full

/-- The next frame, or the end after the last one. -/
theorem input (h : Underway r u before j passed rendered) (hplay : r.Playable u)
    {frame : Option Frame} (hbegins : j.accepted ++ frame.toList <+: r.frames)
    (hend : frame = none → j.accepted = r.frames) :
    Underway r u before (j.next (.input frame)) passed rendered := by
  obtain ⟨htuned, hlast⟩ := h.tuned.configure (h.earlier hplay)
  have hagrees := h.tuned.agrees.perform (.input frame)
  have hstand := Session.standsAt_input h.stands frame
  have hsecond := j.session.secondField_input frame
  have hhard : ∀ x, frame = some x → x.format.isHardware = true := by
    rintro x rfl
    exact (hplay x (hbegins.subset (by simp))).1
  have htaken : j.session.taken? (.input frame) = frame := by
    cases frame with
    | none => rfl
    | some x => exact j.session.taken?_of_hardware (hhard x rfl)
  have hticks : (j.next (.input frame)).ticks = j.ticks := List.append_nil _
  have haccepted : (j.next (.input frame)).accepted = j.accepted ++ frame.toList := by
    show j.accepted ++ (j.session.taken? (.input frame)).toList = _
    rw [htaken]
  have hsession : (j.next (.input frame)).session = (j.session.input frame).2 := rfl
  obtain ⟨w, hw, hcases⟩ := j.session.input_of_hardware hhard
  have hfull : w.Full passed := by
    rcases hcases with ⟨-, rfl⟩ | ⟨x, -, rfl⟩
    · exact h.full_configure
    · exact h.full_configure
  have hended : w.ended = true → frame = none := by
    rcases hcases with ⟨hnone, -⟩ | ⟨x, -, rfl⟩
    · exact fun _ => hnone
    · exact fun hended => by cases hended
  refine ⟨?_, ?_, ?_, ?_, ?_, ?_, ?_, ?_, ?_⟩
  · rw [Session.perform, hw] at hagrees
    rw [hsession, hw]
    exact htuned.congr rfl rfl rfl hagrees htuned.ready
  · exact hstand
  · rw [hsession, hw]
    exact hfull
  · rw [haccepted]
    exact hbegins
  · rw [hsession, hw, haccepted]
    intro hdone
    have hnone := hended hdone
    rw [hnone, Option.toList_none, List.append_nil]
    exact hend hnone
  · rw [hsession, hw]
    intro hnone
    rw [hlast] at hnone
    cases hnone
  · rw [hsession, hsecond]
    exact h.second
  · rw [hsession, hsecond, hticks]
    exact h.shown
  · rw [hsession, hsecond]
    exact h.submitted

theorem start {o : Options} {s : Session Simulator} {rendered : List Submission}
    (hsetUp : s.SetUp o u rendered) (hagrees : s.Agrees) (hlast : s.chain.last = none)
    (hwindow : ∃ w : Window, s.window = w.flush) (frames : List Frame) :
    Underway ⟨o, u.caps, u.filters, frames⟩ u rendered { session := s } 0 rendered := by
  obtain ⟨w, hw⟩ := hwindow
  have hstand : s.window.StandsAt [] 0 := hw ▸ .flush w
  have hsecond : s.window.secondField = false := by rw [hw]; rfl
  have hnone : (Reel.mk o u.caps u.filters frames).emissionsUntil 0 s.window.secondField = [] := by
    rw [hsecond]
    rfl
  refine ⟨⟨hsetUp, hagrees, rfl, rfl, .inl hlast, fun hne => absurd hlast hne, ?_⟩, hstand,
    .of_zero hstand, List.nil_prefix, ?_, fun _ => rfl, ?_, ?_, ?_⟩
  · intro caps hcaps
    rw [(hagrees.unset hlast).2] at hcaps
    cases hcaps
  · intro hended
    rw [hw] at hended
    cases hended
  · intro hs
    rw [hsecond] at hs
    cases hs
  · rw [hnone]
    exact .nil
  · rw [hnone, List.filterMap_nil, List.append_nil]

theorem accepted_follow (hplay : r.Playable u) (s : Session Simulator)
    {calls : List (Session.Call Simulator)} (hgiven : calls.filterMap (·.given?) ⊆ r.frames) :
    (s.follow calls).accepted = calls.filterMap (·.given?) := by
  refine Journal.accepted_foldl { session := s } fun frame hframe => ?_
  have hmem : frame ∈ calls.filterMap (·.given?) := List.mem_filterMap.2 ⟨_, hframe, rfl⟩
  exact (hplay frame (hgiven hmem)).1

theorem follow {s : Session Simulator}
    (h : Underway r u before { session := s } 0 rendered) (hplay : r.Playable u)
    {calls : List (Session.Call Simulator)}
    (hcalls : ∀ c ∈ calls, c = .take ∨ ∃ x, c = .input (some x))
    (hgiven : calls.filterMap (·.given?) <+: r.frames) :
    ∃ passed rendered, Underway r u before (s.follow calls) passed rendered := by
  induction calls using List.reverseRecOn with
  | nil => exact ⟨0, rendered, h⟩
  | append_singleton calls call ih =>
    rw [List.filterMap_append] at hgiven
    obtain ⟨passed, rendered, hrun⟩ := ih (fun c hc => hcalls c (by simp [hc]))
      ((List.prefix_append _ _).trans hgiven)
    have hnext : s.follow (calls ++ [call]) = (s.follow calls).next call := by
      simp [Session.follow]
    rw [hnext]
    rcases hcalls call (by simp) with rfl | ⟨x, rfl⟩
    · exact hrun.take hplay
    · refine ⟨passed, rendered, hrun.input hplay ?_ (fun hnone => by cases hnone)⟩
      rw [accepted_follow hplay s ((List.prefix_append _ _).trans hgiven).subset]
      exact hgiven

end Underway

/-! ## Whole runs -/

/-- The calls, then the end of the stream, then outputs. -/
def Session.followToEnd (s : Session Simulator) (calls : List (Session.Call Simulator))
    (limit : Nat) : Journal Simulator :=
  s.follow (calls ++ .input none :: List.replicate limit .take)

namespace Underway

variable {r : Reel} {u : Setup} {before rendered : List Submission} {s : Session Simulator}
  {calls : List (Session.Call Simulator)}

theorem followToEnd (h : Underway r u before { session := s } 0 rendered) (hplay : r.Playable u)
    (hcalls : ∀ c ∈ calls, c = .take ∨ ∃ x, c = .input (some x))
    (hgiven : calls.filterMap (·.given?) = r.frames) (limit : Nat) :
    (s.followToEnd calls limit).session.window.ended = true ∧
      ∃ passed rendered, Underway r u before (s.followToEnd calls limit) passed rendered := by
  obtain ⟨passed, rendered, hrun⟩ := h.follow hplay hcalls (hgiven ▸ List.prefix_rfl)
  have haccepted : (s.follow calls).accepted = r.frames :=
    (accepted_follow hplay s (hgiven ▸ List.Subset.refl _)).trans hgiven
  have hlast : Underway r u before ((s.follow calls).next (.input none)) passed rendered :=
    hrun.input hplay (by simp [haccepted]) fun _ => haccepted
  rw [Session.followToEnd, Session.follow, List.foldl_append, List.foldl_cons]
  refine List.foldlRecOn (motive := fun k : Journal Simulator => k.session.window.ended = true ∧
    ∃ passed rendered, Underway r u before k passed rendered) _ Journal.next
    ⟨rfl, passed, rendered, hlast⟩ fun k hk call hcall => ?_
  obtain ⟨hended, passed, rendered, hk⟩ := hk
  rw [List.eq_of_mem_replicate hcall]
  exact ⟨Journal.ended_next hended rfl (by simp), hk.take hplay⟩

/-- No emission is left when the end of the stream has been given and there is no further output. -/
theorem emissionsUntil_eq {j : Journal Simulator} {passed : Nat}
    (h : Underway r u before j passed rendered) (hended : j.session.window.ended = true)
    (hout : j.session.window.hasOutput = false) :
    r.emissionsUntil passed j.session.window.secondField = r.emissions := by
  have hpassed := h.stands.passed_eq_length hended hout
  have hsecond : j.session.window.secondField = false := by
    cases hs : j.session.window.secondField with
    | false => rfl
    | true =>
      have hlt := h.stands.second_lt hs
      omega
  rw [hsecond, hpassed, h.ended hended]
  exact r.emissionsUntil_length

/-- Two outputs for each frame leave nothing to output. -/
theorem hasOutput_followToEnd (h : Underway r u before { session := s } 0 rendered)
    (hplay : r.Playable u) (hcalls : ∀ c ∈ calls, c = .take ∨ ∃ x, c = .input (some x))
    (hgiven : calls.filterMap (·.given?) = r.frames) {limit : Nat}
    (hlimit : 2 * r.frames.length ≤ limit) :
    (s.followToEnd calls limit).session.window.hasOutput = false := by
  obtain ⟨-, passed, rendered, hstart⟩ := h.followToEnd hplay hcalls hgiven 0
  have hlength := hstart.begins.length_le
  have hpending := hstart.stands.pending_eq
  have hdrained : (s.followToEnd calls limit).session.window.hasOutput =
      ((List.replicate limit Session.Call.take).foldl Journal.next
        (s.followToEnd calls 0)).session.window.hasOutput := by
    simp [Session.followToEnd, Session.follow]
  rw [hdrained]
  refine Journal.hasOutput_of_drained ?_
  unfold Window.ticksLeft
  omega

end Underway

/-- **What is made of a stream does not depend on when it is asked for.** On a simulated device at
rest that offers what the mode asks for and has handles left for what is made on opening, a stream
of frames on surfaces that were there before is given to a session, with outputs in between as it
may be, then its end, and the rest is output. Two outputs for each frame are enough for that. Then
what has come out are the emissions of the stream, and what the device has rendered for them is just
what they ask for. -/
theorem Session.emissions_of_run {o : Options} {d : Simulator} {s : Session Simulator}
    (params : StreamParams) {out : StreamParams} {frames : List Frame}
    {calls : List (Session.Call Simulator)}
    (hrest : d.AtRest)
    (hids : d.nextId + d.filters.count .deinterlacing + 2 < (Handle.invalid : SurfaceId).value)
    (hdeinterlacing : .deinterlacing ∈ d.filters)
    (hoffered : o.mode.isEnabled = true → o.mode.algorithm ∈ d.algorithms)
    (hcapacity : 0 < d.poolCapacity) (hopen : open? o d = .ok s)
    (hout : (s.reconfigure params).1 = .ok out)
    (hframes : ∀ x ∈ frames, x.format.isHardware = true ∧ x.surfaceId.isValid = true ∧
      ∀ key, x.lease? = some key → key < d.leases.nextKey)
    (hcalls : ∀ c ∈ calls, c = .take ∨ ∃ x, c = .input (some x))
    (hgiven : calls.filterMap (·.given?) = frames) (limit : Nat) :
    (s.chain.filtersFor true).length =
        (if o.mode.isEnabled then d.filters.count .deinterlacing else 0) ∧
      ∃ desc, poolFor params = some desc ∧
      (2 * frames.length ≤ limit →
        ((s.reconfigure params).2.followToEnd calls limit).session.output.1 = .ok none) ∧
      (((s.reconfigure params).2.followToEnd calls limit).session.output.1 = .ok none →
        List.Forall₂ (Emission.Shows desc)
          (Reel.mk o d.caps (s.chain.filtersFor true) frames).emissions
          (((s.reconfigure params).2.followToEnd calls limit).ticks.map (·.result)) ∧
        ((s.reconfigure params).2.followToEnd calls limit).session.device.submissions.map
            (·.untargeted) =
          d.submissions.map (·.untargeted) ++
            (Reel.mk o d.caps (s.chain.filtersFor true) frames).emissions.filterMap
              (·.submission?)) := by
  obtain ⟨desc, hdesc, hsetUp⟩ :=
    setUp_reconfigure hrest hids hdeinterlacing hoffered hcapacity hopen hout
  have hlast : (s.reconfigure params).2.chain.last = none := by
    rw [chain_reconfigure]
    rfl
  have hstart := Underway.start hsetUp (reconfigure_agrees (agrees_of_open hopen) params) hlast
    ⟨s.window, s.window_reconfigure params⟩ frames
  refine ⟨(grown_of_open hrest hoffered hopen).2.2, desc, hdesc, fun hlimit => ?_, fun hdone => ?_⟩
  · have hdrained := hstart.hasOutput_followToEnd hframes hcalls hgiven hlimit
    simp only [output, hdrained, Bool.not_false, if_true]
  · obtain ⟨hended, passed, rendered, hrun⟩ := hstart.followToEnd hframes hcalls hgiven limit
    have hall := hrun.emissionsUntil_eq hended (hasOutput_of_none hdone)
    have hshown := hrun.shown
    have hsubmitted := hrun.submitted
    rw [hall] at hshown hsubmitted
    refine ⟨hshown, ?_⟩
    show List.map _ (List.reverse _) = _
    rw [hrun.tuned.ready.rendered_eq]
    exact hsubmitted

/-- An interlaced frame, a progressive one, and an interlaced one with its bottom field first. -/
def mixedFrames : List Frame :=
  [{ Frame.decoded ⟨1⟩ 720 576 with fields := ⟨3⟩ },
    { Frame.decoded ⟨2⟩ 720 576 with fields := ⟨2⟩ },
    { Frame.decoded ⟨3⟩ 720 576 with fields := ⟨1⟩ }]

/-- After each of them an output is asked for. -/
def mixedCalls : List (Session.Call Simulator) :=
  mixedFrames.flatMap fun frame => [.input (some frame), .take]

/-- Mixed frames on a device that wants one forward and two backward references, and takes earlier
frames for the forward ones: the two fields of the first frame, the second frame, and the two fields
of the third one, the bottom one first. -/
theorem Session.emissions_of_mixed :
    ∃ s out, open? { mode := .motionAdaptive } (({} : Simulator).withReferences 1 2) = .ok s ∧
      (s.reconfigure (.hardware 720 576 720 576)).1 = .ok out ∧
      ((s.reconfigure (.hardware 720 576 720 576)).2.followToEnd mixedCalls 6).ticks.length = 5 ∧
      ((s.reconfigure (.hardware 720 576 720 576)).2.followToEnd mixedCalls
          6).session.device.submissions.map (fun x => (x.request.source, x.request.field,
            x.request.forwardReferences, x.request.backwardReferences)) =
        [(⟨1⟩, .top, [], [⟨2⟩, ⟨3⟩]), (⟨1⟩, .bottom, [], [⟨2⟩, ⟨3⟩]),
          (⟨3⟩, .bottom, [⟨2⟩], []), (⟨3⟩, .top, [⟨2⟩], [])] := by
  have hrest : (({} : Simulator).withReferences 1 2).AtRest :=
    ⟨rfl, rfl, by decide, by decide, by decide, by decide⟩
  have hframes : ∀ x ∈ mixedFrames, x.format.isHardware = true ∧ x.surfaceId.isValid = true ∧
      ∀ key, x.lease? = some key → key < (({} : Simulator).withReferences 1 2).leases.nextKey := by
    intro x hx
    simp only [mixedFrames, List.mem_cons, List.not_mem_nil, or_false] at hx
    rcases hx with rfl | rfl | rfl <;> exact ⟨rfl, rfl, fun key hkey => by cases hkey⟩
  have hcalls : ∀ c ∈ mixedCalls, c = .take ∨ ∃ x, c = .input (some x) := by
    intro c hc
    obtain ⟨x, -, hx⟩ := List.mem_flatMap.1 hc
    simp only [List.mem_cons, List.not_mem_nil, or_false] at hx
    rcases hx with rfl | rfl
    · exact .inr ⟨x, rfl⟩
    · exact .inl rfl
  refine ⟨_, _, rfl, rfl, ?_⟩
  obtain ⟨-, desc, -, hnone, hrun⟩ := emissions_of_run (o := { mode := .motionAdaptive })
    (.hardware 720 576 720 576) hrest (by decide) (by decide) (by decide) (by decide) rfl rfl
    hframes hcalls rfl 6
  obtain ⟨hshown, hsubmitted⟩ := hrun (hnone (by decide))
  refine ⟨?_, ?_⟩
  · have hlength := hshown.length_eq
    rw [List.length_map] at hlength
    rw [← hlength]
    rfl
  · have hseen := congrArg (List.map fun x => (x.request.source, x.request.field,
      x.request.forwardReferences, x.request.backwardReferences)) hsubmitted
    rw [List.map_map] at hseen
    exact hseen

end Deinterlace
