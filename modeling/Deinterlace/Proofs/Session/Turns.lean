import Deinterlace.Proofs.Session.Feeding
import Mathlib.Algebra.GroupWithZero.Nat
import Mathlib.Data.List.Basic

/-!
# The turns of a stream

As long as nothing is negotiated anew, a frame has two ticks if it is rendered in a mode that
doubles fields and one otherwise (`Chain.turnLength`), and the ticks are those of one frame after
the other (`Chain.played`). `Journal.Metered` says how far they have come: every input and every
output keeps it, and once the stream has ended and there is no further output all frames have had
their turn (`Journal.Metered.played_all`).
-/
namespace Deinterlace

/-! ## Turns -/

namespace Chain

variable (c : Chain) (frames : List Frame)

/-- Whether a picture is rendered from a frame, instead of the frame passing through. -/
def renders (frame : Frame) : Bool := !c.active.isEmpty && c.options.treats frame

/-- The number of ticks of a frame. -/
def turnLength (frame : Frame) : Nat :=
  if c.renders frame && c.options.mode.doublesFields then 2 else 1

/-- The frames of the ticks until the first `passed` frames have had their turn, and the next one
its first field if `second` is set. -/
def played (passed : Nat) (second : Bool) : List Frame :=
  (frames.take passed).flatMap (fun frame => List.replicate (c.turnLength frame) frame) ++
    if second then frames[passed]?.toList else []

variable {c frames} {passed : Nat} {frame : Frame}

theorem turnLength_pos : 0 < c.turnLength frame := by
  unfold turnLength
  split <;> decide

theorem turnLength_of_passed (h : c.renders frame = false) : c.turnLength frame = 1 := by
  simp [turnLength, h]

theorem turnLength_of_rendered (h : c.renders frame = true) :
    c.turnLength frame = if c.options.mode.doublesFields then 2 else 1 := by
  simp [turnLength, h]

theorem sum_turnLength (h : ∀ x ∈ frames, c.turnLength x = 2) :
    (frames.map c.turnLength).sum = 2 * frames.length := by
  rw [List.map_congr_left h, List.map_const', List.sum_replicate_nat, Nat.mul_comm]

theorem played_begun (hframe : frames[passed]? = some frame) :
    c.played frames passed true = c.played frames passed false ++ [frame] := by
  simp [played, hframe]

theorem played_succ (hframe : frames[passed]? = some frame) {second : Bool}
    (hlength : c.turnLength frame = if second then 2 else 1) :
    c.played frames (passed + 1) false = c.played frames passed second ++ [frame] := by
  have htake : frames.take (passed + 1) = frames.take passed ++ [frame] := by
    rw [List.take_add_one, hframe]
    rfl
  cases second <;> simp [played, htake, hlength, hframe, List.replicate]

/-- Frames that come later make no difference. -/
theorem played_append {second : Bool} (hpassed : passed ≤ frames.length)
    (hsecond : second = true → passed < frames.length) (more : List Frame) :
    c.played (frames ++ more) passed second = c.played frames passed second := by
  unfold played
  rw [List.take_append_of_le_length hpassed]
  cases second with
  | false => rfl
  | true => rw [List.getElem?_append_left (hsecond rfl)]

theorem length_played {second : Bool} (hsecond : second = true → passed < frames.length) :
    (c.played frames passed second).length =
      ((frames.take passed).map c.turnLength).sum + second.toNat := by
  unfold played
  cases second with
  | false => simp [List.length_flatMap]
  | true => simp [List.length_flatMap, List.getElem?_eq_getElem (hsecond rfl)]

end Chain

variable {σ : Type} [Device σ]

omit [Device σ] in
/-- Where pictures are rendered, the mode decides whether a second field follows the first. -/
theorem Session.Agrees.hasSecondField_eq {s : Session σ} (h : s.Agrees)
    (hpass : s.passesThrough = false) :
    s.window.hasSecondField = (!s.window.secondField && s.chain.options.mode.doublesFields) := by
  simp only [Session.passesThrough, Bool.or_eq_false_iff, Bool.not_eq_false'] at hpass
  have hactive : s.chain.active ≠ [] := by
    intro hnil
    rw [hnil] at hpass
    cases hpass.1
  obtain ⟨key, caps, -, hforce⟩ := h.exists_inForce hactive
  simp [Window.hasSecondField, hpass.2, hforce.mode, Chain.windowMode]

namespace Journal

variable {j : Journal σ} {passed : Nat}

/-! ## How far the ticks have come -/

/-- The ticks are those of the first `passed` frames, and of the first field of the next one if its
second field is still to come; and each of them is what becomes of its frame. -/
structure Metered (j : Journal σ) (passed : Nat) : Prop where
  agrees : j.session.Agrees
  settled : j.accepted ≠ [] → j.session.Settled
  stands : j.session.window.StandsAt j.accepted passed
  second : j.session.window.secondField = true →
    ∀ frame, j.accepted[passed]? = some frame → j.session.chain.turnLength frame = 2
  frames_eq : j.ticks.map (·.frame) =
    j.session.chain.played j.accepted passed j.session.window.secondField
  tick : ∀ t ∈ j.ticks, t.rendered = j.session.chain.renders t.frame ∧
    (t.rendered = false → t.result = .ok t.frame)

namespace Metered

omit [Device σ] in
theorem start {s : Session σ} (hagrees : s.Agrees) (hstand : s.window.StandsAt [] 0) :
    Metered { session := s } 0 where
  agrees := hagrees
  settled hne := absurd rfl hne
  stands := hstand
  second _ frame hframe := by cases hframe
  frames_eq := by
    show [] = Chain.played _ [] 0 _
    cases s.window.secondField <;> rfl
  tick t ht := by cases ht

omit [Device σ] in
/-- The device does not matter. -/
theorem withDevice (h : j.Metered passed) (device : σ) :
    Metered { j with session := { j.session with device } } passed :=
  ⟨h.agrees.congr rfl rfl rfl rfl h.agrees.held, h.settled, h.stands, h.second, h.frames_eq, h.tick⟩

omit [Device σ] in
theorem renders_eq (h : j.Metered passed) {frame : Frame}
    (hout : j.session.window.hasOutput = true)
    (hcur : j.session.window.current? = some frame) :
    j.session.chain.renders frame = !j.session.passesThrough := by
  rw [h.agrees.passesThrough_eq hout hcur, Chain.renders]
  cases j.session.chain.active.isEmpty <;> simp

/-- One more tick of the current frame, with which the window moves on to `passed'`. -/
theorem of_tick (h : j.Metered passed) {frame : Frame} {result : Except Error Frame}
    (hout : j.session.window.hasOutput = true)
    (hcur : j.session.window.current? = some frame)
    (hresult : Session.gave? j.session.output.1 = some result)
    (hpass : j.session.passesThrough = true → result = .ok frame) {passed' : Nat}
    (hstand : j.session.output.2.window.StandsAt j.accepted passed')
    (hsecond : j.session.output.2.window.secondField = true →
      ∀ x, j.accepted[passed']? = some x → j.session.chain.turnLength x = 2)
    (hplayed : j.session.chain.played j.accepted passed' j.session.output.2.window.secondField =
      j.session.chain.played j.accepted passed j.session.window.secondField ++ [frame]) :
    (j.next .output).Metered passed' := by
  have hchain := j.session.chain_output
  have hticks : (j.next .output).ticks = j.ticks ++ [j.tick frame result] := by
    simp [next, tick?, hcur, hresult]
  have haccepted : (j.next .output).accepted = j.accepted := List.append_nil _
  have hsession : (j.next .output).session = j.session.output.2 := rfl
  refine ⟨h.agrees.perform .output, ?_, ?_, ?_, ?_, ?_⟩ <;> rw [hsession]
  · rw [haccepted, Session.Settled, hchain, j.session.deinterlacing_output]
    exact h.settled
  · rwa [haccepted]
  · rwa [haccepted, hchain]
  · rw [haccepted, hticks, hchain, hplayed, List.map_append, h.frames_eq]
    rfl
  · intro t ht
    rw [hchain]
    rw [hticks, List.mem_append, List.mem_singleton] at ht
    rcases ht with hold | rfl
    · exact h.tick t hold
    · refine ⟨(h.renders_eq hout hcur).symm, fun hrendered => hpass ?_⟩
      have hkept : (!j.session.passesThrough) = false := hrendered
      simpa using hkept

/-- A frame that passes through has had its turn. -/
theorem output_passed (h : j.Metered passed) {frame : Frame}
    (hout : j.session.window.hasOutput = true)
    (hcur : j.session.window.current? = some frame) (hpass : j.session.passesThrough = true) :
    j.session.chain.turnLength frame = (if j.session.window.secondField then 2 else 1) ∧
      (j.next .output).Metered (passed + 1) ∧
      (j.next .output).session.window.secondField = false := by
  have hlt := h.stands.lt_of_hasOutput hout
  have hsome := h.stands.current?_isSome.2 hlt
  have hframe : j.accepted[passed]? = some frame := h.stands.current?_eq ▸ hcur
  have hrenders := h.renders_eq hout hcur
  rw [hpass] at hrenders
  have hlength := Chain.turnLength_of_passed hrenders
  have hfirst : j.session.window.secondField = false := by
    cases hs : j.session.window.secondField with
    | false => rfl
    | true =>
      rw [h.second hs frame hframe] at hlength
      cases hlength
  have heq := Session.output_of_passed hout hcur hpass
  have hgave : Session.gave? j.session.output.1 = some (.ok frame) := by
    rw [heq]
    rfl
  have hwindow : j.session.output.2.window = j.session.window.advanceFrame := by
    rw [heq]
    rfl
  have hlater : j.session.output.2.window.secondField = false := by
    rw [hwindow]
    exact Window.secondField_advanceFrame hsome
  have hturn : j.session.chain.turnLength frame =
      if j.session.window.secondField then 2 else 1 := by
    rw [hlength, hfirst]
    rfl
  refine ⟨hturn, h.of_tick hout hcur hgave (fun _ => rfl) ?_ ?_ ?_, hlater⟩
  · rw [hwindow]
    exact h.stands.advanceFrame hlt
  · rw [hlater]
    exact nofun
  · rw [hlater]
    exact Chain.played_succ hframe hturn

/-- A picture that is rendered, or should have been, ends the turn of its frame, or its second field
comes next. -/
theorem output_rendered (h : j.Metered passed) {frame : Frame}
    (hout : j.session.window.hasOutput = true)
    (hcur : j.session.window.current? = some frame) (hpass : j.session.passesThrough = false) :
    (j.session.chain.turnLength frame = (if j.session.window.secondField then 2 else 1) ∧
      (j.next .output).Metered (passed + 1) ∧
      (j.next .output).session.window.secondField = false) ∨
    (j.session.window.secondField = false ∧ (j.next .output).Metered passed ∧
      (j.next .output).session.window.secondField = true) := by
  have hlt := h.stands.lt_of_hasOutput hout
  have hsome := h.stands.current?_isSome.2 hlt
  have hframe : j.accepted[passed]? = some frame := h.stands.current?_eq ▸ hcur
  have hrenders := h.renders_eq hout hcur
  rw [hpass] at hrenders
  have hlength := Chain.turnLength_of_rendered hrenders
  rcases hren : Rendering.render j.session.context j.session.chain j.session.window j.session.pool
    frame j.session.device with ⟨picture, device⟩
  obtain ⟨stats, heq⟩ := Session.output_of_rendered hout hcur hpass hren
  have hgave : Session.gave? j.session.output.1 = some picture := by
    rw [heq]
    exact Session.gave?_map picture
  have hnot : j.session.passesThrough = true → picture = .ok frame := by
    rw [hpass]
    exact nofun
  have hwindow : j.session.output.2.window = j.session.window.advanceField := by
    rw [heq]
    rfl
  have hstand := h.stands.advanceField hlt
  have hlater := Window.secondField_advanceField hsome
  rw [← hwindow, h.agrees.hasSecondField_eq hpass] at hlater
  rw [← hwindow, h.agrees.hasSecondField_eq hpass] at hstand
  -- only a first field in a mode that doubles fields leaves the window on its frame
  cases hs : j.session.window.secondField with
  | false =>
    cases hdoubles : j.session.chain.options.mode.doublesFields with
    | false =>
      rw [hs, hdoubles] at hstand hlater
      rw [hdoubles] at hlength
      refine .inl ⟨hlength, h.of_tick hout hcur hgave hnot hstand ?_ ?_, hlater⟩ <;> rw [hlater]
      · exact nofun
      · rw [hs]
        exact Chain.played_succ hframe hlength
    | true =>
      rw [hs, hdoubles] at hstand hlater
      rw [hdoubles] at hlength
      refine .inr ⟨rfl, h.of_tick hout hcur hgave hnot hstand ?_ ?_, hlater⟩
      · intro _ x hx
        rw [hframe] at hx
        cases hx
        exact hlength
      · rw [hlater, hs]
        exact Chain.played_begun hframe
  | true =>
    have htwo := h.second hs frame hframe
    rw [hs] at hstand hlater
    refine .inl ⟨htwo, h.of_tick hout hcur hgave hnot hstand ?_ ?_, hlater⟩ <;> rw [hlater]
    · exact nofun
    · rw [hs]
      exact Chain.played_succ hframe htwo

/-- What an output does: there is none; the turn of the current frame is over; or its second field
comes next. -/
theorem output_cases (h : j.Metered passed) :
    (j.session.window.hasOutput = false ∧ j.next .output = j) ∨
    (∃ frame, j.session.window.hasOutput = true ∧ j.accepted[passed]? = some frame ∧
      j.session.chain.turnLength frame = (if j.session.window.secondField then 2 else 1) ∧
      (j.next .output).Metered (passed + 1) ∧
      (j.next .output).session.window.secondField = false) ∨
    (j.session.window.hasOutput = true ∧ j.session.window.secondField = false ∧
      (j.next .output).Metered passed ∧ (j.next .output).session.window.secondField = true) := by
  cases hout : j.session.window.hasOutput with
  | false => exact .inl ⟨rfl, next_output_of_none hout⟩
  | true =>
    right
    obtain ⟨frame, hcur⟩ := Option.isSome_iff_exists.1
      (h.stands.current?_isSome.2 (h.stands.lt_of_hasOutput hout))
    have hframe : j.accepted[passed]? = some frame := h.stands.current?_eq ▸ hcur
    cases hpass : j.session.passesThrough with
    | true => exact .inl ⟨frame, rfl, hframe, h.output_passed hout hcur hpass⟩
    | false =>
      rcases h.output_rendered hout hcur hpass with hend | hbegin
      · exact .inl ⟨frame, rfl, hframe, hend⟩
      · exact .inr ⟨rfl, hbegin⟩

omit [Device σ] in
/-- Before the first frame there are no ticks. -/
theorem unstarted (h : j.Metered passed) (hempty : j.accepted = []) :
    j.ticks = [] ∧ j.session.window.secondField = false ∧ passed = 0 := by
  have hpassed := h.stands.passed_le
  have hsecond := h.stands.second_lt
  have hframes := h.frames_eq
  rw [hempty] at hpassed hsecond hframes
  have hzero : passed = 0 := Nat.le_zero.1 hpassed
  have hfirst : j.session.window.secondField = false :=
    Bool.eq_false_iff.2 fun hs => absurd (hsecond hs) (Nat.not_lt_zero _)
  refine ⟨?_, hfirst, hzero⟩
  rw [hfirst, hzero] at hframes
  exact List.map_eq_nil_iff.1 hframes

theorem configure_eq (h : j.Metered passed) (hne : j.accepted ≠ []) :
    j.session.configure = j.session :=
  Session.configure_of_last (h.settled hne)

/-- An input, whatever is made of its frame. -/
theorem input (h : j.Metered passed) (frame : Option Frame) :
    (j.next (.input frame)).Metered passed := by
  have hsecond := j.session.secondField_input frame
  have hticks : (j.next (.input frame)).ticks = j.ticks := List.append_nil _
  have hsession : (j.next (.input frame)).session = (j.session.input frame).2 := rfl
  have haccepted : (j.next (.input frame)).accepted =
      j.accepted ++ (j.session.taken? (.input frame)).toList := rfl
  -- there may be a negotiation, but only before the first frame
  have hchain : j.accepted ≠ [] → (j.session.input frame).2.chain = j.session.chain := by
    intro hne
    rw [j.session.chain_input, h.configure_eq hne]
  refine ⟨h.agrees.perform (.input frame), fun _ => Session.settled_input h.agrees frame,
    Session.standsAt_input h.stands frame, ?_, ?_, ?_⟩ <;> rw [hsession]
  · rw [hsecond, haccepted]
    intro hs x hx
    have hlt := h.stands.second_lt hs
    rw [List.getElem?_append_left hlt] at hx
    rw [hchain (List.ne_nil_of_length_pos (Nat.zero_lt_of_lt hlt))]
    exact h.second hs x hx
  · rw [hsecond, hticks, haccepted]
    by_cases hempty : j.accepted = []
    · obtain ⟨hnone, hfirst, hzero⟩ := h.unstarted hempty
      rw [hnone, hfirst, hzero]
      rfl
    · rw [hchain hempty, Chain.played_append h.stands.passed_le h.stands.second_lt]
      exact h.frames_eq
  · rw [hticks]
    by_cases hempty : j.accepted = []
    · rw [(h.unstarted hempty).1]
      intro t ht
      cases ht
    · rw [hchain hempty]
      exact h.tick

theorem take (h : j.Metered passed) : ∃ passed, (j.next .take).Metered passed := by
  obtain ⟨device, heq⟩ := j.next_take
  rw [heq]
  rcases h.output_cases with ⟨-, hsame⟩ | ⟨frame, -, -, -, hnext, -⟩ | ⟨-, -, hnext, -⟩
  · rw [hsame]
    exact ⟨passed, h.withDevice device⟩
  · exact ⟨passed + 1, hnext.withDevice device⟩
  · exact ⟨passed, hnext.withDevice device⟩

/-- The ticks keep in step with the frames. -/
theorem follow (h : j.Metered passed) {calls : List (Session.Call σ)}
    (hcalls : ∀ c ∈ calls, c = .take ∨ ∃ frame, c = .input frame) :
    ∃ passed, (calls.foldl Journal.next j).Metered passed :=
  List.foldlRecOn (motive := fun k : Journal σ => ∃ passed, k.Metered passed) calls Journal.next
    ⟨passed, h⟩ fun k ⟨_, hk⟩ call hcall => by
      rcases hcalls call hcall with rfl | ⟨frame, rfl⟩
      · exact hk.take
      · exact ⟨_, hk.input frame⟩

omit [Device σ] in
theorem length_eq (h : j.Metered passed) : j.ticks.length =
    ((j.accepted.take passed).map j.session.chain.turnLength).sum +
      j.session.window.secondField.toNat := by
  rw [← Chain.length_played h.stands.second_lt, ← h.frames_eq, List.length_map]

omit [Device σ] in
/-- Once the stream has ended and there is no further output, all frames have had their turns. -/
theorem played_all (h : j.Metered passed) (hended : j.session.window.ended = true)
    (hdone : j.session.window.hasOutput = false) :
    passed = j.accepted.length ∧ j.session.window.secondField = false := by
  have hpassed := h.stands.passed_eq_length hended hdone
  refine ⟨hpassed, ?_⟩
  cases hs : j.session.window.secondField with
  | false => rfl
  | true =>
    have hlt := h.stands.second_lt hs
    omega

end Metered

end Journal

/-- The ticks of a stream of frames on the device. -/
theorem Session.Feeds.metered {s later : Session σ} {frames : List (Option Frame)}
    {inputs : List (Except Error Unit)} {outputs : List (Except Error Frame)}
    (h : s.Feeds frames inputs outputs later) (hagrees : s.Agrees)
    (hstand : s.window.StandsAt [] 0)
    (hhard : ∀ x, some x ∈ frames → x.format.isHardware = true) :
    ∃ calls : List (Call σ), (∀ c ∈ calls, c = .take ∨ ∃ frame ∈ frames, c = .input frame) ∧
      (s.follow calls).session = later ∧ (s.follow calls).accepted = frames.filterMap id ∧
      (s.follow calls).ticks.map (·.result) = outputs ∧
      ∃ passed, (s.follow calls).Metered passed := by
  obtain ⟨calls, hcalls, hsession, haccepted, hticks⟩ := h.follow_of_hardware hhard
  refine ⟨calls, hcalls, hsession, haccepted, hticks,
    (Journal.Metered.start hagrees hstand).follow fun c hc => ?_⟩
  rcases hcalls c hc with htake | ⟨frame, -, hinput⟩
  · exact .inl htake
  · exact .inr ⟨frame, hinput⟩

end Deinterlace
