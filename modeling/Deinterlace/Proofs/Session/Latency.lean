import Deinterlace.Proofs.Session.Depths
import Deinterlace.Proofs.Session.Turns

/-!
# How long frames wait

A first field waits for as many frames as the window looks ahead, and a second field for at least
one (`Journal.Paced`). So it can be said at once how many ticks there are when some number of frames
have been given and no further output can be had: `Session.ticks_of_stream`.
-/
namespace Deinterlace

variable {σ : Type} [Device σ]

namespace Journal

variable {j : Journal σ} {passed : Nat}

/-! ## Letting go of frames -/

/-- Before the end of the stream a frame is not let go of until as many frames have come after it as
the window looks ahead, and the second of two fields not until the next frame has come. -/
structure Paced (j : Journal σ) (passed : Nat) : Prop extends Metered j passed where
  going : j.accepted ≠ [] → j.session.window.ended = false
  begun : j.session.window.secondField = true →
    passed + 1 + j.session.window.forwardDepth ≤ j.accepted.length
  behind : ∀ n frame, n < passed → j.accepted[n]? = some frame →
    n + 1 + max j.session.window.forwardDepth (j.session.chain.turnLength frame - 1) ≤
      j.accepted.length

namespace Paced

omit [Device σ] in
theorem start {s : Session σ} (hagrees : s.Agrees) (hstand : s.window.StandsAt [] 0) :
    Paced { session := s } 0 where
  toMetered := .start hagrees hstand
  going hne := absurd rfl hne
  begun hs := absurd (hstand.second_lt hs) (Nat.lt_irrefl 0)
  behind n _ hn := absurd hn (Nat.not_lt_zero n)

omit [Device σ] in
theorem withDevice (h : j.Paced passed) (device : σ) :
    Paced { j with session := { j.session with device } } passed :=
  ⟨h.toMetered.withDevice device, h.going, h.begun, h.behind⟩

omit [Device σ] in
/-- Where there is an output, enough frames have come. -/
theorem lookahead_le (h : j.Paced passed) (hout : j.session.window.hasOutput = true) :
    passed + 1 + j.session.window.lookahead ≤ j.accepted.length := by
  have hlt := h.stands.lt_of_hasOutput hout
  have hwaiting := h.stands.waiting_eq
  have hgoing := h.going (by rintro hnil; rw [hnil] at hlt; cases hlt)
  simp only [Window.hasOutput, Window.needsInput, hgoing, Bool.not_false, Bool.and_true,
    Bool.and_eq_true, Bool.not_eq_true', decide_eq_false_iff_not] at hout
  omega

theorem output (h : j.Paced passed) : ∃ passed, (j.next .output).Paced passed := by
  have hchain : (j.next .output).session.chain = j.session.chain := j.session.chain_output
  have hdepth : (j.next .output).session.window.forwardDepth = j.session.window.forwardDepth :=
    j.session.forwardDepth_output
  have hended : (j.next .output).session.window.ended = j.session.window.ended :=
    j.session.ended_output
  have haccepted : (j.next .output).accepted = j.accepted := List.append_nil _
  rcases h.toMetered.output_cases with ⟨-, heq⟩ | ⟨frame, hout, hframe, hturn, hnext, hfirst⟩ |
    ⟨hout, hfirst, hnext, hlater⟩
  · rw [heq]
    exact ⟨passed, h⟩
  · have hle := h.lookahead_le hout
    refine ⟨passed + 1, hnext, ?_, ?_, ?_⟩
    · rw [haccepted, hended]
      exact h.going
    · rw [hfirst]
      exact nofun
    · rw [haccepted, hdepth, hchain]
      intro n x hn hx
      rcases Nat.lt_succ_iff_lt_or_eq.1 hn with hold | rfl
      · exact h.behind n x hold hx
      · rw [hframe] at hx
        cases hx
        rw [hturn]
        unfold Window.lookahead at hle
        cases hs : j.session.window.secondField <;> rw [hs] at hle <;>
          simp only [if_true, if_false, Bool.false_eq_true] at hle ⊢ <;> omega
  · have hle := h.lookahead_le hout
    refine ⟨passed, hnext, ?_, ?_, ?_⟩
    · rw [haccepted, hended]
      exact h.going
    · intro _
      rw [haccepted, hdepth]
      rwa [Window.lookahead, hfirst] at hle
    · rw [haccepted, hdepth, hchain]
      exact h.behind

theorem input (h : j.Paced passed) {frame : Frame} (hhard : frame.format.isHardware = true) :
    (j.next (.input (some frame))).Paced passed := by
  have htaken := j.session.taken?_of_hardware hhard
  have haccepted : (j.next (.input (some frame))).accepted = j.accepted ++ [frame] := by
    show j.accepted ++ (j.session.taken? (.input (some frame))).toList = _
    rw [htaken]
    rfl
  have hsession : (j.next (.input (some frame))).session = j.session.configure.pushFrame frame := by
    show (j.session.input (some frame)).2 = _
    simp only [Session.input, hhard, if_true]
  refine ⟨h.toMetered.input (some frame), ?_, ?_, ?_⟩
  · intro _
    rw [hsession]
    rfl
  · rw [haccepted, hsession]
    intro hs
    have hs' : j.session.window.secondField = true := by rwa [← j.session.secondField_configure]
    have hlt := h.stands.second_lt hs'
    have hbegun := h.begun hs'
    rw [h.configure_eq (List.ne_nil_of_length_pos (Nat.zero_lt_of_lt hlt)), List.length_append]
    show passed + 1 + j.session.window.forwardDepth ≤ _
    omega
  · rw [haccepted, hsession]
    intro n x hn hx
    have hlt : n < j.accepted.length := Nat.lt_of_lt_of_le hn h.stands.passed_le
    rw [List.getElem?_append_left hlt] at hx
    have hbehind := h.behind n x hn hx
    rw [h.configure_eq (List.ne_nil_of_length_pos (Nat.zero_lt_of_lt hlt)), List.length_append]
    show n + 1 + max j.session.window.forwardDepth (j.session.chain.turnLength x - 1) ≤ _
    omega

theorem take (h : j.Paced passed) : ∃ passed, (j.next .take).Paced passed := by
  obtain ⟨device, heq⟩ := j.next_take
  obtain ⟨passed, hnext⟩ := h.output
  rw [heq]
  exact ⟨passed, hnext.withDevice device⟩

theorem follow (h : j.Paced passed) {calls : List (Session.Call σ)}
    (hcalls : ∀ c ∈ calls, c = .take ∨
      ∃ frame : Frame, frame.format.isHardware = true ∧ c = .input (some frame)) :
    ∃ passed, (calls.foldl Journal.next j).Paced passed :=
  List.foldlRecOn (motive := fun k : Journal σ => ∃ passed, k.Paced passed) calls Journal.next
    ⟨passed, h⟩ fun k ⟨_, hk⟩ call hcall => by
      rcases hcalls call hcall with rfl | ⟨frame, hhard, rfl⟩
      · exact hk.take
      · exact ⟨_, hk.input hhard⟩

omit [Device σ] in
/-- Why there is no further output: all frames have been passed, or some are missing. -/
theorem waiting_of_idle (h : j.Paced passed) (hne : j.accepted ≠ [])
    (hdone : j.session.window.hasOutput = false) :
    passed = j.accepted.length ∨ passed < j.accepted.length ∧
      j.accepted.length < passed + 1 + j.session.window.lookahead := by
  have hpassed := h.stands.passed_le
  rcases Nat.lt_or_ge passed j.accepted.length with hlt | hge
  · have hwaiting := h.stands.waiting_eq
    have hcur := h.stands.current?_isSome.2 hlt
    simp only [Window.hasOutput, Window.needsInput, hcur, h.going hne, Bool.not_false,
      Bool.and_true, Bool.true_and, Bool.not_eq_false', decide_eq_true_eq] at hdone
    omega
  · omega

omit [Device σ] in
/-- The last frame that has been passed. -/
theorem passed_add_le (h : j.Paced passed) (hpassed : 0 < passed) :
    ∃ frame, j.accepted[passed - 1]? = some frame ∧
      passed + max j.session.window.forwardDepth (j.session.chain.turnLength frame - 1) ≤
        j.accepted.length := by
  have hle := h.stands.passed_le
  obtain ⟨frame, hframe⟩ : ∃ frame, j.accepted[passed - 1]? = some frame :=
    ⟨_, List.getElem?_eq_getElem (by omega)⟩
  have hbehind := h.behind (passed - 1) frame (by omega) hframe
  exact ⟨frame, hframe, by omega⟩

omit [Device σ] in
/-- A window that looks ahead is as many frames behind when there is no further output. -/
theorem passed_of_lookahead (h : j.Paced passed) (hne : j.accepted ≠ [])
    (hdone : j.session.window.hasOutput = false) (hdepth : 0 < j.session.window.forwardDepth) :
    passed = j.accepted.length - j.session.window.forwardDepth ∧
      j.session.window.secondField = false := by
  have hlength := List.length_pos_of_ne_nil hne
  have hpassed : 0 < passed → passed + j.session.window.forwardDepth ≤ j.accepted.length := by
    intro hpos
    obtain ⟨frame, -, hle⟩ := h.passed_add_le hpos
    omega
  have hwaiting := h.waiting_of_idle hne hdone
  unfold Window.lookahead at hwaiting
  cases hs : j.session.window.secondField with
  | false =>
    rw [hs] at hwaiting
    simp only [if_false, Bool.false_eq_true] at hwaiting
    exact ⟨by omega, rfl⟩
  | true =>
    have hbegun := h.begun hs
    rw [hs] at hwaiting
    simp only [if_true] at hwaiting
    omega

omit [Device σ] in
/-- A window that does not look ahead has only the second field of the last frame to wait for. -/
theorem passed_of_no_lookahead (h : j.Paced passed) {before : List Frame} {last : Frame}
    (haccepted : j.accepted = before ++ [last]) (hdone : j.session.window.hasOutput = false)
    (hdepth : j.session.window.forwardDepth = 0) :
    (passed = before.length + 1 ∧ j.session.window.secondField = false ∧
      j.session.chain.turnLength last = 1) ∨
    (passed = before.length ∧ j.session.window.secondField = true ∧
      j.session.chain.turnLength last = 2) := by
  have hlength : j.accepted.length = before.length + 1 := by simp [haccepted]
  have hwaiting := h.waiting_of_idle (by simp [haccepted]) hdone
  unfold Window.lookahead at hwaiting
  cases hs : j.session.window.secondField with
  | false =>
    left
    rw [hs, hdepth] at hwaiting
    simp only [if_false, Bool.false_eq_true] at hwaiting
    have hpassed : passed = before.length + 1 := by omega
    obtain ⟨frame, hframe, hle⟩ := h.passed_add_le (by omega)
    have hlast : frame = last := by
      simpa [hpassed, haccepted] using hframe.symm
    have hpos : 0 < j.session.chain.turnLength frame := Chain.turnLength_pos
    exact ⟨hpassed, rfl, by rw [← hlast]; omega⟩
  | true =>
    right
    have hlt := h.stands.second_lt hs
    rw [hs, hdepth] at hwaiting
    simp only [if_true] at hwaiting
    have hpassed : passed = before.length := by omega
    exact ⟨hpassed, rfl, h.second hs last (by simp [hpassed, haccepted])⟩

omit [Device σ] in
/-- How many ticks there are when no further output can be had before the next frame comes. -/
theorem length_of_idle (h : j.Paced passed) {before : List Frame} {last : Frame}
    (haccepted : j.accepted = before ++ [last]) (hdone : j.session.window.hasOutput = false) :
    j.ticks.length =
      if j.session.window.forwardDepth = 0 then
        (j.accepted.map j.session.chain.turnLength).sum - (j.session.chain.turnLength last - 1)
      else ((j.accepted.take (j.accepted.length - j.session.window.forwardDepth)).map
        j.session.chain.turnLength).sum := by
  have hlength := h.length_eq
  split
  · rename_i hdepth
    have hsum : (j.accepted.map j.session.chain.turnLength).sum =
        (before.map j.session.chain.turnLength).sum + j.session.chain.turnLength last := by
      simp [haccepted]
    rcases h.passed_of_no_lookahead haccepted hdone hdepth with ⟨hpassed, hs, hturn⟩ |
      ⟨hpassed, hs, hturn⟩
    · have htake : j.accepted.take passed = j.accepted :=
        List.take_of_length_le (by simp [hpassed, haccepted])
      rw [htake, hs, hsum, hturn] at hlength
      rw [hlength, hsum, hturn]
      rfl
    · have htake : j.accepted.take passed = before := by simp [hpassed, haccepted]
      rw [htake, hs] at hlength
      rw [hlength, hsum, hturn]
      rfl
  · rename_i hdepth
    obtain ⟨hpassed, hs⟩ := h.passed_of_lookahead (by simp [haccepted]) hdone
      (Nat.pos_of_ne_zero hdepth)
    rw [hlength, hpassed, hs]
    rfl

end Paced

end Journal

/-! ## Streams -/

namespace Session

/-- The ticks of a stream of frames on the device that has not ended. -/
theorem Feeds.paced {s later : Session σ} {frames : List Frame}
    {inputs : List (Except Error Unit)} {outputs : List (Except Error Frame)}
    (h : s.Feeds (frames.map some) inputs outputs later) (hagrees : s.Agrees)
    (hstand : s.window.StandsAt [] 0) (hhard : ∀ x ∈ frames, x.format.isHardware = true) :
    ∃ j : Journal σ, j.session = later ∧ j.accepted = frames ∧
      j.ticks.map (·.result) = outputs ∧ ∃ passed, j.Paced passed := by
  obtain ⟨calls, hcalls, hsession, haccepted, hticks⟩ :=
    h.follow_of_hardware (by simpa using hhard)
  refine ⟨s.follow calls, hsession, ?_, hticks,
    (Journal.Paced.start hagrees hstand).follow fun c hc => ?_⟩
  · simpa [List.filterMap_map, Function.comp_def] using haccepted
  · rcases hcalls c hc with htake | ⟨frame, hframe, hinput⟩
    · exact .inl htake
    · obtain ⟨x, hx, rfl⟩ := List.mem_map.1 hframe
      exact .inr ⟨x, hhard x hx, hinput⟩

section Stream

variable {s drained later : Session σ} {frames : List Frame}
  {inputs inputs' : List (Except Error Unit)} {outputs outputs' : List (Except Error Frame)}
  (hagrees : s.Agrees) (hstand : s.window.StandsAt [] 0)
  (hhard : ∀ x ∈ frames, x.format.isHardware = true)

include hagrees hstand hhard

/-- How many ticks there are before the end of the stream. -/
theorem Feeds.length_outputs (h : s.Feeds (frames.map some) inputs outputs later) {last : Frame}
    (hlast : frames.getLast? = some last) :
    outputs.length =
      if s.configure.window.forwardDepth = 0 then
        (frames.map s.configure.chain.turnLength).sum - (s.configure.chain.turnLength last - 1)
      else ((frames.take (frames.length - s.configure.window.forwardDepth)).map
        s.configure.chain.turnLength).sum := by
  obtain ⟨before, rfl⟩ := List.getLast?_eq_some_iff.1 hlast
  have htaken : inputs.getLast? = some (.ok ()) := by
    have hlength := h.length_inputs
    have hne : inputs ≠ [] := List.ne_nil_of_length_pos (by simp [hlength])
    rw [List.getLast?_eq_some_getLast hne,
      h.inputs_of_hardware (by simpa using hhard) _ (List.getLast_mem hne)]
  have hdone := h.hasOutput_eq htaken
  obtain ⟨hchain, hdepth⟩ := h.negotiated hagrees (by simp)
  obtain ⟨j, rfl, hframes, hticks, passed, hj⟩ := h.paced hagrees hstand hhard
  rw [← hticks, List.length_map, hj.length_of_idle hframes hdone, hframes, hchain, hdepth]

/-- How many ticks there are once the stream has ended. -/
theorem Feeds.length_outputs_of_end
    (h : s.Feeds (frames.map some ++ [none]) inputs outputs later) :
    outputs.length = (frames.map s.configure.chain.turnLength).sum := by
  obtain ⟨-, hended, hdone⟩ := h.of_end
  obtain ⟨hchain, -⟩ := h.negotiated hagrees (by simp)
  obtain ⟨calls, -, rfl, haccepted, hticks, passed, hj⟩ :=
    h.metered hagrees hstand (by simpa using hhard)
  have hframes : (s.follow calls).accepted = frames := by
    simpa [List.filterMap_map, Function.comp_def] using haccepted
  obtain ⟨hpassed, hsecond⟩ := hj.played_all hended hdone
  rw [← hticks, List.length_map, hj.length_eq, hpassed, hsecond, List.take_length, hframes, hchain]
  rfl

/-- What one more frame brings out when every frame has two ticks. -/
theorem Feeds.length_outputs_next (hfirst : s.Feeds (frames.map some) inputs outputs drained)
    {x : Frame} (hx : x.format.isHardware = true)
    (hnext : drained.Feeds [some x] inputs' outputs' later)
    (htwo : ∀ y ∈ frames ++ [x], s.configure.chain.turnLength y = 2)
    (hlong : max s.configure.window.forwardDepth 1 < (frames ++ [x]).length) :
    outputs'.length = 2 := by
  have hne : frames ≠ [] := by
    rintro rfl
    simp only [List.nil_append, List.length_singleton] at hlong
    omega
  obtain ⟨last, hlast⟩ := Option.isSome_iff_exists.1 (List.getLast?_isSome.2 hne)
  have hall : s.Feeds ((frames ++ [x]).map some) (inputs ++ inputs') (outputs ++ outputs')
      later := by
    rw [List.map_append]
    exact hfirst.append hnext
  have hhard' : ∀ y ∈ frames ++ [x], y.format.isHardware = true := by
    intro y hy
    rcases List.mem_append.1 hy with hy | hy
    · exact hhard y hy
    · rw [List.mem_singleton.1 hy]
      exact hx
  have hbefore := hfirst.length_outputs hagrees hstand hhard hlast
  have hafter := hall.length_outputs hagrees hstand hhard' List.getLast?_concat
  have hframes : ∀ y ∈ frames, s.configure.chain.turnLength y = 2 :=
    fun y hy => htwo y (List.mem_append_left _ hy)
  have htaken : ∀ n, ∀ y ∈ frames.take n, s.configure.chain.turnLength y = 2 :=
    fun n y hy => hframes y (List.mem_of_mem_take hy)
  have htaken' : ∀ n, ∀ y ∈ (frames ++ [x]).take n, s.configure.chain.turnLength y = 2 :=
    fun n y hy => htwo y (List.mem_of_mem_take hy)
  rw [Chain.sum_turnLength hframes, hframes last (List.mem_of_getLast? hlast),
    Chain.sum_turnLength (htaken _)] at hbefore
  rw [Chain.sum_turnLength htwo, htwo x (by simp), Chain.sum_turnLength (htaken' _)] at hafter
  have hlength := List.length_pos_of_ne_nil hne
  simp only [List.length_append, List.length_singleton, List.length_take] at hbefore hafter hlong
  split at hbefore <;> split at hafter <;> omega

end Stream

/-- **When pictures come out.** Frames on the device go through a session that has been opened and
holds no frames, each one followed by all the outputs there are; whatever fails, that comes to an
end. What the first input negotiates, or finds negotiated, is kept: a frame has two ticks, pictures
or errors, if it is rendered in a mode that doubles fields, and one otherwise. If the window looks
ahead, the ticks until the next frame comes are those of all frames but the last ones, as many as it
looks ahead; if it does not, those of all frames but for a second field of the last one. The end of
the stream brings out all the others. So when every frame has two ticks, each frame after the first
few brings out just two. -/
theorem ticks_of_stream {options : Options} {device : σ} {opened s : Session σ}
    (hopen : open? options device = .ok opened) (calls : List (Call σ))
    (hs : calls.foldl perform opened = s) (hempty : s.window.frames = []) {depth : Nat}
    (hdepth : s.configure.window.forwardDepth = depth) {length : Frame → Nat}
    (hlength : s.configure.chain.turnLength = length) (frames : List Frame)
    (hhard : ∀ x ∈ frames, x.format.isHardware = true) :
    (∃ inputs outputs later, s.Feeds (frames.map some) inputs outputs later ∧
      ∃ inputs rest last, later.Feeds [none] inputs rest last) ∧
    (∀ inputs outputs later last, s.Feeds (frames.map some) inputs outputs later →
      frames.getLast? = some last →
      outputs.length =
        if depth = 0 then (frames.map length).sum - (length last - 1)
        else ((frames.take (frames.length - depth)).map length).sum) ∧
    (∀ inputs outputs later, s.Feeds (frames.map some ++ [none]) inputs outputs later →
      outputs.length = (frames.map length).sum) ∧
    ∀ inputs outputs drained x inputs' outputs' later,
      s.Feeds (frames.map some) inputs outputs drained →
      x.format.isHardware = true → drained.Feeds [some x] inputs' outputs' later →
      (∀ y ∈ frames ++ [x], length y = 2) →
      max depth 1 < (frames ++ [x]).length → outputs'.length = 2 := by
  have hagrees : s.Agrees := hs ▸ agrees_calls (agrees_of_open hopen) calls
  have hstand : s.window.StandsAt [] 0 := by
    subst hs
    exact standsAt_of_empty hopen calls hempty
  subst hdepth hlength
  refine ⟨?_, fun inputs outputs later last h hlast => h.length_outputs hagrees hstand hhard hlast,
    fun inputs outputs later h => h.length_outputs_of_end hagrees hstand hhard,
    fun inputs outputs drained x inputs' outputs' later hfirst hx hnext htwo hlong =>
      hfirst.length_outputs_next hagrees hstand hhard hx hnext htwo hlong⟩
  obtain ⟨inputs, outputs, later, h⟩ := exists_feeds s (frames.map some)
  exact ⟨inputs, outputs, later, h, exists_feeds later [none]⟩

/-- Interlaced frames on the device. -/
def interlacedFrames : List Frame :=
  [1, 2].map fun n => { Frame.decoded ⟨n⟩ 720 576 with fields := ⟨3⟩ }

/-- A window that looks one frame ahead is one frame behind: of two frames one has had its two
ticks, and the end of the stream brings the other two. -/
theorem ticks_of_interlacedFrames :
    ∃ s : Session Simulator, open? {} (({} : Simulator).withReferences 1 1) = .ok s ∧
      ∃ inputs outputs later inputs' rest last,
        (s.reconfigure (.hardware 720 576 720 576)).2.Feeds (interlacedFrames.map some)
          inputs outputs later ∧
        later.Feeds [none] inputs' rest last ∧ outputs.length = 2 ∧
        (outputs ++ rest).length = 4 := by
  obtain ⟨s, hs⟩ : ∃ s, open? {} (({} : Simulator).withReferences 1 1) = .ok s := ⟨_, rfl⟩
  have hstream := ticks_of_stream hs [.reconfigure (.hardware 720 576 720 576)] rfl
  cases hs
  obtain ⟨⟨inputs, outputs, later, h, inputs', rest, last, hend⟩, hgoing, hended, -⟩ :=
    hstream rfl rfl rfl interlacedFrames (by decide)
  have houtputs := hgoing _ _ _ _ h rfl
  have hall := hended _ _ _ (h.append hend)
  exact ⟨_, rfl, inputs, outputs, later, inputs', rest, last, h, hend, houtputs, hall⟩

end Session

end Deinterlace
