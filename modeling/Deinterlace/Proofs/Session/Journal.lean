import Deinterlace.Device.Simulator
import Deinterlace.Proofs.Session.Call
import Deinterlace.Proofs.Window.Segment

/-!
# Journals of a session

`Session.follow` makes a list of calls on a session and writes down in a `Journal` what a caller can
observe: the frames that were taken in and the outputs that gave a picture or an error, each a
`Tick`. Whatever is switched over, fails or is released in between, the frames come out in the order
in which they went in, none is left out, and no frame has more than two ticks
(`Journal.exists_turns`).
-/
namespace Deinterlace

/-- One output of a session that gave a picture or an error. -/
structure Tick where
  /-- The frame that was current. -/
  frame : Frame
  /-- How many frames had been taken in before that one. -/
  place : Nat
  /-- Whether it was the turn of the frame's second field. -/
  second : Bool
  /-- Whether a picture was to be rendered, instead of the frame passing through. -/
  rendered : Bool
  /-- Whether the window's mode was to output every field as a picture of its own. -/
  doubling : Bool
  /-- The part of the frame that was processed. -/
  field : PictureField
  /-- Whether there were filters in force. -/
  filtered : Bool
  /-- Whether deinterlacing was switched on at the latest input. -/
  switched : Bool
  result : Except Error Frame

/-- What has been observed of a session. -/
structure Journal (σ : Type) where
  session : Session σ
  /-- The frames taken in, in order. -/
  accepted : List Frame := []
  /-- The outputs that gave something, in order. -/
  ticks : List Tick := []
  /-- Whether deinterlacing was switched on at the latest input. -/
  switched : Bool := false

variable {σ : Type} [Device σ]

namespace Session

/-- Whether a call leaves the stream alone that the session is set up for. -/
def Call.keepsStream : Call σ → Bool
  | .seek | .reconfigure _ => false
  | _ => true

/-- The frame that a call hands over. -/
def Call.given? : Call σ → Option Frame
  | .input frame => frame
  | _ => none

/-- The frame that a call makes the session take in. -/
def taken? (s : Session σ) : Call σ → Option Frame
  | .input (some frame) =>
    match (s.input (some frame)).1 with
    | .ok _ => (s.input (some frame)).2.window.frames.getLast?
    | .error _ => none
  | _ => none

/-- What an output gave, if anything. -/
def gave? : Except Error (Option Frame) → Option (Except Error Frame)
  | .ok none => none
  | .ok (some picture) => some (.ok picture)
  | .error e => some (.error e)

end Session

namespace Journal

/-- What is written down of an output that gives `result` when `frame` is current. -/
def tick (j : Journal σ) (frame : Frame) (result : Except Error Frame) : Tick where
  frame := frame
  place := j.accepted.length - j.session.window.pending
  second := j.session.window.secondField
  rendered := !j.session.passesThrough
  doubling := j.session.window.mode.outputFields
  field := Rendering.fieldOf j.session.window
  filtered := !j.session.chain.active.isEmpty
  switched := j.switched
  result := result

/-- The tick of the next call. -/
def tick? (j : Journal σ) : Session.Call σ → Option Tick
  | .output | .take =>
    j.session.window.current?.bind fun frame =>
      (Session.gave? j.session.output.1).map (j.tick frame)
  | _ => none

/-- Makes a call and writes it down. -/
def next (j : Journal σ) (call : Session.Call σ) : Journal σ where
  session := j.session.perform call
  accepted := j.accepted ++ (j.session.taken? call).toList
  ticks := j.ticks ++ (j.tick? call).toList
  switched :=
    match call with
    | .input _ => j.session.deinterlacing
    | _ => j.switched

/-- What the window has made of the frame at `place`: one tick, or two if the first one was rendered
while every field was to be output. -/
structure Turn (accepted : List Frame) (place : Nat) (ticks : List Tick) : Prop where
  of_frame : ∀ t ∈ ticks, t.place = place ∧ accepted[place]? = some t.frame
  shape : (∃ only, ticks = [only] ∧ only.second = false) ∨
    ∃ first second, ticks = [first, second] ∧ first.second = false ∧ second.second = true ∧
      first.rendered = true ∧ first.doubling = true

end Journal

/-- Makes calls one after the other and writes them down. -/
def Session.follow (s : Session σ) (calls : List (Session.Call σ)) : Journal σ :=
  calls.foldl Journal.next { session := s }

/-! ## What single calls do to the window -/

namespace Session

/-- Negotiation touches nothing of the window but its depths and its mode. -/
theorem window_configure (s : Session σ) :
    s.configure.window = s.window ∨ ∃ backward forward mode,
      s.configure.window = (s.window.setDepths backward forward).setMode mode := by
  rw [configure_eq]
  rcases Chain.configure_cases s.chain s.context s.deinterlacing s.window s.device with
    ⟨-, heq⟩ | ⟨-, later, -, heq⟩ | ⟨-, -, caps, later, -, heq⟩
  · exact .inl (by rw [heq]; rfl)
  · exact .inr ⟨0, 0, .passThrough, by rw [heq]; rfl⟩
  · exact .inr ⟨_, _, _, by rw [heq]; rfl⟩

theorem secondField_configure (s : Session σ) :
    s.configure.window.secondField = s.window.secondField := by
  rcases s.window_configure with heq | ⟨backward, forward, mode, heq⟩ <;> exact heq ▸ rfl

theorem standsAt_configure {s : Session σ} {accepted : List Frame} {passed : Nat}
    (h : s.window.StandsAt accepted passed) : s.configure.window.StandsAt accepted passed := by
  rcases s.window_configure with heq | ⟨backward, forward, mode, heq⟩ <;> rw [heq]
  · exact h
  · exact (h.setDepths backward forward).setMode mode

/-- A frame on the device is taken in as it is. -/
theorem taken?_of_hardware (s : Session σ) {frame : Frame} (h : frame.format.isHardware = true) :
    s.taken? (.input (some frame)) = some frame := by
  have heq : s.input (some frame) = (.ok (), s.configure.pushFrame frame) := by
    simp only [input, h, if_true]
  simp [taken?, heq, pushFrame, Window.push]

/-- An input leaves the window standing among what has been taken in then. -/
theorem standsAt_input {s : Session σ} {accepted : List Frame} {passed : Nat}
    (h : s.window.StandsAt accepted passed) (frame : Option Frame) :
    (s.input frame).2.window.StandsAt (accepted ++ (s.taken? (.input frame)).toList) passed := by
  have hconf := standsAt_configure h
  rcases s.input_cases frame with ⟨rfl, heq⟩ | ⟨given, rfl, hhard, heq⟩ |
    ⟨given, uploaded, device, rfl, -, heq⟩ | ⟨given, e, device, rfl, -, heq⟩
  · rw [heq]
    simpa [taken?] using hconf.finish
  · rw [s.taken?_of_hardware hhard, heq]
    exact hconf.push given
  · have htaken : s.taken? (.input (some given)) = some uploaded := by
      simp [taken?, heq, pushFrame, Window.push]
    rw [htaken, heq]
    exact hconf.push uploaded
  · have htaken : s.taken? (.input (some given)) = none := by simp [taken?, heq]
    rw [htaken, heq]
    simpa using hconf

theorem secondField_input (s : Session σ) (frame : Option Frame) :
    (s.input frame).2.window.secondField = s.window.secondField := by
  rw [← s.secondField_configure]
  rcases s.input_cases frame with ⟨-, heq⟩ | ⟨given, -, -, heq⟩ |
    ⟨given, uploaded, device, -, -, heq⟩ | ⟨given, e, device, -, -, heq⟩ <;> exact heq ▸ rfl

theorem gave?_map (picture : Except Error Frame) : gave? (picture.map some) = some picture := by
  cases picture <;> rfl

theorem hasOutput_of_none {s : Session σ} (h : s.output.1 = .ok none) :
    s.window.hasOutput = false := by
  rcases s.output_cases with ⟨hout, -⟩ | ⟨frame, -, -, -, heq⟩ |
    ⟨frame, picture, device, stats, -, -, -, -, heq⟩
  · exact hout
  · rw [heq] at h
    cases h
  · rw [heq] at h
    cases picture <;> cases h

/-! ## What single calls do to the chain -/

theorem filters_configure (s : Session σ) : s.configure.chain.options = s.chain.options ∧
    s.configure.chain.descriptors = s.chain.descriptors := by
  rw [configure_eq]
  rcases Chain.configure_cases s.chain s.context s.deinterlacing s.window s.device with
    ⟨-, heq⟩ | ⟨-, later, -, heq⟩ | ⟨-, -, caps, later, -, heq⟩ <;> rw [heq] <;> exact ⟨rfl, rfl⟩

theorem chain_input (s : Session σ) (frame : Option Frame) :
    (s.input frame).2.chain = s.configure.chain := by
  rcases s.input_cases frame with ⟨-, heq⟩ | ⟨given, -, -, heq⟩ |
    ⟨given, uploaded, device, -, -, heq⟩ | ⟨given, e, device, -, -, heq⟩ <;> exact heq ▸ rfl

theorem chain_perform (s : Session σ) {call : Call σ} (hcall : call.keepsStream = true)
    (hinput : ∀ frame, call ≠ .input frame) : (s.perform call).chain = s.chain := by
  have hout : s.output.2.chain = s.chain := by
    rcases s.output_cases with ⟨-, heq⟩ | ⟨frame, -, -, -, heq⟩ |
      ⟨frame, picture, device, stats, -, -, -, -, heq⟩ <;> rw [heq] <;> rfl
  cases call with
  | input frame => exact absurd rfl (hinput frame)
  | output => exact hout
  | take =>
    obtain ⟨-, device, heq⟩ := s.take_cases
    show s.take.2.chain = s.chain
    rw [heq]
    exact hout
  | seek => cases hcall
  | reconfigure params => cases hcall
  | switch on =>
    show (s.setDeinterlacing on).2.chain = s.chain
    unfold setDeinterlacing
    split <;> rfl
  | alter change => rfl

/-- Only an input, and a new stream, change the chain. -/
theorem chain_perform_cases (s : Session σ) (call : Call σ) :
    (∃ frame, call = .input frame ∧ (s.perform call).chain = s.configure.chain) ∨
    (∃ params, call = .reconfigure params ∧ (s.perform call).chain = s.chain.invalidate) ∨
    ((∀ frame, call ≠ .input frame) ∧ (∀ params, call ≠ .reconfigure params) ∧
      (s.perform call).chain = s.chain) := by
  have hkept : call.keepsStream = true → (∀ frame, call ≠ .input frame) →
      (s.perform call).chain = s.chain := s.chain_perform
  have hinput : ∀ frame, (s.perform (.input frame)).chain = s.configure.chain := s.chain_input
  cases call with
  | input frame => exact .inl ⟨frame, rfl, hinput frame⟩
  | reconfigure params => exact .inr (.inl ⟨params, rfl, s.chain_reconfigure params⟩)
  | seek => exact .inr (.inr ⟨by simp, by simp, rfl⟩)
  | output | take | switch | alter =>
    have hothers := hkept rfl (by simp)
    exact .inr (.inr ⟨by simp, by simp, hothers⟩)

/-- The options and the filters of a pipeline are settled when it is opened. -/
theorem filters_perform (s : Session σ) (call : Call σ) :
    (s.perform call).chain.options = s.chain.options ∧
      (s.perform call).chain.descriptors = s.chain.descriptors := by
  rcases s.chain_perform_cases call with ⟨frame, -, heq⟩ | ⟨params, -, heq⟩ | ⟨-, -, heq⟩ <;>
    rw [heq]
  · exact s.filters_configure
  · exact ⟨rfl, rfl⟩
  · exact ⟨rfl, rfl⟩

end Session

/-! ## The account of a run -/

namespace Journal

theorem Turn.append {accepted : List Frame} {place : Nat} {ticks : List Tick}
    (h : Turn accepted place ticks) (more : List Frame) : Turn (accepted ++ more) place ticks where
  of_frame t ht := by
    obtain ⟨hplace, hframe⟩ := h.of_frame t ht
    refine ⟨hplace, ?_⟩
    rw [List.getElem?_append_left (List.getElem?_eq_some_iff.1 hframe).1]
    exact hframe
  shape := h.shape

theorem turn_concat {accepted : List Frame} {turns : List (List Tick)} {last : List Tick}
    (h : ∀ n turn, turns[n]? = some turn → Turn accepted n turn)
    (hlast : Turn accepted turns.length last) :
    ∀ n turn, (turns ++ [last])[n]? = some turn → Turn accepted n turn := by
  intro n turn hturn
  rcases Nat.lt_trichotomy n turns.length with hlt | rfl | hgt
  · rw [List.getElem?_append_left hlt] at hturn
    exact h n turn hturn
  · rw [List.getElem?_concat_length] at hturn
    cases hturn
    exact hlast
  · have hout : (turns ++ [last]).length ≤ n := by simpa using Nat.succ_le_of_lt hgt
    rw [List.getElem?_eq_none hout] at hturn
    cases hturn

/-- What the ticks of a window amount to: `turns` are those of the frames that it has passed, and
`begun` is the tick of the current frame, if its second field is still to come. -/
structure Account (w : Window) (accepted : List Frame) (ticks : List Tick) (passed : Nat)
    (turns : List (List Tick)) (begun : List Tick) : Prop where
  stands : w.StandsAt accepted passed
  ticks_eq : ticks = turns.flatten ++ begun
  length_eq : turns.length = passed
  turn : ∀ n turn, turns[n]? = some turn → Turn accepted n turn
  none_begun : w.secondField = false → begun = []
  one_begun : w.secondField = true → ∃ first, begun = [first] ∧ Turn accepted passed [first] ∧
    first.rendered = true ∧ first.doubling = true

namespace Account

variable {w later : Window} {accepted : List Frame} {ticks : List Tick} {passed : Nat}
  {turns : List (List Tick)} {begun : List Tick}

/-- The account stays the same while the window does not move on. -/
theorem stay (h : Account w accepted ticks passed turns begun) {more : List Frame}
    (hstand : later.StandsAt (accepted ++ more) passed)
    (hsecond : later.secondField = w.secondField) :
    Account later (accepted ++ more) ticks passed turns begun where
  stands := hstand
  ticks_eq := h.ticks_eq
  length_eq := h.length_eq
  turn n turn hturn := (h.turn n turn hturn).append more
  none_begun hnone := h.none_begun (hsecond ▸ hnone)
  one_begun hone := by
    obtain ⟨first, hbegun, hfirst, hrest⟩ := h.one_begun (hsecond ▸ hone)
    exact ⟨first, hbegun, hfirst.append more, hrest⟩

/-- A tick with which the window moves on to the next frame ends a turn. -/
theorem endTurn (h : Account w accepted ticks passed turns begun) {t : Tick}
    (hplace : t.place = passed) (hframe : accepted[passed]? = some t.frame)
    (hsecond : t.second = w.secondField) (hstand : later.StandsAt accepted (passed + 1))
    (hlater : later.secondField = false) :
    Account later accepted (ticks ++ [t]) (passed + 1) (turns ++ [begun ++ [t]]) [] where
  stands := hstand
  ticks_eq := by simp [h.ticks_eq]
  length_eq := by simp [h.length_eq]
  none_begun _ := rfl
  one_begun hone := by
    rw [hlater] at hone
    cases hone
  turn := by
    refine turn_concat h.turn ?_
    rw [h.length_eq]
    have hlast : t.place = passed ∧ accepted[passed]? = some t.frame := ⟨hplace, hframe⟩
    cases hw : w.secondField with
    | false =>
      rw [h.none_begun hw]
      exact ⟨by simpa using hlast, .inl ⟨t, rfl, hsecond.trans hw⟩⟩
    | true =>
      obtain ⟨first, hbegun, hfirst, hrendered, hdoubling⟩ := h.one_begun hw
      have hzero : first.second = false := by
        obtain ⟨only, honly, hfalse⟩ | ⟨a, b, hab, -⟩ := hfirst.shape
        · cases honly
          exact hfalse
        · cases hab
      rw [hbegun]
      refine ⟨?_, .inr ⟨first, t, rfl, hzero, hsecond.trans hw, hrendered, hdoubling⟩⟩
      intro u hu
      rcases List.mem_append.1 hu with hu | hu
      · exact hfirst.of_frame u hu
      · rw [List.mem_singleton.1 hu]
        exact hlast

/-- A rendered tick with which the window goes to the second field begins a turn. -/
theorem beginTurn (h : Account w accepted ticks passed turns begun) {t : Tick}
    (hplace : t.place = passed) (hframe : accepted[passed]? = some t.frame)
    (hsecond : t.second = false) (hw : w.secondField = false) (hrendered : t.rendered = true)
    (hdoubling : t.doubling = true) (hstand : later.StandsAt accepted passed)
    (hlater : later.secondField = true) :
    Account later accepted (ticks ++ [t]) passed turns [t] where
  stands := hstand
  ticks_eq := by rw [h.ticks_eq, h.none_begun hw, List.append_nil]
  length_eq := h.length_eq
  turn := h.turn
  none_begun hnone := by
    rw [hlater] at hnone
    cases hnone
  one_begun _ := by
    refine ⟨t, rfl, ⟨?_, .inl ⟨t, rfl, hsecond⟩⟩, hrendered, hdoubling⟩
    intro u hu
    rw [List.mem_singleton.1 hu]
    exact ⟨hplace, hframe⟩

end Account

def Accounted (j : Journal σ) : Prop :=
  ∃ passed turns begun, Account j.session.window j.accepted j.ticks passed turns begun

theorem exists_account_output {j : Journal σ} {passed : Nat} {turns : List (List Tick)}
    {begun : List Tick} (h : Account j.session.window j.accepted j.ticks passed turns begun) :
    ∃ passed turns begun, Account j.session.output.2.window j.accepted
      (j.ticks ++ (j.tick? .output).toList) passed turns begun := by
  rcases j.session.output_cases with ⟨-, heq⟩ | ⟨frame, hout, hcur, hpass, heq⟩ |
    ⟨frame, picture, device, stats, hout, hcur, hpass, -, heq⟩
  · have htick : j.tick? .output = none := by simp [tick?, heq, Session.gave?]
    refine ⟨passed, turns, begun, ?_⟩
    rw [htick, heq]
    simpa using h
  · have hlt := h.stands.lt_of_hasOutput hout
    have htick : j.tick? .output = some (j.tick frame (.ok frame)) := by
      simp [tick?, heq, Session.gave?, hcur]
    refine ⟨passed + 1, turns ++ [begun ++ [j.tick frame (.ok frame)]], [], ?_⟩
    rw [htick, heq]
    exact h.endTurn h.stands.passed_eq.symm (h.stands.current?_eq ▸ hcur) rfl
      (h.stands.advanceFrame hlt) (Window.secondField_advanceFrame (h.stands.current?_isSome.2 hlt))
  · have hlt := h.stands.lt_of_hasOutput hout
    have hsome := h.stands.current?_isSome.2 hlt
    have htick : j.tick? .output = some (j.tick frame picture) := by
      simp [tick?, heq, Session.gave?_map, hcur]
    have hstand := h.stands.advanceField hlt
    have hlater := Window.secondField_advanceField hsome
    rw [htick, heq]
    cases hsecond : j.session.window.hasSecondField with
    | false =>
      rw [hsecond] at hstand hlater
      exact ⟨passed + 1, turns ++ [begun ++ [j.tick frame picture]], [],
        h.endTurn h.stands.passed_eq.symm (h.stands.current?_eq ▸ hcur) rfl hstand hlater⟩
    | true =>
      rw [hsecond] at hstand hlater
      simp only [Window.hasSecondField, Bool.and_eq_true, Bool.not_eq_true'] at hsecond
      have hrendered : (j.tick frame picture).rendered = true := by simp [tick, hpass]
      exact ⟨passed, turns, [j.tick frame picture],
        h.beginTurn h.stands.passed_eq.symm (h.stands.current?_eq ▸ hcur) hsecond.1.1 hsecond.1.1
          hrendered hsecond.1.2 hstand hlater⟩

theorem Accounted.next {j : Journal σ} (hj : j.Accounted) {call : Session.Call σ}
    (hcall : call.keepsStream = true) : (j.next call).Accounted := by
  obtain ⟨passed, turns, begun, h⟩ := hj
  -- calls that neither take a frame in nor ask for an output leave the window alone
  have halone : ∀ {window : Window}, window = j.session.window →
      ∃ passed turns begun,
        Account window (j.accepted ++ []) (j.ticks ++ []) passed turns begun := by
    intro window heq
    refine ⟨passed, turns, begun, ?_⟩
    rw [heq, List.append_nil, List.append_nil]
    exact h
  cases call with
  | input frame =>
    refine ⟨passed, turns, begun, ?_⟩
    show Account (j.session.input frame).2.window _ (j.ticks ++ []) passed turns begun
    rw [List.append_nil]
    exact h.stay (Session.standsAt_input h.stands frame) (j.session.secondField_input frame)
  | output =>
    have hout := exists_account_output h
    rwa [← List.append_nil j.accepted] at hout
  | take =>
    obtain ⟨-, device, heq⟩ := j.session.take_cases
    have hout := exists_account_output h
    rw [← List.append_nil j.accepted] at hout
    show ∃ passed turns begun, Account j.session.take.2.window _ _ passed turns begun
    rw [heq]
    exact hout
  | seek => cases hcall
  | reconfigure params => cases hcall
  | switch on =>
    have hwindow : (j.session.setDeinterlacing on).2.window = j.session.window := by
      unfold Session.setDeinterlacing
      split <;> rfl
    exact halone hwindow
  | alter change => exact halone rfl

theorem Account.exists_all {w : Window} {accepted : List Frame} {ticks : List Tick} {passed : Nat}
    {turns : List (List Tick)} {begun : List Tick}
    (h : Account w accepted ticks passed turns begun) :
    ∃ all : List (List Tick), ticks = all.flatten ∧ passed ≤ all.length ∧
      all.length ≤ accepted.length ∧ ∀ n turn, all[n]? = some turn → Turn accepted n turn := by
  have hlen := h.length_eq
  cases hsecond : w.secondField with
  | false =>
    have hticks := h.ticks_eq
    rw [h.none_begun hsecond, List.append_nil] at hticks
    exact ⟨turns, hticks, Nat.le_of_eq hlen.symm, hlen ▸ h.stands.passed_le, h.turn⟩
  | true =>
    obtain ⟨first, hbegun, hfirst, -⟩ := h.one_begun hsecond
    have hlt := h.stands.second_lt hsecond
    refine ⟨turns ++ [begun], by simp [h.ticks_eq], by simp [hlen], ?_, ?_⟩
    · simpa [hlen] using Nat.succ_le_of_lt hlt
    · exact turn_concat h.turn (by rwa [hlen, hbegun])

theorem account_reconfigure (s : Session σ) (params : StreamParams) :
    Account (s.reconfigure params).2.window [] [] 0 [] [] := by
  rw [s.window_reconfigure params]
  exact ⟨.flush s.window, rfl, rfl, by simp, fun _ => rfl, fun hone => by cases hone⟩

theorem accounted_follow (s : Session σ) (params : StreamParams) {calls : List (Session.Call σ)}
    (hcalls : ∀ c ∈ calls, c.keepsStream = true) :
    ((s.reconfigure params).2.follow calls).Accounted :=
  List.foldlRecOn calls next ⟨0, [], [], account_reconfigure s params⟩
    fun _ hj call hcall => Accounted.next hj (hcalls call hcall)

theorem accepted_foldl {calls : List (Session.Call σ)} (j : Journal σ)
    (hhard : ∀ frame, .input (some frame) ∈ calls → frame.format.isHardware = true) :
    (calls.foldl next j).accepted = j.accepted ++ calls.filterMap (·.given?) := by
  induction calls generalizing j with
  | nil => simp
  | cons call calls ih =>
    have hrest := ih (j.next call) fun frame hframe => hhard frame (List.mem_cons_of_mem _ hframe)
    have htaken : j.session.taken? call = call.given? := by
      cases call with
      | input frame =>
        cases frame with
        | none => rfl
        | some frame => exact Session.taken?_of_hardware _ (hhard frame List.mem_cons_self)
      | _ => rfl
    rw [List.foldl_cons, hrest]
    show j.accepted ++ (j.session.taken? call).toList ++ _ = _
    rw [htaken, List.append_assoc]
    cases hgiven : call.given? <;> simp [hgiven]

/-- A stream that has ended has ended until a frame is given. -/
theorem ended_next {j : Journal σ} (h : j.session.window.ended = true) {call : Session.Call σ}
    (hcall : call.keepsStream = true) (hnone : ∀ frame, call ≠ .input (some frame)) :
    (j.next call).session.window.ended = true := by
  have hout : j.session.output.2.window.ended = true := by
    rcases j.session.output_cases with ⟨-, heq⟩ | ⟨frame, -, -, -, heq⟩ |
      ⟨frame, picture, device, stats, -, -, -, -, heq⟩ <;> rw [heq]
    · exact h
    · exact (Window.ended_advanceFrame _).trans h
    · exact (Window.ended_advanceField _).trans h
  cases call with
  | input frame =>
    cases frame with
    | none => rfl
    | some frame => exact absurd rfl (hnone frame)
  | output => exact hout
  | take =>
    obtain ⟨-, device, heq⟩ := j.session.take_cases
    show j.session.take.2.window.ended = true
    rw [heq]
    exact hout
  | seek => cases hcall
  | reconfigure params => cases hcall
  | switch on =>
    show (j.session.setDeinterlacing on).2.window.ended = true
    unfold Session.setDeinterlacing
    split <;> exact h
  | alter change => exact h

/-- **Frames come out in order, once or twice, and all of them.** In a run on one stream the ticks
are the turns of the frames taken in, of the first one, the next one and so on, one or two ticks
each. Frames on the device are taken in as they are given. Once the end of the stream has been
announced and there is no further output, every frame has had its turn. -/
theorem exists_turns (s : Session σ) (params : StreamParams) (calls : List (Session.Call σ))
    (hcalls : ∀ c ∈ calls, c.keepsStream = true) :
    ∃ turns : List (List Tick),
      ((s.reconfigure params).2.follow calls).ticks = turns.flatten ∧
      turns.length ≤ ((s.reconfigure params).2.follow calls).accepted.length ∧
      (∀ n turn, turns[n]? = some turn →
        Turn ((s.reconfigure params).2.follow calls).accepted n turn) ∧
      ((∀ frame, .input (some frame) ∈ calls → frame.format.isHardware = true) →
        ((s.reconfigure params).2.follow calls).accepted = calls.filterMap (·.given?)) ∧
      (∀ before after, calls = before ++ .input none :: after →
        (∀ frame, .input (some frame) ∉ after) →
        ((s.reconfigure params).2.follow calls).session.output.1 = .ok none →
        turns.length = ((s.reconfigure params).2.follow calls).accepted.length) := by
  obtain ⟨passed, turns, begun, haccount⟩ := accounted_follow s params hcalls
  obtain ⟨all, hticks, hpassed, hall, hturn⟩ := haccount.exists_all
  refine ⟨all, hticks, hall, hturn, fun hhard => ?_, fun before after hsplit hafter hdone => ?_⟩
  · exact accepted_foldl _ hhard
  · have hended : ((s.reconfigure params).2.follow calls).session.window.ended = true := by
      subst hsplit
      rw [Session.follow, List.foldl_append, List.foldl_cons]
      refine List.foldlRecOn (motive := fun k => k.session.window.ended = true) after next ?_
        fun k hk call hcall => ended_next hk (hcalls call (by simp [hcall])) ?_
      · rfl
      · exact fun frame hframe => hafter frame (hframe ▸ hcall)
    have hlast := haccount.stands.passed_eq_length hended (Session.hasOutput_of_none hdone)
    exact Nat.le_antisymm hall (hlast ▸ hpassed)

/-- Two interlaced frames. The first one loses its second field to a device error, and
deinterlacing is switched off between the two fields of the other one. -/
def interrupted : List (Session.Call Simulator) :=
  [.input (some { Frame.decoded ⟨1⟩ 720 576 with fields := ⟨3⟩ }), .take,
    .input (some { Frame.decoded ⟨2⟩ 720 576 with fields := ⟨3⟩ }),
    .alter (·.failOn .beginPicture), .take, .alter Simulator.clearFailures, .take,
    .switch false, .input none, .take]

/-- Two turns of two ticks each in a run that is interrupted. -/
theorem exists_turns_of_interrupted :
    ∃ s : Session Simulator, Session.open? {} {} = .ok s ∧
      (∀ c ∈ interrupted, c.keepsStream = true) ∧
      ((s.reconfigure (.hardware 720 576 720 576)).2.follow interrupted).ticks.map (·.place) =
        [0, 0, 1, 1] ∧
      ∃ turns : List (List Tick),
        ((s.reconfigure (.hardware 720 576 720 576)).2.follow interrupted).ticks =
          turns.flatten ∧ turns.length = 2 := by
  refine ⟨_, rfl, by decide, by decide, ?_⟩
  obtain ⟨turns, hticks, -, -, -, hall⟩ :=
    exists_turns _ (.hardware 720 576 720 576) interrupted (by decide)
  exact ⟨turns, hticks, hall (interrupted.take 8) [.take] rfl (by simp) rfl⟩

end Journal

end Deinterlace
