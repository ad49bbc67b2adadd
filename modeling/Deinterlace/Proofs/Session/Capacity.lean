import Deinterlace.Proofs.Session.Exhaustion
import Deinterlace.Proofs.Simulator.Settings

/-!
# How many surfaces a stream needs

A stream of frames in memory goes through a session. Each frame is given when there is nothing more
to output, and pictures are given back at once (`Session.Streams`). Uploads and pictures take their
surfaces from one pool. A window that waits for frames holds as many as it keeps of earlier ones,
and as many as it looks ahead, but at least one (`Window.StandsAt.length_of_idle`): a second field
waits for its successor even if nothing else is to follow. The frame that arrives is one more, and
the target of a picture another one. So a pool that lends that many surfaces at once never runs out
(`Session.ample`).
-/
namespace Deinterlace

/-- The frame is an image in memory. -/
def Frame.InMemory (f : Frame) : Prop := f.format.isHardware = false ∧ f.surface? = none

theorem Frame.InMemory.holding?_eq {f : Frame} (h : f.InMemory) : f.holding? = none := by
  rw [Frame.holding?, h.2]
  rfl

/-- How many frames there may be before the current one, and how many a window waits for. -/
def Window.span (w : Window) : Nat := w.backwardDepth + max w.forwardDepth 1

/-- A window that has nothing to output holds no more frames than it spans. -/
theorem Window.StandsAt.length_of_idle {w : Window} {pushed : List Frame} {passed : Nat}
    (h : w.StandsAt pushed passed) (hidle : w.hasOutput = false) : w.frames.length ≤ w.span := by
  have hcursor := h.cursor_le_depth
  unfold Window.span
  by_cases hcur : w.cursor < w.frames.length
  · have hneeds : w.needsInput = true := by
      simpa [Window.hasOutput, w.current?_isSome.2 hcur] using hidle
    have hwaiting : w.waiting < w.lookahead := by
      simp only [Window.needsInput, Bool.and_eq_true, decide_eq_true_eq] at hneeds
      exact hneeds.1
    have hahead : w.lookahead ≤ max w.forwardDepth 1 := by
      unfold Window.lookahead
      split <;> omega
    unfold Window.waiting at hwaiting
    omega
  · omega

variable {σ : Type} [Device σ]

namespace Session

/-- What comes of a session while a stream of frames in memory goes through it: a frame, or the end
of the stream, is given when there is nothing to output, and pictures are given back at once. -/
inductive Streams (s : Session σ) : Session σ → Prop
  | start : Streams s s
  | input {t : Session σ} {frame : Option Frame} (h : Streams s t)
      (hidle : t.window.hasOutput = false) (hframe : ∀ x, frame = some x → x.InMemory) :
      Streams s (t.input frame).2
  | take {t : Session σ} (h : Streams s t) : Streams s t.take.2

/-- The session has been given nothing yet, or it has settled on the depths on which it settles when
it is given the first frame. -/
structure Confined (s t : Session σ) : Prop where
  pool_eq : t.pool = s.pool
  agrees : t.Agrees
  stands : ∃ pushed passed, t.window.StandsAt pushed passed
  begun : t = s ∨ t.Settled ∧ t.window.backwardDepth = s.configure.window.backwardDepth ∧
    t.window.forwardDepth = s.configure.window.forwardDepth
  length_le : t.window.frames.length ≤ s.configure.window.span + 1

/-- Nothing but another stream gives a session another pool. -/
theorem pool_perform (s : Session σ) (call : Call σ) (h : ∀ params, call ≠ .reconfigure params) :
    (s.perform call).pool = s.pool := by
  have hdeed : ∀ params, Deed.call call ≠ .call (.reconfigure params) := fun params heq =>
    h params (Deed.call.inj heq)
  exact (Custody.params_next (c := { session := s }) hdeed).2

theorem depths_input (s : Session σ) (frame : Option Frame) :
    (s.input frame).2.window.backwardDepth = s.configure.window.backwardDepth ∧
      (s.input frame).2.window.forwardDepth = s.configure.window.forwardDepth := by
  rcases s.input_cases frame with ⟨-, heq⟩ | ⟨given, -, -, heq⟩ |
    ⟨given, uploaded, device, -, -, heq⟩ | ⟨given, e, device, -, -, heq⟩ <;>
    exact heq ▸ ⟨rfl, rfl⟩

/-- An input adds at most the one frame to the window. -/
theorem length_input_le (s : Session σ) (frame : Option Frame) :
    (s.input frame).2.window.frames.length ≤ s.configure.window.frames.length + 1 := by
  have hpush : ∀ given, (s.configure.window.push given).frames.length =
      s.configure.window.frames.length + 1 := by
    intro given
    simp [Window.push]
  rcases s.input_cases frame with ⟨-, heq⟩ | ⟨given, -, -, heq⟩ |
    ⟨given, uploaded, device, -, -, heq⟩ | ⟨given, e, device, -, -, heq⟩ <;> rw [heq]
  · exact Nat.le_succ _
  · exact Nat.le_of_eq (hpush given)
  · exact Nat.le_of_eq (hpush uploaded)
  · exact Nat.le_succ _

theorem length_output_le (s : Session σ) :
    s.output.2.window.frames.length ≤ s.window.frames.length := by
  rw [window_output]
  split
  · split
    · exact s.window.frames_advanceFrame_suffix.length_le
    · exact s.window.frames_advanceField_suffix.length_le
  · exact Nat.le_refl _

namespace Confined

variable {s t : Session σ} (hstand : s.window.StandsAt [] 0)

include hstand

omit [Device σ] in
theorem idle_start : s.window.frames = [] ∧ s.window.hasOutput = false := by
  have hcurrent : s.window.current? = none := hstand.current?_eq
  refine ⟨by simpa using hstand.frames_eq, ?_⟩
  simp [Window.hasOutput, hcurrent]

theorem start (hagrees : s.Agrees) : Confined s s where
  pool_eq := rfl
  agrees := hagrees
  stands := ⟨[], 0, hstand⟩
  begun := .inl rfl
  length_le := by
    rw [(idle_start hstand).1]
    exact Nat.zero_le _

/-- When a session that has nothing to output is asked to take a frame, it has the depths that it
keeps, and room for one more frame. -/
theorem configure (h : Confined s t) (hidle : t.window.hasOutput = false) :
    (t.configure.window.backwardDepth = s.configure.window.backwardDepth ∧
      t.configure.window.forwardDepth = s.configure.window.forwardDepth) ∧
    t.configure.window.hasOutput = false ∧
    t.configure.window.frames.length ≤ s.configure.window.span := by
  obtain ⟨pushed, passed, hstands⟩ := h.stands
  rcases h.begun with rfl | ⟨hsettled, hdepths⟩
  · have hconf := standsAt_configure hstand
    have hcurrent : t.configure.window.current? = none := hconf.current?_eq
    have hnone : t.configure.window.frames = [] := by simpa using hconf.frames_eq
    refine ⟨⟨rfl, rfl⟩, by simp [Window.hasOutput, hcurrent], ?_⟩
    rw [hnone]
    exact Nat.zero_le _
  · rw [configure_of_last hsettled]
    refine ⟨hdepths, hidle, ?_⟩
    have hlength := hstands.length_of_idle hidle
    unfold Window.span at hlength ⊢
    rw [hdepths.1, hdepths.2] at hlength
    exact hlength

theorem input (h : Confined s t) (hidle : t.window.hasOutput = false) (frame : Option Frame) :
    Confined s (t.input frame).2 where
  pool_eq := (t.pool_perform (.input frame) nofun).trans h.pool_eq
  agrees := h.agrees.perform (.input frame)
  stands := standsAt_perform h.stands (.input frame)
  begun := by
    obtain ⟨⟨hbackward, hforward⟩, -⟩ := h.configure hstand hidle
    obtain ⟨hbackward', hforward'⟩ := t.depths_input frame
    exact .inr ⟨settled_input h.agrees frame, hbackward'.trans hbackward,
      hforward'.trans hforward⟩
  length_le := by
    obtain ⟨-, -, hlength⟩ := h.configure hstand hidle
    have hinput := t.length_input_le frame
    omega

theorem take (h : Confined s t) : Confined s t.take.2 where
  pool_eq := (t.pool_perform .take nofun).trans h.pool_eq
  agrees := h.agrees.perform .take
  stands := standsAt_perform h.stands .take
  begun := by
    rcases h.begun with rfl | ⟨hsettled, hbackward, hforward⟩
    · rw [take_of_idle (idle_start hstand).2]
      exact .inl rfl
    · obtain ⟨-, device, heq⟩ := t.take_cases
      rw [heq]
      refine .inr ⟨?_, t.backwardDepth_output.trans hbackward,
        t.forwardDepth_output.trans hforward⟩
      show t.output.2.Settled
      rw [Settled, t.chain_output, t.deinterlacing_output]
      exact hsettled
  length_le := by
    obtain ⟨-, device, heq⟩ := t.take_cases
    rw [heq]
    exact Nat.le_trans t.length_output_le h.length_le

end Confined

namespace Streams

variable {s t : Session σ}

theorem confined (ht : s.Streams t) (hstand : s.window.StandsAt [] 0) (hagrees : s.Agrees) :
    Confined s t := by
  induction ht with
  | start => exact .start hstand hagrees
  | @input t frame _ hidle _ ih => exact ih.input hstand hidle frame
  | take _ ih => exact ih.take hstand

/-- What the device upholds, a stream keeps. -/
theorem obeys {u : Fixtures} {law : Device.Law σ} {frames : List Frame} (ht : s.Streams t)
    (hlaw : Device.Upholds u law) (h : s.Obeys u law frames) : t.Obeys u law frames := by
  have hnext : ∀ {t : Session σ} (call : Call σ), t.Obeys u law frames →
      (Custody.mk t frames).Permits (fun _ => False) (.call call) →
      (t.perform call).Obeys u law ((t.gained? call).toList ++ frames) := fun _ h hcall =>
    Custody.obeys_next (c := ⟨_, frames⟩) hlaw (fun _ hchange => hchange.elim) h hcall
  induction ht with
  | start => exact h
  | @input t frame _ _ hframe ih =>
    exact hnext (.input frame) ih fun given hgiven => (hframe given hgiven).holding?_eq
  | take _ ih => exact hnext .take ih trivial

end Streams

end Session

/-! ## Where errors come from -/

/-- A picture fails because there is no surface to render onto, or none with a number, or because
the submission fails. -/
theorem Rendering.render_error {context : ContextId} {c : Chain} {w : Window} {pool : PoolId}
    {current : Frame} {d later : σ} {e : Error}
    (h : render context c w (some pool) current d = (.error e, later)) :
    (∃ cause lent, Device.allocate pool d = (.error cause, lent) ∧
      e = .allocationFailed cause.describe) ∨
    e = .allocationFailed "pool returned an invalid surface" ∨
    ∃ cause, e = .submissionFailed cause := by
  unfold render at h
  split at h
  · cases h
    exact .inr (.inr ⟨_, rfl⟩)
  · dsimp only at h
    rcases hallocate : Device.allocate pool d with ⟨cause | target, lent⟩ <;> rw [hallocate] at h
    · cases h
      exact .inl ⟨cause, _, rfl, rfl⟩
    · dsimp only at h
      split at h
      · cases h
        exact .inr (.inl rfl)
      · split at h
        · cases h
          exact .inr (.inr ⟨_, rfl⟩)
        · cases h

/-- An upload fails because there is no surface, or because the frame cannot be copied. -/
theorem Session.upload_error {pool : PoolId} {frame : Frame} {d later : σ} {e : Error}
    (h : upload (some pool) frame d = (.error e, later)) :
    ∃ cause, e = .allocationFailed cause.describe ∧
      ((∃ lent, Device.allocate pool d = (.error cause, lent)) ∨
        ∃ (surface : Surface) (lent copied : σ),
          Device.upload pool surface frame lent = (.error cause, copied)) := by
  unfold upload at h
  dsimp only at h
  rcases hallocate : Device.allocate pool d with ⟨cause | surface, lent⟩ <;> rw [hallocate] at h
  · cases h
    exact ⟨cause, rfl, .inl ⟨_, rfl⟩⟩
  · dsimp only at h
    rcases hupload : Device.upload pool surface frame lent with ⟨cause | _, copied⟩ <;>
      rw [hupload] at h
    · cases h
      exact ⟨cause, rfl, .inr ⟨surface, _, _, hupload⟩⟩
    · cases h

/-! ## Pools that do not run out -/

/-- While the law holds and fewer than `room` shares are out, the device does not say that `pool` is
out of surfaces, in the words of the error `lack`. Nothing else fails in these words. -/
structure Device.Lends (law : Device.Law σ) (pool : PoolId) (room : Nat) (lack : DeviceError) :
    Prop where
  allocate {held : List Holding} {d later : σ} {e : DeviceError} : law (some pool) held d →
    held.length < room → Device.allocate pool d = (.error e, later) → e.describe ≠ lack.describe
  upload {target : Surface} {frame : Frame} {d later : σ} {e : DeviceError} :
    Device.upload pool target frame d = (.error e, later) → e.describe ≠ lack.describe
  blank : "pool returned an invalid surface" ≠ lack.describe

namespace Session

section Ample

variable {u : Fixtures} {law : Device.Law σ} {pool : PoolId} {room : Nat} {lack : DeviceError}
  {s t : Session σ} (hlaw : Device.Upholds u law) (hlends : Device.Lends law pool room lack)

omit [Device σ] in
theorem length_holdings_le (frames : List Frame) : (holdings frames).length ≤ frames.length :=
  List.length_filterMap_le _ _

include hlends

theorem Obeys.output_ne (h : s.Obeys u law []) (hpool : s.pool = some pool)
    (hroom : s.window.frames.length < room) :
    s.output.1 ≠ .error (.allocationFailed lack.describe) := by
  have hholds := h.holds
  rw [hpool, List.append_nil] at hholds
  rcases s.output_cases with ⟨-, heq⟩ | ⟨frame, -, -, -, heq⟩ |
    ⟨frame, picture, device, stats, -, -, -, hrender, heq⟩ <;> rw [heq]
  · exact nofun
  · exact nofun
  · rw [hpool] at hrender
    cases picture with
    | ok picture => exact nofun
    | error e =>
      intro hlack
      have he : e = .allocationFailed lack.describe := Except.error.inj hlack
      subst he
      rcases Rendering.render_error hrender with ⟨cause, lent, hallocate, heq⟩ | heq | ⟨_, heq⟩
      · have hheld := Nat.lt_of_le_of_lt (length_holdings_le _) hroom
        exact hlends.allocate hholds hheld hallocate (Error.allocationFailed.inj heq).symm
      · exact hlends.blank (Error.allocationFailed.inj heq).symm
      · cases heq

include hlaw

theorem Obeys.input_ne (h : s.Obeys u law []) (hpool : s.pool = some pool)
    (hroom : s.configure.window.frames.length < room) (frame : Option Frame) :
    (s.input frame).1 ≠ .error (.allocationFailed lack.describe) := by
  have hconf := (h.configure hlaw).holds
  have hsame : s.configure.pool = some pool := hpool
  rw [hsame, List.append_nil] at hconf
  intro hlack
  unfold Session.input at hlack
  cases frame with
  | none => cases hlack
  | some frame =>
    dsimp only at hlack
    split at hlack
    · cases hlack
    · rw [hsame] at hlack
      rcases hupload : upload (some pool) frame s.configure.device with ⟨e | uploaded, device⟩ <;>
        rw [hupload] at hlack
      · have he : e = .allocationFailed lack.describe := Except.error.inj hlack
        subst he
        obtain ⟨cause, heq, ⟨lent, hallocate⟩ | ⟨surface, lent, copied, hcopy⟩⟩ :=
          upload_error hupload
        · have hheld := Nat.lt_of_le_of_lt (length_holdings_le _) hroom
          exact hlends.allocate hconf hheld hallocate (Error.allocationFailed.inj heq).symm
        · exact hlends.upload hcopy (Error.allocationFailed.inj heq).symm
      · cases hlack

end Ample

/-! ## Feeding a stream -/

/-- Draining is part of a stream. -/
theorem Drains.streams {s t later : Session σ} {results : List (Except Error Frame)}
    (h : t.Drains results later) (ht : s.Streams t) :
    s.Streams later ∧ ∀ r ∈ results, ∃ t, s.Streams t ∧ gave? t.take.1 = some r := by
  induction h with
  | done => exact ⟨ht.take, by simp⟩
  | @more t later result rest hgave _ ih =>
    obtain ⟨hlater, hrest⟩ := ih ht.take
    refine ⟨hlater, fun r hr => ?_⟩
    rcases List.mem_cons.1 hr with rfl | hr
    · exact ⟨t, ht, hgave⟩
    · exact hrest r hr

/-- Feeding frames in memory is a stream, and its results are those of calls in the stream. -/
theorem Feeds.streams {s t later : Session σ} {frames : List (Option Frame)}
    {inputs : List (Except Error Unit)} {outputs : List (Except Error Frame)}
    (h : t.Feeds frames inputs outputs later) (ht : s.Streams t)
    (hstand : s.window.StandsAt [] 0) (hagrees : s.Agrees) (hidle : t.window.hasOutput = false)
    (hframes : ∀ x, some x ∈ frames → x.InMemory) :
    (∀ r ∈ inputs, ∃ t frame, s.Streams t ∧ t.window.hasOutput = false ∧ (t.input frame).1 = r) ∧
      ∀ r ∈ outputs, ∃ t, s.Streams t ∧ gave? t.take.1 = some r := by
  induction h with
  | done => exact ⟨by simp, by simp⟩
  | @refused t later frame frames e inputs outputs hinput _ ih =>
    have hgiven := ht.input hidle fun x hx => hframes x (hx ▸ List.mem_cons_self)
    have hstill : (t.input frame).2.window.hasOutput = false := by
      obtain ⟨-, hconf, -⟩ := (ht.confined hstand hagrees).configure hstand hidle
      rcases t.input_cases frame with ⟨-, heq⟩ | ⟨given, -, -, heq⟩ |
        ⟨given, uploaded, device, -, -, heq⟩ | ⟨given, e, device, -, -, heq⟩
      · exact absurd hinput (heq ▸ nofun)
      · exact absurd hinput (heq ▸ nofun)
      · exact absurd hinput (heq ▸ nofun)
      · rw [heq]
        exact hconf
    obtain ⟨hinputs, houtputs⟩ :=
      ih hgiven hstill fun x hx => hframes x (List.mem_cons_of_mem _ hx)
    refine ⟨fun r hr => ?_, houtputs⟩
    rcases List.mem_cons.1 hr with rfl | hr
    · exact ⟨t, frame, ht, hidle, hinput⟩
    · exact hinputs r hr
  | @taken t drained later frame frames inputs first rest hinput hdrains _ ih =>
    have hgiven := ht.input hidle fun x hx => hframes x (hx ▸ List.mem_cons_self)
    obtain ⟨hdrained, hfirst⟩ := hdrains.streams hgiven
    obtain ⟨hinputs, hrest⟩ :=
      ih hdrained hdrains.hasOutput_eq fun x hx => hframes x (List.mem_cons_of_mem _ hx)
    refine ⟨fun r hr => ?_, fun r hr => ?_⟩
    · rcases List.mem_cons.1 hr with rfl | hr
      · exact ⟨t, frame, ht, hidle, hinput⟩
      · exact hinputs r hr
    · rcases List.mem_append.1 hr with hr | hr
      · exact hfirst r hr
      · exact hrest r hr

/-! ## Streams that never run out of surfaces -/

/-- While a stream goes through the session, it keeps `backward` earlier frames and looks `forward`
frames ahead. It never holds more frames than these and one more, or two if it does not look ahead,
and no call fails because the pool is out of surfaces, in the words of the error `lack`. -/
structure Ample (s : Session σ) (backward forward : Nat) (lack : DeviceError) : Prop where
  depths : ∀ t, s.Streams t → t.window.frames ≠ [] →
    t.window.backwardDepth = backward ∧ t.window.forwardDepth = forward
  length_le : ∀ t, s.Streams t → t.window.frames.length ≤ backward + max forward 1 + 1
  input_ne : ∀ t, s.Streams t → t.window.hasOutput = false → ∀ frame,
    (t.input frame).1 ≠ .error (.allocationFailed lack.describe)
  take_ne : ∀ t, s.Streams t → t.take.1 ≠ .error (.allocationFailed lack.describe)
  /-- A whole stream, fed frame by frame to its end. -/
  feeds_ne : ∀ (frames : List Frame) inputs outputs later, (∀ x ∈ frames, x.InMemory) →
    s.Feeds (frames.map some ++ [none]) inputs outputs later →
    (∀ r ∈ inputs, r ≠ .error (.allocationFailed lack.describe)) ∧
      ∀ r ∈ outputs, r ≠ .error (.allocationFailed lack.describe)

/-- **A pool that lends enough surfaces at once never runs out.** -/
theorem ample {u : Fixtures} {law : Device.Law σ} {pool : PoolId} {room : Nat}
    {lack : DeviceError} {s : Session σ} (hlaw : Device.Upholds u law)
    (hlends : Device.Lends law pool room lack) (hstand : s.window.StandsAt [] 0)
    (hagrees : s.Agrees) (hobeys : s.Obeys u law []) (hpool : s.pool = some pool)
    (hroom : s.configure.window.span + 2 ≤ room) :
    s.Ample s.configure.window.backwardDepth s.configure.window.forwardDepth lack := by
  have hinput : ∀ t, s.Streams t → t.window.hasOutput = false → ∀ frame,
      (t.input frame).1 ≠ .error (.allocationFailed lack.describe) := by
    intro t ht hidle frame
    have hconfined := ht.confined hstand hagrees
    obtain ⟨-, -, hspan⟩ := hconfined.configure hstand hidle
    exact (ht.obeys hlaw hobeys).input_ne hlaw hlends (hconfined.pool_eq.trans hpool) (by omega)
      frame
  have htake : ∀ t, s.Streams t → t.take.1 ≠ .error (.allocationFailed lack.describe) := by
    intro t ht
    have hconfined := ht.confined hstand hagrees
    have hlength := hconfined.length_le
    rw [t.take_cases.1]
    exact (ht.obeys hlaw hobeys).output_ne hlends (hconfined.pool_eq.trans hpool) (by omega)
  refine ⟨fun t ht hheld => ?_, fun t ht => (ht.confined hstand hagrees).length_le, hinput, htake,
    fun frames inputs outputs later hframes hfeeds => ?_⟩
  · rcases (ht.confined hstand hagrees).begun with rfl | ⟨-, hdepths⟩
    · exact absurd (Confined.idle_start hstand).1 hheld
    · exact hdepths
  · obtain ⟨hinputs, houtputs⟩ := hfeeds.streams .start hstand hagrees
      (Confined.idle_start hstand).2 fun x hx => hframes x (by simpa using hx)
    refine ⟨fun r hr => ?_, fun r hr => ?_⟩
    · obtain ⟨t, frame, ht, hidle, rfl⟩ := hinputs r hr
      exact hinput t ht hidle frame
    · obtain ⟨t, ht, hgave⟩ := houtputs r hr
      rintro rfl
      refine htake t ht ?_
      rcases htaken : t.take.1 with e | _ | picture <;> rw [htaken] at hgave <;> cases hgave
      rfl

end Session

end Deinterlace
