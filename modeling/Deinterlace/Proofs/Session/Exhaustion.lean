import Deinterlace.Proofs.Device.Recorded
import Deinterlace.Proofs.Session.Feeding
import Mathlib.Data.Nat.Find

/-!
# Asking until there is nothing

Outputs come to an end by themselves. Each one that gives something, be it an error, leaves less to
output, whatever the device does, so asking again and again gives nothing in the end
(`Session.exhausted_of_calls`). From then on nothing changes: an output that gives nothing does
nothing, and does not even ask the device.
-/
namespace Deinterlace

variable {σ : Type} [Device σ]

namespace Session

variable {s : Session σ}

/-- The session that is asked for the `n`th picture after this one, counted from zero, on a device
that has changed in some way before each of them. -/
def pulled (s : Session σ) (changes : Nat → σ → σ) : Nat → Session σ
  | 0 => s.perform (.alter (changes 0))
  | n + 1 => (s.pulled changes n).output.2.perform (.alter (changes (n + 1)))

theorem output_eq_none_iff : s.output.1 = .ok none ↔ s.window.hasOutput = false := by
  constructor
  · intro h
    rcases s.output_cases with ⟨hout, -⟩ | ⟨frame, -, -, -, heq⟩ |
      ⟨frame, picture, device, stats, -, -, -, -, heq⟩
    · exact hout
    · rw [heq] at h
      cases h
    · rw [heq] at h
      cases picture <;> cases h
  · intro h
    rw [output_of_idle h]

/-- An output that gives nothing asks nothing of the device. -/
theorem operations_of_idle (h : s.window.hasOutput = false) : s.operations .output = [] := by
  have hidle : s.recorded.output = (.ok none, s.recorded) := output_of_idle h
  simp only [operations, Call.recorded, perform, hidle]
  rfl

theorem backwardDepth_output (s : Session σ) :
    s.output.2.window.backwardDepth = s.window.backwardDepth := by
  rw [window_output]
  split
  · split
    · exact s.window.backwardDepth_advanceFrame
    · exact s.window.backwardDepth_advanceField
  · rfl

/-- While every output has given something, each of them has left less. -/
theorem ticksLeft_pulled (s : Session σ) (changes : Nat → σ → σ) {n : Nat}
    (h : ∀ i < n, (s.pulled changes i).window.hasOutput = true) :
    (s.pulled changes n).window.ticksLeft + n ≤ s.window.ticksLeft := by
  induction n with
  | zero => exact Nat.le_refl _
  | succ n ih =>
    have hbefore := ih fun i hi => h i (by omega)
    have hless := ticksLeft_output (h n (Nat.lt_succ_self n))
    simp only [pulled, perform]
    omega

/-- Once an output has given nothing no later one gives anything. -/
theorem hasOutput_pulled (s : Session σ) (changes : Nat → σ → σ) {n : Nat}
    (h : (s.pulled changes n).window.hasOutput = false) (later : Nat) (hlater : n ≤ later) :
    (s.pulled changes later).window.hasOutput = false := by
  induction later, hlater using Nat.le_induction with
  | base => exact h
  | succ later _ ih =>
    simp only [pulled, perform, output_of_idle ih]
    exact ih

/-- Outputs leave the settings of the window alone, and the window standing. -/
theorem settings_pulled (s : Session σ) (changes : Nat → σ → σ)
    (h : ∃ pushed passed, s.window.StandsAt pushed passed) (n : Nat) :
    (∃ pushed passed, (s.pulled changes n).window.StandsAt pushed passed) ∧
      (s.pulled changes n).window.ended = s.window.ended ∧
      (s.pulled changes n).window.backwardDepth = s.window.backwardDepth := by
  induction n with
  | zero => exact ⟨h, rfl, rfl⟩
  | succ n ih =>
    obtain ⟨hstands, hended, hdepth⟩ := ih
    exact ⟨standsAt_perform hstands .output, ((s.pulled changes n).ended_output).trans hended,
      ((s.pulled changes n).backwardDepth_output).trans hdepth⟩

/-- There is a first output that gives nothing. -/
theorem exists_exhausted (s : Session σ) (changes : Nat → σ → σ) :
    ∃ n, n ≤ s.window.ticksLeft ∧
      (∀ i < n, (s.pulled changes i).window.hasOutput = true) ∧
      (s.pulled changes n).window.hasOutput = false := by
  have hends : ∃ n, (s.pulled changes n).window.hasOutput = false := by
    by_contra hnever
    simp only [not_exists, Bool.not_eq_false] at hnever
    have hleft := s.ticksLeft_pulled changes (n := s.window.ticksLeft + 1) fun i _ => hnever i
    omega
  have hbefore : ∀ i < Nat.find hends, (s.pulled changes i).window.hasOutput = true :=
    fun i hi => by simpa using Nat.find_min hends hi
  have hleft := s.ticksLeft_pulled changes hbefore
  exact ⟨Nat.find hends, by omega, hbefore, Nat.find_spec hends⟩

/-- **Asking again and again gives nothing in the end.** Wherever a session has come to, and
whatever the device does from then on, there are at most two outputs for each frame that is pending,
one less if the current frame is on its second field, before they give nothing; then they go on
giving nothing. If the stream has ended, no frame is pending then, and no more frames are held than
earlier ones are asked for. An output that gives nothing leaves the session as it is and asks
nothing of the device. -/
theorem exhausted_of_calls {options : Options} {device : σ} {opened : Session σ}
    (hopen : open? options device = .ok opened) {calls : List (Call σ)}
    (hs : calls.foldl perform opened = s) (changes : Nat → σ → σ) :
    (∃ n, n + s.window.secondField.toNat ≤ 2 * s.window.pending ∧
      (∀ i < n, (s.pulled changes i).output.1 ≠ .ok none) ∧
      (∀ i, n ≤ i → (s.pulled changes i).output.1 = .ok none) ∧
      (s.window.ended = true → (s.pulled changes n).window.pending = 0 ∧
        (s.pulled changes n).window.frames.length ≤ s.window.backwardDepth)) ∧
    (s.output.1 = .ok none → s.output.2 = s ∧ s.operations .output = []) := by
  have hstands : ∃ pushed passed, s.window.StandsAt pushed passed := hs ▸ standsAt_calls hopen calls
  refine ⟨?_, fun hnone => ?_⟩
  · obtain ⟨n, hn, hbefore, hnone⟩ := s.exists_exhausted changes
    refine ⟨n, ?_, fun i hi => ?_, fun i hi => ?_, fun hended => ?_⟩
    · obtain ⟨pushed, passed, hstand⟩ := hstands
      have hpending := hstand.pending_eq
      unfold Window.ticksLeft at hn
      cases hsecond : s.window.secondField with
      | false =>
        rw [hsecond] at hn
        exact hn
      | true =>
        have hlt := hstand.second_lt hsecond
        rw [hsecond] at hn
        simp only [Bool.toNat_true] at hn ⊢
        omega
    · rw [Ne, output_eq_none_iff, hbefore i hi]
      simp
    · exact output_eq_none_iff.2 (s.hasOutput_pulled changes hnone i hi)
    · obtain ⟨⟨pushed, passed, hstand⟩, hended', hdepth⟩ := s.settings_pulled changes hstands n
      have hall := hstand.passed_eq_length (hended'.trans hended) hnone
      have hpending := hstand.pending_eq
      have hcursor := hstand.cursor_le_depth
      have hzero : (s.pulled changes n).window.pending = 0 := by omega
      refine ⟨hzero, ?_⟩
      unfold Window.pending at hzero
      omega
  · have hidle := output_eq_none_iff.1 hnone
    exact ⟨congrArg Prod.snd (output_of_idle hidle), operations_of_idle hidle⟩

/-- A stream that has ended when its first frame is on its second field. -/
def halfShown : List (Call Simulator) :=
  [.reconfigure (.hardware 720 576 720 576), .input (some (Frame.decoded ⟨1⟩ 720 576)),
    .input (some (Frame.decoded ⟨2⟩ 720 576)), .input (some (Frame.decoded ⟨3⟩ 720 576)), .output,
    .input none]

/-- Outputs come to an end also when rendering fails from the second one on. -/
theorem exhausted_of_halfShown :
    ∃ s, open? { interlacedOnly := false } ({} : Simulator) = .ok s ∧
      ∃ n ≤ 5, ∀ t, (halfShown.foldl perform s).pulled
          (fun i d => if i = 1 then d.failOn .beginPicture else d) n = t →
        t.output.1 = .ok none ∧ t.window.pending = 0 := by
  obtain ⟨s, hs⟩ : ∃ s, open? { interlacedOnly := false } ({} : Simulator) = .ok s := ⟨_, rfl⟩
  have hreached : halfShown.foldl perform s = halfShown.foldl perform s := rfl
  obtain ⟨⟨n, hn, -, hnone, hended⟩, -⟩ := exhausted_of_calls hs hreached
    fun i d => if i = 1 then d.failOn .beginPicture else d
  have hpending : (halfShown.foldl perform s).window.pending = 3 ∧
      (halfShown.foldl perform s).window.secondField = true ∧
      (halfShown.foldl perform s).window.ended = true := by
    cases hs
    decide
  obtain ⟨hthree, hsecond, hend⟩ := hpending
  rw [hthree, hsecond] at hn
  refine ⟨s, hs, n, Nat.le_of_succ_le_succ hn, ?_⟩
  rintro t rfl
  exact ⟨hnone n (Nat.le_refl n), (hended hend).1⟩

end Session

end Deinterlace
