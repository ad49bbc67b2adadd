import Deinterlace.Proofs.Session.Journal

/-!
# Draining

An output that is given back at once writes at most one tick, and the window has moved on with it:
less is left to output (`Journal.ticksLeft_next_take`). So as many outputs as the window may still
yield leave nothing to output (`Journal.hasOutput_of_drained`).
-/
namespace Deinterlace

variable {σ : Type} [Device σ]

/-- Less is left after every output that gives something. -/
theorem Session.ticksLeft_output {s : Session σ} (h : s.window.hasOutput = true) :
    s.output.2.window.ticksLeft < s.window.ticksLeft := by
  have hcur : s.window.current?.isSome = true := by
    rw [Window.hasOutput, Bool.and_eq_true] at h
    exact h.1
  rw [window_output, if_pos h]
  split
  · exact Window.ticksLeft_advanceFrame_lt hcur
  · exact Window.ticksLeft_advanceField_lt hcur

namespace Journal

/-- Giving a picture back at once makes a difference to the device only. -/
theorem next_take (j : Journal σ) : ∃ device, j.next .take =
    { j.next .output with session := { (j.next .output).session with device } } := by
  obtain ⟨-, device, heq⟩ := j.session.take_cases
  refine ⟨device, ?_⟩
  show Journal.mk j.session.take.2 _ _ _ = _
  rw [heq]
  rfl

theorem next_output_of_none {j : Journal σ} (h : j.session.window.hasOutput = false) :
    j.next .output = j := by
  have hout := Session.output_of_idle h
  simp [next, Session.perform, Session.taken?, tick?, hout, Session.gave?]

theorem next_take_of_none {j : Journal σ} (h : j.session.window.hasOutput = false) :
    j.next .take = j := by
  have hout := Session.output_of_idle h
  simp [next, Session.perform, Session.take, Session.taken?, tick?, hout, Session.gave?]

theorem ticks_next_take {j : Journal σ} {result : Except Error Frame}
    (hgave : Session.gave? j.session.output.1 = some result) :
    ∃ frame, j.session.window.current? = some frame ∧
      (j.next .take).ticks = j.ticks ++ [j.tick frame result] := by
  have hcur : j.session.window.current?.isSome = true := by
    rcases j.session.output_cases with ⟨-, heq⟩ | ⟨frame, -, hcur, -, -⟩ |
      ⟨frame, picture, device, stats, -, hcur, -, -, -⟩
    · rw [heq] at hgave
      cases hgave
    · rw [hcur]
      rfl
    · rw [hcur]
      rfl
  obtain ⟨frame, hframe⟩ := Option.isSome_iff_exists.1 hcur
  exact ⟨frame, hframe, by simp [next, tick?, hframe, hgave]⟩

theorem results_next_take {j : Journal σ} {result : Except Error Frame}
    (hgave : Session.gave? j.session.output.1 = some result) :
    (j.next .take).ticks.map (·.result) = j.ticks.map (·.result) ++ [result] := by
  obtain ⟨frame, -, heq⟩ := ticks_next_take hgave
  rw [heq, List.map_append]
  rfl

theorem ticksLeft_next_take {j : Journal σ} (h : j.session.window.hasOutput = true) :
    (j.next .take).session.window.ticksLeft < j.session.window.ticksLeft := by
  obtain ⟨-, device, heq⟩ := j.session.take_cases
  simp only [next, Session.perform, heq]
  exact Session.ticksLeft_output h

/-- As many outputs as there may be leave nothing to output. -/
theorem hasOutput_of_drained {limit : Nat} {j : Journal σ}
    (h : j.session.window.ticksLeft ≤ limit) :
    ((List.replicate limit Session.Call.take).foldl next j).session.window.hasOutput = false := by
  induction limit generalizing j with
  | zero =>
    have hcur : j.session.window.current? = none := by
      have hsecond := Bool.toNat_le j.session.window.secondField
      unfold Window.ticksLeft Window.pending at h
      exact List.getElem?_eq_none (by omega)
    show j.session.window.hasOutput = false
    simp [Window.hasOutput, hcur]
  | succ limit ih =>
    rw [List.replicate_succ, List.foldl_cons]
    cases hout : j.session.window.hasOutput with
    | true =>
      have hlt := ticksLeft_next_take hout
      exact ih (by omega)
    | false =>
      rw [next_take_of_none hout]
      refine List.foldlRecOn (motive := fun k : Journal σ => k.session.window.hasOutput = false)
        (List.replicate limit .take) next hout fun k hk call hcall => ?_
      rw [List.eq_of_mem_replicate hcall, next_take_of_none hk]
      exact hk

end Journal

end Deinterlace
