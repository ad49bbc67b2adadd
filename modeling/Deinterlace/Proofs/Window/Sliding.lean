import Deinterlace.Proofs.Window.History

/-!
# The window slides over the stream

What a window shows, said of the frames pushed since the last flush: after any operations it holds
a segment of them that reaches to the newest, and a frame at a distance from the current one is the
one at that distance in the stream, as far as the segment goes (`Chronicle.slides`). Nothing but a
flush takes the current frame or a later one away (`Chronicle.frameAt?_next`), and as long as the
backward depth is left alone the window keeps as many earlier frames as it allows
(`Chronicle.full_of_depth`).
-/
namespace Deinterlace.Window

/-- A frame at a distance from the current one is found in the stream, as long as it is not before
the frames held. -/
theorem StandsAt.frameAt?_eq {w : Window} {pushed : List Frame} {passed : Nat}
    (h : w.StandsAt pushed passed) (k : Int) :
    w.frameAt? k =
      if -(w.cursor : Int) ≤ k ∧ passed + k < pushed.length then pushed[(passed + k).toNat]?
      else none := by
  have hcursor := h.cursor_le
  rcases Int.lt_or_le k (-(w.cursor : Int)) with hbefore | hheld
  · rw [if_neg fun hseen => Int.not_lt.2 hseen.1 hbefore, frameAt?, if_pos (by omega)]
  · have hview : w.frameAt? k = pushed[(passed + k).toNat]? := by
      rcases Int.lt_or_le k 0 with hearlier | hlater
      · obtain ⟨n, rfl⟩ : ∃ n : Nat, k = -(n : Int) := ⟨k.natAbs, by omega⟩
        rw [h.frameAt?_earlier (by omega)]
        congr 1
        omega
      · obtain ⟨n, rfl⟩ := Int.eq_ofNat_of_zero_le hlater
        exact h.frameAt?_later n
    rw [hview]
    split
    · rfl
    · exact List.getElem?_eq_none (by omega)

namespace Chronicle

/-! ## What an operation lets go of -/

theorem pushed_prefix_next (c : Chronicle) {op : Operation} (hop : op ≠ .flush) :
    c.pushed <+: (c.next op).pushed := by
  cases op with
  | push frame =>
    rw [pushed_push]
    exact List.prefix_append _ _
  | flush => exact absurd rfl hop
  | finish | advanceFrame | advanceField | setDepths | setMode => exact List.prefix_rfl

theorem passed_next (c : Chronicle) {op : Operation} (hop : op ≠ .flush) :
    (c.next op).passed = c.passed + (c.window.movesOn op).toNat := by
  have hafter : c.passedAfter op = if c.window.movesOn op then c.passed + 1 else c.passed := by
    cases op with
    | flush => exact absurd rfl hop
    | push | finish | advanceFrame | advanceField | setDepths | setMode => rfl
  show c.passedAfter op = _
  rw [hafter]
  cases c.window.movesOn op <;> rfl

/-- **Only earlier frames are let go of.** The frame that is current after an operation, and those
after it, were there before and are still there. -/
theorem frameAt?_next {c : Chronicle} (h : c.window.StandsAt c.pushed c.passed) {op : Operation}
    (hop : op ≠ .flush) {k : Nat} {frame : Frame}
    (hframe : c.window.frameAt? ((k + (c.window.movesOn op).toNat : Nat) : Int) = some frame) :
    (c.next op).window.frameAt? (k : Int) = some frame := by
  have hlater := c.standsAt_next op h
  rw [h.frameAt?_later] at hframe
  rw [hlater.frameAt?_later, c.passed_next hop]
  have hplace : c.passed + (c.window.movesOn op).toNat + k =
      c.passed + (k + (c.window.movesOn op).toNat) := by omega
  obtain ⟨rest, hrest⟩ := c.pushed_prefix_next hop
  rw [hplace, ← hrest, List.getElem?_append_left (List.getElem?_eq_some_iff.1 hframe).1]
  exact hframe

/-! ## Windows whose depth is left alone -/

theorem full_next {c : Chronicle} (h : c.window.StandsAt c.pushed c.passed)
    (hfull : c.window.Full c.passed) {op : Operation}
    (hdepth : (c.next op).window.backwardDepth = c.window.backwardDepth) :
    (c.next op).window.Full (c.next op).passed := by
  cases op with
  | push | finish | setMode => exact hfull
  | flush => exact .of_zero (.flush c.window)
  | setDepths backward forward =>
    have hsame : backward = c.window.backwardDepth := hdepth
    have hle := h.cursor_le_depth
    unfold Full at hfull ⊢
    show min c.window.cursor backward = min c.passed backward
    rw [hsame]
    omega
  | advanceFrame =>
    cases hcur : c.window.current?.isSome with
    | true =>
      have hmoved := hfull.advanceFrame hcur
      simpa [next, apply, passedAfter, movesOn, hcur] using hmoved
    | false =>
      have hnone : c.window.current? = none := by simpa using hcur
      simpa [next, apply, passedAfter, movesOn, Window.advanceFrame, hnone] using hfull
  | advanceField =>
    cases hcur : c.window.current?.isSome with
    | true =>
      have hmoved := hfull.advanceField hcur
      cases hs : c.window.hasSecondField <;>
        simpa [next, apply, passedAfter, movesOn, hcur, hs] using hmoved
    | false =>
      have hnone : c.window.current? = none := by simpa using hcur
      simpa [next, apply, passedAfter, movesOn, Window.advanceField, hnone] using hfull

/-- A window that has passed nothing yet is full, and stays so while its depth is the same. -/
theorem full_of_depth {before : List Operation} (hbefore : (of before).passed = 0)
    {depth : Nat} (after : List Operation)
    (hdepth : ∀ n, (of (before ++ after.take n)).window.backwardDepth = depth) :
    (of (before ++ after)).window.Full (of (before ++ after)).passed := by
  suffices h : ∀ n, (of (before ++ after.take n)).window.Full
      (of (before ++ after.take n)).passed by
    simpa using h after.length
  intro n
  induction n with
  | zero =>
    have hstand := standsAt before
    rw [hbefore] at hstand
    simpa [hbefore] using Full.of_zero hstand
  | succ n ih =>
    rcases Nat.lt_or_ge n after.length with hlt | hge
    · have hnext : of (before ++ after.take (n + 1)) =
          (of (before ++ after.take n)).next after[n] := by
        rw [List.take_succ_eq_append_getElem hlt, ← List.append_assoc, of, List.foldl_append]
        rfl
      rw [hnext]
      refine full_next (standsAt _) ih ?_
      rw [← hnext, hdepth, hdepth]
    · have hsame : after.take (n + 1) = after.take n := by
        rw [List.take_of_length_le hge, List.take_of_length_le (Nat.le_succ_of_le hge)]
      rw [hsame]
      exact ih

/-! ## The window as a whole -/

/-- **A window slides over its stream.** After any operations, of the frames pushed since the last
flush the window holds those from `cursor` places before the current one on, where the current one
is the frame that it has moved on to; and no more earlier ones than the backward depth allows. A
frame is found at a distance from the current one just if it is among these. No operation but a
flush lets go of the current frame or of a later one. If the backward depth has been `depth` all the
time since the window had passed nothing, as it has after a flush, then all the earlier frames that
this depth allows are held. -/
theorem slides {ops : List Operation} {c : Chronicle} (hc : of ops = c) :
    c.window.cursor ≤ c.window.frames.length ∧
    c.window.cursor ≤ c.window.backwardDepth ∧
    (c.window.secondField = true → c.window.current?.isSome = true) ∧
    (c.window.cursor ≤ c.passed ∧ c.passed ≤ c.pushed.length ∧
      c.window.frames = c.pushed.drop (c.passed - c.window.cursor)) ∧
    (∀ k : Int, c.window.frameAt? k =
      if -(c.window.cursor : Int) ≤ k ∧ c.passed + k < c.pushed.length then
        c.pushed[(c.passed + k).toNat]?
      else none) ∧
    (∀ op, op ≠ .flush → ∀ (k : Nat) frame,
      c.window.frameAt? ((k + (c.window.movesOn op).toNat : Nat) : Int) = some frame →
      (c.next op).window.frameAt? (k : Int) = some frame) ∧
    ∀ before after depth, ops = before ++ after → (of before).passed = 0 →
      (∀ n, (of (before ++ after.take n)).window.backwardDepth = depth) →
      c.window.cursor = min depth c.passed := by
  subst hc
  have hstand := standsAt ops
  have hcursor := hstand.cursor_le
  have hpassed := hstand.passed_le
  have hlength := hstand.length_eq
  refine ⟨by omega, hstand.cursor_le_depth,
    fun hsecond => hstand.current?_isSome.2 (hstand.second_lt hsecond),
    ⟨hcursor, hpassed, hstand.frames_eq⟩, hstand.frameAt?_eq,
    fun op hop k frame hframe => frameAt?_next hstand hop hframe, ?_⟩
  rintro before after depth rfl hbefore hdepth
  have hfull := full_of_depth hbefore after hdepth
  have hlast := hdepth after.length
  rw [List.take_length] at hlast
  unfold Full at hfull
  rw [hfull, hlast, Nat.min_comm]

/-- Four frames, of which the window moves on from the first two, with one earlier frame kept. -/
def fourPushed : List Operation :=
  [1, 2, 3, 4].map (fun n => .push (Frame.decoded ⟨n⟩ 720 576)) ++ [.advanceFrame, .advanceField]

/-- The second and the third frame are held, and the fourth one. -/
theorem slides_of_fourPushed :
    (of (.setDepths 1 0 :: fourPushed)).window.cursor = min 1 2 ∧
      (of (.setDepths 1 0 :: fourPushed)).window.frames =
        (of (.setDepths 1 0 :: fourPushed)).pushed.drop (2 - 1) := by
  obtain ⟨-, -, -, ⟨-, -, hframes⟩, -, -, hsteady⟩ :=
    slides (c := of (.setDepths 1 0 :: fourPushed)) rfl
  refine ⟨hsteady [.setDepths 1 0] fourPushed 1 rfl rfl fun n => ?_, hframes⟩
  match n with
  | 0 | 1 | 2 | 3 | 4 | 5 => rfl
  | n + 6 =>
    rw [List.take_of_length_le (Nat.le_add_left 6 n)]
    rfl

end Chronicle

end Deinterlace.Window
