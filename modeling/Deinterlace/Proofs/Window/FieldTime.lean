import Deinterlace.Proofs.Window.History

/-!
# The time of a second field

A second field lies half-way between its frame and the next one. While no next frame is there, the
step to it is guessed from the frames pushed before. The plausible steps between neighbours of the
stream are its `strides`. The guess is not simply the latest of them: a window compares a frame
with the newest one it holds, so it does not see the step to a frame that comes when it has let go
of everything. It goes by the latest stride that it has seen (`lastStep_eq`,
`currentPts_secondField`), and this is the latest of all exactly when the window held the earlier
one of that stride's two frames.
-/
namespace Deinterlace.Window

/-- A plausible step between the times of two frames that were pushed one directly after the
other. -/
structure Stride where
  /-- How many frames were pushed before the later one. -/
  place : Nat
  length : Seconds
  /-- Whether the window held the earlier frame when the later one came. -/
  held : Bool

/-- The step between the times of two frames, if it is plausible. -/
def stepBetween? (earlier later : Frame) : Option Seconds :=
  match earlier.pts, later.pts with
  | some time, some next => frameStep? time next
  | _, _ => none

/-- The strides of the frames pushed, latest first. -/
def strides : List Arrival → List Stride
  | later :: earlier :: rest =>
    match stepBetween? earlier.frame later.frame with
    | some length => ⟨rest.length + 1, length, later.held⟩ :: strides (earlier :: rest)
    | none => strides (earlier :: rest)
  | _ => []

/-- The latest stride. -/
def latestStride? (arrivals : List Arrival) : Option Stride := (strides arrivals).head?

/-- The latest stride that a window has seen. -/
def seenStride? (arrivals : List Arrival) : Option Stride :=
  (strides arrivals).find? (·.held)

/-- The time half-way through a step, or the time itself if the step is not known. -/
def midway (time : Seconds) : Option Seconds → Seconds
  | some step => time + step / 2
  | none => time

/-! ## What a window remembers -/

theorem seenStride?_eq_latest_iff (arrivals : List Arrival) :
    seenStride? arrivals = latestStride? arrivals ↔
      ∀ stride, latestStride? arrivals = some stride → stride.held = true := by
  unfold seenStride? latestStride?
  cases hs : strides arrivals with
  | nil => simp
  | cons stride rest =>
    cases hh : stride.held with
    | true => simp [hh]
    | false =>
      -- a stride that is found has been seen, so it is not this one
      have hne : rest.find? (·.held) ≠ some stride := by
        intro hf
        have hseen := List.find?_some hf
        simp [hh] at hseen
      simp [hh, hne]

/-- A window that holds anything holds the frame pushed last. -/
theorem StandsAt.newest_eq {w : Window} {pushed : List Frame} {passed : Nat} {frame : Frame}
    (h : w.StandsAt (pushed ++ [frame]) passed) (hne : w.frames ≠ []) :
    w.frames.getLast? = some frame := by
  have hlen : (pushed ++ [frame]).length ≠ 0 := by simp
  have hf := h.frames_eq
  have hshort : ¬ (pushed ++ [frame]).length ≤ passed - w.cursor := by
    intro hle
    rw [List.drop_eq_nil_of_le hle] at hf
    exact hne hf
  rw [hf, List.getLast?_drop, if_neg hshort, List.getLast?_concat]

theorem stepTo?_of_empty {w : Window} (h : w.frames = []) (frame : Frame) :
    w.stepTo? frame = none := by
  simp [stepTo?, h]

theorem stepTo?_of_newest {w : Window} {last : Frame} (h : w.frames.getLast? = some last)
    (frame : Frame) : w.stepTo? frame = stepBetween? last frame := by
  rw [stepTo?, h, Option.bind_some]
  unfold stepBetween?
  cases last.pts <;> cases frame.pts <;> rfl

/-- One operation keeps the remembered step the length of the latest stride seen. -/
theorem lastStep_next (c : Chronicle) (op : Operation)
    (hstand : c.window.StandsAt c.pushed c.passed)
    (h : c.window.lastStep = (seenStride? c.arrivals).map (·.length)) :
    (c.next op).window.lastStep = (seenStride? (c.next op).arrivals).map (·.length) := by
  cases op with
  | finish => exact h
  | flush => rfl
  | setDepths backward forward => exact h
  | setMode mode => exact h
  | advanceFrame => exact (lastStep_advanceFrame c.window).trans h
  | advanceField => exact (lastStep_advanceField c.window).trans h
  | push frame =>
    show (c.window.stepTo? frame).or c.window.lastStep =
      (seenStride? (⟨frame, !c.window.frames.isEmpty⟩ :: c.arrivals)).map (·.length)
    rw [h]
    cases ha : c.arrivals with
    | nil =>
      have hpushed : c.pushed = [] := by simp [Chronicle.pushed, ha]
      have hempty : c.window.frames = [] := by simp [hstand.frames_eq, hpushed]
      rw [stepTo?_of_empty hempty]
      rfl
    | cons earlier rest =>
      by_cases hempty : c.window.frames = []
      · -- the window has let go of the frame before: the step goes unseen
        rw [stepTo?_of_empty hempty]
        cases hstep : stepBetween? earlier.frame frame <;>
          simp [seenStride?, strides, hstep, hempty]
      · have hpushed : c.pushed = (rest.map (·.frame)).reverse ++ [earlier.frame] := by
          simp [Chronicle.pushed, ha]
        have hnewest := (hpushed ▸ hstand).newest_eq hempty
        rw [stepTo?_of_newest hnewest]
        cases hstep : stepBetween? earlier.frame frame <;>
          simp [seenStride?, strides, hstep, hempty]

/-- **A window remembers the latest stride it has seen.** -/
theorem lastStep_eq (ops : List Operation) :
    (Chronicle.of ops).window.lastStep =
      (seenStride? (Chronicle.of ops).arrivals).map (·.length) := by
  have h := Chronicle.of_induction
    (P := fun c => c.window.StandsAt c.pushed c.passed ∧
      c.window.lastStep = (seenStride? c.arrivals).map (·.length))
    ⟨.empty rfl rfl rfl, rfl⟩
    (fun c op hc => ⟨c.standsAt_next op hc.1, lastStep_next c op hc.1 hc.2⟩) ops
  exact h.2

/-! ## The law of second fields -/

theorem currentPts_of_next {w : Window} {frame next : Frame} {time : Seconds}
    (hcur : w.current? = some frame) (hpts : frame.pts = some time)
    (hsecond : w.secondField = true) (hnext : w.frames[w.cursor + 1]? = some next) :
    w.currentPts = some (midway time (next.pts.bind (frameStep? time))) := by
  simp only [currentPts, hcur, Option.bind_some, hpts, hsecond, if_true, hnext]
  cases next.pts.bind (frameStep? time) <;> rfl

theorem currentPts_of_last {w : Window} {frame : Frame} {time : Seconds}
    (hcur : w.current? = some frame) (hpts : frame.pts = some time)
    (hsecond : w.secondField = true) (hnext : w.frames[w.cursor + 1]? = none) :
    w.currentPts = some (midway time w.lastStep) := by
  simp only [currentPts, hcur, Option.bind_some, hpts, hsecond, if_true, hnext]
  cases w.lastStep <;> rfl

/-- **The time of a second field.** Where the next frame is there, the field lies half-way to it.
Where it is not, the field lies half a stride on, by the latest stride that the window has seen;
this is the latest stride of the stream exactly when the window still held the earlier one of its
two frames as the later one came. -/
theorem currentPts_secondField (ops : List Operation) (frame : Frame) (time : Seconds)
    (hcur : (Chronicle.of ops).window.current? = some frame) (hpts : frame.pts = some time)
    (hsecond : (Chronicle.of ops).window.secondField = true) :
    (∀ next, (Chronicle.of ops).window.frameAt? 1 = some next →
      (Chronicle.of ops).window.currentPts =
        some (midway time (next.pts.bind (frameStep? time)))) ∧
    ((Chronicle.of ops).window.frameAt? 1 = none →
      (Chronicle.of ops).window.currentPts =
        some (midway time ((seenStride? (Chronicle.of ops).arrivals).map (·.length)))) ∧
    (seenStride? (Chronicle.of ops).arrivals = latestStride? (Chronicle.of ops).arrivals ↔
      ∀ stride, latestStride? (Chronicle.of ops).arrivals = some stride →
        stride.held = true) := by
  have hstand := Chronicle.standsAt ops
  have hone : (Chronicle.of ops).window.frameAt? 1 =
      (Chronicle.of ops).window.frames[(Chronicle.of ops).window.cursor + 1]? := by
    rw [hstand.next?_eq]
    exact hstand.frameAt?_later 1
  refine ⟨?_, ?_, seenStride?_eq_latest_iff _⟩
  · intro next hnext
    exact currentPts_of_next hcur hpts hsecond (hone ▸ hnext)
  · intro hnext
    rw [← lastStep_eq]
    exact currentPts_of_last hcur hpts hsecond (hone ▸ hnext)

/-- Half a stride on, at the end of a stream of two frames a quarter of a second apart. -/
theorem currentPts_secondField_of_two :
    ∃ ops frame, (Chronicle.of ops).window.current? = some frame ∧ frame.pts = some 0.5 ∧
      (Chronicle.of ops).window.secondField = true ∧
      (Chronicle.of ops).window.frameAt? 1 = none ∧
      (Chronicle.of ops).window.currentPts =
        some (midway 0.5 ((seenStride? (Chronicle.of ops).arrivals).map (·.length))) :=
  ⟨[.setMode ⟨3⟩, .push { Frame.decoded ⟨1⟩ 720 576 with pts := some 0.25 },
      .push { Frame.decoded ⟨2⟩ 720 576 with pts := some 0.5 },
      .advanceField, .advanceField, .advanceField, .finish], _, rfl, rfl, rfl, rfl,
    (currentPts_secondField _ _ _ rfl rfl rfl).2.1 rfl⟩

/-- **A stride can go unseen.** A frame that passes through leaves a window without depth empty.
The next frame comes a quarter of a second later, and its second field, the last of the stream,
gets its frame's own time and not the one half a stride on. -/
theorem not_midway_of_unseen_stride :
    ¬ ∀ (ops : List Operation) (frame : Frame) (time : Seconds),
      (Chronicle.of ops).window.current? = some frame → frame.pts = some time →
      (Chronicle.of ops).window.secondField = true →
      (Chronicle.of ops).window.frameAt? 1 = none →
      (Chronicle.of ops).window.currentPts =
        some (midway time ((latestStride? (Chronicle.of ops).arrivals).map (·.length))) := by
  intro h
  have hlaw := h
    [.setMode ⟨7⟩, .push { Frame.decoded ⟨1⟩ 720 576 with pts := some 0.25 }, .advanceFrame,
      .push { Frame.decoded ⟨2⟩ 720 576 with pts := some 0.5, fields := ⟨3⟩ }, .advanceField,
      .finish]
    _ 0.5 rfl rfl rfl rfl
  exact absurd hlaw (by decide)

end Deinterlace.Window
