import Deinterlace.Proofs.Session.Upkeep
import Deinterlace.Proofs.Window.History
import Deinterlace.Window.Trim

/-!
# Windows without pictures

What a window does next depends on the times and the flags of its frames and on how many there are,
and never on what they show. `Window.blank` takes the surfaces and the images away; every question
about a window has the same answer afterwards, and every operation may as well come first
(`Window.blank_apply`). So two windows that hold the same frames on different surfaces
(`Window.Twin`) stay in step, and let go of frames at the same places (`Window.Twin.leave`).
-/
namespace Deinterlace

/-- The frame with nothing to show. -/
def Frame.blank (f : Frame) : Frame := { f with content := .surface ⟨.invalid, 0, 0, none⟩ }

namespace Window

/-- The window with nothing on its frames. -/
def blank (w : Window) : Window := { w with frames := w.frames.map (·.blank) }

variable (w : Window)

theorem current?_blank : w.blank.current? = w.current?.map (·.blank) :=
  List.getElem?_map

theorem length_blank : w.blank.frames.length = w.frames.length := List.length_map _

@[simp] theorem needsInput_blank : w.blank.needsInput = w.needsInput := by
  simp only [needsInput, waiting, length_blank]
  rfl

@[simp] theorem hasOutput_blank : w.blank.hasOutput = w.hasOutput := by
  simp only [hasOutput, current?_blank, Option.isSome_map, needsInput_blank]

@[simp] theorem shouldDeinterlace_blank : w.blank.shouldDeinterlace = w.shouldDeinterlace := by
  simp only [shouldDeinterlace, hasOutput_blank, current?_blank, Option.any_map]
  rfl

@[simp] theorem topFieldFirst_blank : w.blank.topFieldFirst = w.topFieldFirst := by
  simp only [topFieldFirst, hasOutput_blank, current?_blank, Option.any_map]
  rfl

@[simp] theorem fieldOf_blank : Rendering.fieldOf w.blank = Rendering.fieldOf w := by
  simp only [Rendering.fieldOf, isTopField, shouldDeinterlace_blank, hasOutput_blank,
    topFieldFirst_blank]
  rfl

@[simp] theorem hasSecondField_blank : w.blank.hasSecondField = w.hasSecondField := by
  simp only [hasSecondField, shouldDeinterlace_blank]
  rfl

@[simp] theorem currentPts_blank : w.blank.currentPts = w.currentPts := by
  have hnext : w.blank.frames[w.blank.cursor + 1]? =
      (w.frames[w.cursor + 1]?).map (·.blank) := List.getElem?_map
  have htime : w.blank.current?.bind (·.pts) = w.current?.bind (·.pts) := by
    rw [current?_blank, Option.bind_map]
    rfl
  simp only [currentPts, htime, hnext]
  cases w.frames[w.cursor + 1]? <;> rfl

theorem stepTo?_blank (frame : Frame) : w.blank.stepTo? frame.blank = w.stepTo? frame := by
  have hlast : w.blank.frames.getLast?.bind (·.pts) = w.frames.getLast?.bind (·.pts) := by
    show (w.frames.map (·.blank)).getLast?.bind (·.pts) = _
    rw [List.getLast?_map, Option.bind_map]
    rfl
  simp only [stepTo?, hlast]
  rfl

theorem blank_trim : w.trim.blank = w.blank.trim := by
  simp only [blank, trim, List.map_drop]

theorem blank_push (frame : Frame) : (w.push frame).blank = w.blank.push frame.blank := by
  simp only [push, stepTo?_blank]
  simp [blank]

theorem blank_advanceFrame : w.advanceFrame.blank = w.blank.advanceFrame := by
  unfold advanceFrame
  rw [current?_blank, Option.isNone_map]
  split
  · rfl
  · exact blank_trim _

theorem blank_advanceField : w.advanceField.blank = w.blank.advanceField := by
  unfold advanceField
  rw [current?_blank, Option.isNone_map, hasSecondField_blank]
  split
  · rfl
  · split
    · rfl
    · exact w.blank_advanceFrame

/-- The operation, without what its frame shows. -/
def Operation.blank : Operation → Operation
  | .push frame => .push frame.blank
  | op => op

/-- **What a window does, it does without looking at pictures.** -/
theorem blank_apply (op : Operation) : (w.apply op).blank = w.blank.apply op.blank := by
  cases op with
  | push frame => exact w.blank_push frame
  | finish => rfl
  | advanceFrame => exact w.blank_advanceFrame
  | advanceField => exact w.blank_advanceField
  | flush => rfl
  | setDepths backward forward => exact blank_trim _
  | setMode mode => rfl

/-- The windows hold the frames `inside`, the left ones and the right ones, and agree apart from
what these show. -/
structure Twin (inside : List (Frame × Frame)) (w x : Window) : Prop where
  left : w.frames = inside.map (·.1)
  right : x.frames = inside.map (·.2)
  blank_eq : x.blank = w.blank

namespace Twin

variable {inside : List (Frame × Frame)} {w x later later' : Window}

theorem hasOutput_eq (h : Twin inside w x) : x.hasOutput = w.hasOutput := by
  rw [← hasOutput_blank, h.blank_eq, hasOutput_blank]

theorem shouldDeinterlace_eq (h : Twin inside w x) :
    x.shouldDeinterlace = w.shouldDeinterlace := by
  rw [← shouldDeinterlace_blank, h.blank_eq, shouldDeinterlace_blank]

theorem topFieldFirst_eq (h : Twin inside w x) : x.topFieldFirst = w.topFieldFirst := by
  rw [← topFieldFirst_blank, h.blank_eq, topFieldFirst_blank]

theorem fieldOf_eq (h : Twin inside w x) : Rendering.fieldOf x = Rendering.fieldOf w := by
  rw [← fieldOf_blank, h.blank_eq, fieldOf_blank]

theorem currentPts_eq (h : Twin inside w x) : x.currentPts = w.currentPts := by
  rw [← currentPts_blank, h.blank_eq, currentPts_blank]

theorem cursor_eq (h : Twin inside w x) : x.cursor = w.cursor := congrArg (·.cursor) h.blank_eq

theorem length_eq (h : Twin inside w x) : x.frames.length = w.frames.length := by
  rw [h.left, h.right, List.length_map, List.length_map]

/-- At a place there are frames in both windows or in neither. -/
theorem frameAt?_cases (h : Twin inside w x) (offset : Int) :
    w.frameAt? offset = none ∧ x.frameAt? offset = none ∨
      ∃ p ∈ inside, w.frameAt? offset = some p.1 ∧ x.frameAt? offset = some p.2 := by
  unfold frameAt?
  rw [h.cursor_eq, h.left, h.right]
  dsimp only
  split
  · exact .inl ⟨rfl, rfl⟩
  · rw [List.getElem?_map, List.getElem?_map]
    cases hp : inside[((w.cursor : Int) + offset).toNat]? with
    | none => exact .inl ⟨rfl, rfl⟩
    | some p => exact .inr ⟨p, List.mem_of_getElem? hp, rfl, rfl⟩

/-- Where there is a current frame, there is one in both windows. -/
theorem current?_some (h : Twin inside w x) {f : Frame} (hcur : w.current? = some f) :
    ∃ g, (f, g) ∈ inside ∧ x.current? = some g := by
  rw [← frameAt?_zero] at hcur ⊢
  rcases h.frameAt?_cases 0 with ⟨hnone, -⟩ | ⟨p, hp, hf, hg⟩
  · cases hnone.symm.trans hcur
  · cases hf.symm.trans hcur
    exact ⟨p.2, hp, hg⟩

theorem push (h : Twin inside w x) {f g : Frame} (hblank : g.blank = f.blank) :
    Twin (inside ++ [(f, g)]) (w.push f) (x.push g) where
  left := by
    show w.frames ++ [f] = _
    rw [h.left, List.map_append]
    rfl
  right := by
    show x.frames ++ [g] = _
    rw [h.right, List.map_append]
    rfl
  blank_eq := by rw [blank_push, blank_push, h.blank_eq, hblank]

theorem finish (h : Twin inside w x) : Twin inside w.finish x.finish :=
  ⟨h.left, h.right, (x.blank_apply .finish).trans
    ((congrArg Window.finish h.blank_eq).trans (w.blank_apply .finish).symm)⟩

/-- Windows that let go of their oldest frames, and of equally many, let go of the same ones. -/
theorem leave (h : Twin inside w x) (hsuffix : later.frames <:+ w.frames)
    (hsuffix' : later'.frames <:+ x.frames) (hblank : later'.blank = later.blank) :
    ∃ gone rest, inside = gone ++ rest ∧ w.retired later = gone.map (·.1) ∧
      x.retired later' = gone.map (·.2) ∧ Twin rest later later' := by
  have hlength : later'.frames.length = later.frames.length := by
    rw [← length_blank, hblank, length_blank]
  have hleft := retired_append hsuffix
  have hright := retired_append hsuffix'
  have hgone : w.retired later =
      (inside.take (w.frames.length - later.frames.length)).map (·.1) := by
    rw [retired, List.map_take, ← h.left]
  have hgone' : x.retired later' =
      (inside.take (w.frames.length - later.frames.length)).map (·.2) := by
    rw [retired, List.map_take, ← h.right, hlength, h.length_eq]
  refine ⟨inside.take (w.frames.length - later.frames.length),
    inside.drop (w.frames.length - later.frames.length), (List.take_append_drop _ _).symm, hgone,
    hgone', ?_, ?_, hblank⟩
  · rw [h.left, hgone] at hleft
    rw [List.map_drop]
    refine List.append_cancel_left (hleft.trans ?_)
    rw [List.map_take, List.take_append_drop]
  · rw [h.right, hgone'] at hright
    rw [List.map_drop]
    refine List.append_cancel_left (hright.trans ?_)
    rw [List.map_take, List.take_append_drop]

end Twin

end Window

end Deinterlace
