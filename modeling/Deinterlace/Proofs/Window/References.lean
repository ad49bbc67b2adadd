import Deinterlace.Proofs.Window.Segment
import Deinterlace.Rendering

/-!
# References as pieces of the stream

The reference surfaces that are collected from a window are those of the frames next to the current
one in the stream: the later ones as far as they have arrived (`references_later`), the earlier ones
from the start of the stream on, if the window keeps as many as are asked for
(`references_earlier`). What has arrived may be exchanged for the whole stream once there are enough
later frames or no more will come (`laterSurfaces_of_begins`).
-/
namespace Deinterlace

/-- The surfaces of up to `count` frames after the one at `place`, nearest first. -/
def laterSurfaces (frames : List Frame) (place count : Nat) : List SurfaceId :=
  ((frames.drop (place + 1)).take count).map (·.surfaceId)

/-- The surfaces of up to `count` frames before the one at `place`, nearest first. -/
def earlierSurfaces (frames : List Frame) (place count : Nat) : List SurfaceId :=
  ((frames.take place).reverse.take count).map (·.surfaceId)

theorem laterSurfaces_of_begins {accepted frames : List Frame} {place count : Nat}
    (hbegins : accepted <+: frames) (hplace : place < accepted.length)
    (hcount : place + count < accepted.length ∨ accepted = frames) :
    laterSurfaces accepted place count = laterSurfaces frames place count := by
  rcases hcount with hcount | rfl
  · obtain ⟨rest, rfl⟩ := hbegins
    have hlen : count ≤ (accepted.drop (place + 1)).length := by
      rw [List.length_drop]
      omega
    rw [laterSurfaces, laterSurfaces, List.drop_append_of_le_length (by omega),
      List.take_append_of_le_length hlen]
  · rfl

theorem earlierSurfaces_of_begins {accepted frames : List Frame} {place : Nat}
    (hbegins : accepted <+: frames) (hplace : place ≤ accepted.length) (count : Nat) :
    earlierSurfaces accepted place count = earlierSurfaces frames place count := by
  obtain ⟨rest, rfl⟩ := hbegins
  rw [earlierSurfaces, earlierSurfaces, List.take_append_of_le_length hplace]

namespace Rendering

variable {w : Window} {pushed : List Frame} {passed : Nat}

/-- As long as the surfaces seen in one direction are valid, they are collected one after the
other. -/
theorem collectReferences_eq {direction : Int} {ids : List SurfaceId}
    (hvalid : ∀ id ∈ ids, id.isValid = true) (fuel distance : Nat)
    (hseen : ∀ k, (w.frameAt? ((distance + k : Nat) * direction)).map (·.surfaceId) = ids[k]?) :
    collectReferences w direction fuel distance = ids.take fuel := by
  induction fuel generalizing distance ids with
  | zero => rfl
  | succ fuel ih =>
    have hfirst := hseen 0
    rw [Nat.add_zero] at hfirst
    rw [collectReferences]
    cases ids with
    | nil =>
      have hnone : w.frameAt? (distance * direction) = none := by simpa using hfirst
      rw [hnone, List.take_nil]
    | cons id rest =>
      obtain ⟨frame, hframe, rfl⟩ : ∃ frame, w.frameAt? (distance * direction) = some frame ∧
          frame.surfaceId = id := by simpa using hfirst
      have hseen' : ∀ k, (w.frameAt? ((distance + 1 + k : Nat) * direction)).map (·.surfaceId) =
          rest[k]? := by
        intro k
        have hnext := hseen (k + 1)
        rwa [List.getElem?_cons_succ, ← Nat.add_assoc, Nat.add_right_comm] at hnext
      have hrest := ih (fun id hid => hvalid id (List.mem_cons_of_mem _ hid)) (distance + 1) hseen'
      rw [hframe]
      simp only [hvalid frame.surfaceId List.mem_cons_self, if_true, hrest, List.take_succ_cons]

/-- What is seen in one direction is all that counts. -/
theorem references_eq {direction : Int} {ids : List SurfaceId}
    (hvalid : ∀ id ∈ ids, id.isValid = true) (hlen : ids.length ≤ w.frames.length) (count : Nat)
    (hseen : ∀ k, (w.frameAt? ((1 + k : Nat) * direction)).map (·.surfaceId) = ids[k]?) :
    references w count direction = ids.take count := by
  rw [references, collectReferences_eq hvalid _ _ hseen, ← List.take_take,
    List.take_of_length_le hlen]

theorem references_later (h : w.StandsAt pushed passed)
    (hvalid : ∀ x ∈ pushed, x.surfaceId.isValid = true) (count : Nat) :
    references w count 1 = laterSurfaces pushed passed count := by
  have hseen : ∀ k, (w.frameAt? ((1 + k : Nat) * 1)).map (·.surfaceId) =
      ((pushed.drop (passed + 1)).map (·.surfaceId))[k]? := by
    intro k
    rw [Int.mul_one, h.frameAt?_later, List.getElem?_map, List.getElem?_drop, Nat.add_assoc]
  have hids : ∀ id ∈ (pushed.drop (passed + 1)).map (·.surfaceId), id.isValid = true := by
    intro id hid
    obtain ⟨x, hx, rfl⟩ := List.mem_map.1 hid
    exact hvalid x (List.mem_of_mem_drop hx)
  have hlen : ((pushed.drop (passed + 1)).map (·.surfaceId)).length ≤ w.frames.length := by
    have hcursor := h.cursor_le
    rw [List.length_map, List.length_drop, h.length_eq]
    omega
  rw [references_eq hids hlen count hseen, laterSurfaces, List.map_take]

theorem references_earlier (h : w.StandsAt pushed passed) (hfull : w.Full passed)
    (hvalid : ∀ x ∈ pushed, x.surfaceId.isValid = true) {count : Nat}
    (hcount : count ≤ w.backwardDepth) :
    references w count (-1) = earlierSurfaces pushed passed count := by
  have hcursor := h.cursor_le
  have hpassed := h.passed_le
  have hseen : ∀ k, (w.frameAt? ((1 + k : Nat) * -1)).map (·.surfaceId) =
      (((pushed.take passed).reverse.take w.cursor).map (·.surfaceId))[k]? := by
    intro k
    have hoffset : ((1 + k : Nat) : Int) * -1 = -((1 + k : Nat) : Int) := by omega
    rw [hoffset, List.getElem?_map]
    congr 1
    by_cases hk : k < w.cursor
    · have hmirror : k + (passed - (1 + k)) + 1 = (pushed.take passed).length := by
        rw [List.length_take]
        omega
      rw [h.frameAt?_earlier (by omega), List.getElem?_take_of_lt hk,
        List.getElem?_reverse' hmirror, List.getElem?_take_of_lt (by omega)]
    · have hbefore : (w.cursor : Int) + -((1 + k : Nat) : Int) < 0 := by omega
      rw [Window.frameAt?, if_pos hbefore, List.getElem?_eq_none]
      rw [List.length_take]
      omega
  have hids : ∀ id ∈ ((pushed.take passed).reverse.take w.cursor).map (·.surfaceId),
      id.isValid = true := by
    intro id hid
    obtain ⟨x, hx, rfl⟩ := List.mem_map.1 hid
    exact hvalid x (List.mem_of_mem_take (List.mem_reverse.1 (List.mem_of_mem_take hx)))
  have hlen : (((pushed.take passed).reverse.take w.cursor).map (·.surfaceId)).length ≤
      w.frames.length := by
    rw [List.length_map, List.length_take, h.length_eq]
    omega
  -- the window keeps either as many as are asked for or all there are
  have henough : ((pushed.take passed).reverse.take w.cursor).take count =
      (pushed.take passed).reverse.take count := by
    unfold Window.Full at hfull
    rw [List.take_take, List.take_eq_take_iff, List.length_reverse, List.length_take]
    omega
  rw [references_eq hids hlen count hseen, ← List.map_take, henough, earlierSurfaces]

end Rendering

end Deinterlace
