import Deinterlace.Proofs.Va.Housing

/-!
# The requests of a VA device

In the hands of a session a VA device keeps no request for longer than its picture is open, whatever
its driver answers (`Display.upkeep_idle`).
-/
namespace Deinterlace.Va.Display

variable {δ : Type} [Library δ]

/-- Once a submission is over, the driver has no use for its request any more. -/
theorem pending_submit (context : ContextId) (buffer : Option BufferId) (flags : DeintFlags)
    (request : RenderRequest) {d : Display δ} (h : d.pending = []) :
    (Rendering.submit context buffer flags request d).2.pending = [] := by
  have hended : ∀ d : Display δ, (Device.endPicture context d).2.pending = [] := by
    intro d
    simp only [Device.endPicture, Display.endPicture, check]
    split <;> rfl
  rcases Rendering.submit_cases context buffer flags request d with ⟨e, d₁, h₁, heq⟩ |
    ⟨d₁, e, d₂, -, -, heq⟩ | ⟨d₁, d₂, e, d₃, -, -, -, heq⟩ |
    ⟨d₁, d₂, id, d₃, result, d₄, -, -, -, -, heq⟩ <;> rw [heq]
  · have hhears := Hears.beginPicture context request.destination d
    rw [h₁] at hhears
    rw [hhears.2]
    exact h
  · exact hended d₂
  · exact hended d₃
  · exact hended d₄

/-- No request is pending. -/
def Idle (d : Display δ) : Prop := d.pending = []

theorem upkeep_idle : Upkeep (Idle (δ := δ)) where
  leases _ h := h
  modify _ _ _ _ h := h
  leave := by
    intro d i p _ _ h
    have hpending := (d.vacate i p).reclaim_eq.2.2.2
    rw [(vacate_eq d i p).2.2.2.2.1] at hpending
    exact hpending.trans h
  hears := by
    intro d later hhears h
    unfold Idle
    rw [hhears.2]
    exact h
  submit context buffer flags request h := pending_submit context buffer flags request h
  addPool _ h := h
  create _ _ _ _ h := h

theorem obeys_idle {options : Options} {d : Display δ} {c : Custody (Display δ)} (hd : d.Unused)
    (hc : Custody.Reachable Replaces options d c) :
    c.session.Obeys c.session.fixtures (fun pool held d => d.Housed pool none held ∧ d.Idle)
      c.held := by
  refine upkeep_idle.obeys (fun change hchange => ⟨hchange, fun e he => ?_⟩) hd hd.pending hc
  obtain ⟨driver, heq⟩ := hchange e
  rw [heq]
  exact he

end Deinterlace.Va.Display
