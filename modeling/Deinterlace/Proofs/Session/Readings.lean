import Deinterlace.Proofs.Session.Degradation
import Deinterlace.Proofs.Session.Driving
import Deinterlace.Proofs.Session.Moves
import Deinterlace.Proofs.Simulator.Settings

/-!
# What can be read off a session

Between its calls a session tells what it has counted, the stream that it is set up for, its pool,
its switch, what it has negotiated, and its window (`Session.ReadsAlike`). What has been counted and
the stream follow from what the caller has been told (`Custody.stats_move`,
`Custody.params_move`), so callers that are told the same go on reading the same
(`Custody.sameRecords_move`).
-/
namespace Deinterlace

variable {σ τ : Type} [Device σ] [Device τ] {n : Names}

namespace Session

/-- The sessions have counted the same, and are set up for the same stream. -/
structure SameRecords (s : Session σ) (t : Session τ) : Prop where
  stats_eq : t.stats = s.stats
  params_eq : t.params = s.params

/-- What can be read off two sessions is the same up to names. -/
structure ReadsAlike (n : Names) (s : Session σ) (t : Session τ) : Prop
    extends SameRecords s t where
  pool_eq : t.pool = s.pool
  deinterlacing_eq : t.deinterlacing = s.deinterlacing
  chain : s.chain.Alike t.chain
  blank_eq : t.window.blank = s.window.blank
  frames : List.Forall₂ (Frame.Alike n) s.window.frames t.window.frames

theorem stats_output (s : Session σ) :
    s.output.2.stats = (gave? s.output.1).elim s.stats (s.stats.count !s.passesThrough) := by
  obtain ⟨hsame, device, heq⟩ := s.take_cases
  have htaken : s.take.2.stats = s.output.2.stats := by rw [heq]
  cases hgave : gave? s.output.1 with
  | some result =>
    rw [← htaken, s.stats_take (hsame ▸ hgave)]
    rfl
  | none =>
    rcases s.output_cases with ⟨-, hout⟩ | ⟨frame, -, -, -, hout⟩ |
      ⟨frame, picture, device, stats, -, -, -, -, hout⟩
    · rw [hout]
      rfl
    · rw [hout] at hgave
      cases hgave
    · rw [hout, gave?_map] at hgave
      cases hgave

theorem params_reconfigure (s : Session σ) (params : StreamParams) :
    (s.reconfigure params).2.params = (s.reconfigure params).1.toOption.map fun _ => params := by
  rcases s.reconfigure_cases params with ⟨e, device, heq⟩ | ⟨desc, pool, device, -, -, heq⟩ <;>
    rw [heq] <;> rfl

end Session

/-! ## What follows from the answers -/

/-- How an answer is counted, where frames pass through or are rendered. -/
def Answer.counted (passes : Bool) (stats : Stats) : Answer → Stats
  | .delivered result => (Session.gave? result).elim stats (stats.count !passes)
  | _ => stats

/-- Answers count alike, whatever surfaces they come on. -/
theorem Answer.Alike.counted_eq {a b : Answer} (h : a.Alike n b) (passes : Bool) (stats : Stats) :
    b.counted passes stats = a.counted passes stats := by
  cases h with
  | delivered h => cases h <;> rfl
  | _ => rfl

namespace Custody

variable {c : Custody σ} {u : Custody τ}

theorem stats_move (c : Custody σ) (m : Move) :
    (c.move m).session.stats = (c.answer m).counted c.session.passesThrough c.session.stats := by
  cases m with
  | input frame => exact c.session.stats_input frame
  | output => exact c.session.stats_output
  | take =>
    obtain ⟨hsame, device, heq⟩ := c.session.take_cases
    show c.session.take.2.stats = _
    rw [heq, answer, hsame]
    exact c.session.stats_output
  | switch on =>
    show (c.session.setDeinterlacing on).2.stats = _
    unfold Session.setDeinterlacing
    split <;> rfl
  | reconfigure params => exact c.session.stats_reconfigure params
  | give place =>
    simp only [move, deed, next, answer]
    cases c.held[place]? with
    | none => rfl
    | some frame => exact c.session.stats_input (some frame)
  | share place =>
    simp only [move, deed, next]
    cases c.held[place]? <;> rfl
  | drop place =>
    simp only [move, deed, next]
    cases c.held[place]? <;> rfl
  | seek => rfl
  | revise place like => rfl

theorem params_move (c : Custody σ) {m : Move} (hm : ∀ params, m ≠ .reconfigure params) :
    (c.move m).session.params = c.session.params := by
  refine (params_next fun params heq => ?_).1
  cases m with
  | reconfigure other => exact hm other rfl
  | _ => cases heq

/-- Callers that have read the same and are told the same go on reading the same. -/
theorem sameRecords_move (h : c.session.SameRecords u.session)
    (hpass : u.session.passesThrough = c.session.passesThrough) {m : Move}
    (hanswer : (c.answer m).Alike n (u.answer m)) :
    (c.move m).session.SameRecords (u.move m).session where
  stats_eq := by rw [stats_move, stats_move, hpass, h.stats_eq, hanswer.counted_eq]
  params_eq := by
    by_cases hm : ∃ params, m = .reconfigure params
    · obtain ⟨params, rfl⟩ := hm
      show (u.session.reconfigure params).2.params = (c.session.reconfigure params).2.params
      rw [Session.params_reconfigure, Session.params_reconfigure]
      simp only [answer] at hanswer
      generalize (c.session.reconfigure params).1 = result at hanswer ⊢
      generalize (u.session.reconfigure params).1 = result' at hanswer ⊢
      cases hanswer
      rfl
    · have hother : ∀ params, m ≠ .reconfigure params := fun params heq => hm ⟨params, heq⟩
      rw [params_move u hother, params_move c hother, h.params_eq]

end Custody

end Deinterlace
