import Deinterlace.Proofs.Session.Afresh
import Deinterlace.Proofs.Session.Moves
import Deinterlace.Proofs.Simulator.Linked
import Deinterlace.Proofs.Simulator.Settings

/-!
# Waiting for the first frame

Before the first frame of a stream a session gives nothing, whatever its caller does
(`Custody.Cleared`). Two sessions on linked devices that wait for their first frame may have windows
that are set up differently, and one of them may have negotiated already (`Custody.Poised`). With
the first input they are in step, and so runs of them are alike (`Custody.Poised.moves`).
-/
namespace Deinterlace

/-! ## Before the first frame -/

/-- What a caller is told who holds nothing and has handed nothing in. -/
def Move.reply : Move → Answer
  | .output | .take => .delivered (.ok none)
  | _ => .done

/-- A move that does nothing before the first frame has come. -/
def Move.Idles : Move → Prop
  | .input _ | .switch _ | .reconfigure _ => False
  | _ => True

namespace Custody

variable {σ : Type} [Device σ] {c : Custody σ}

/-- The window has been flushed, no frame has come since, and the caller holds none. -/
structure Cleared (c : Custody σ) : Prop where
  flushed : c.session.window.flush = c.session.window
  held_eq : c.held = []

namespace Cleared

theorem idle (h : c.Cleared) {m : Move} (hm : m.Idles) : c.move m = c ∧ c.answer m = m.reply := by
  have hframes := Window.frames_of_flush h.flushed
  have hplace : ∀ place : Nat, c.held[place]? = none := by simp [h.held_eq]
  have houtput := Session.output_of_empty hframes
  have htake := Session.take_of_empty hframes
  cases m with
  | input frame => exact hm.elim
  | switch on => exact hm.elim
  | reconfigure params => exact hm.elim
  | output =>
    have hmove : c.move .output =
        ⟨c.session.output.2, c.session.output.1.toOption.join.toList ++ c.held⟩ := rfl
    have hanswer : c.answer .output = .delivered c.session.output.1 := rfl
    rw [hmove, hanswer, houtput]
    exact ⟨rfl, rfl⟩
  | take =>
    have hmove : c.move .take = ⟨c.session.take.2, c.held⟩ := rfl
    have hanswer : c.answer .take = .delivered c.session.take.1 := rfl
    rw [hmove, hanswer, htake]
    exact ⟨rfl, rfl⟩
  | seek =>
    refine ⟨?_, rfl⟩
    show (⟨c.session.setWindow c.session.window.flush, c.held⟩ : Custody σ) = c
    rw [Session.setWindow_of_empty hframes, h.flushed]
  | give place =>
    unfold move answer
    simp only [deed, next, hplace]
    exact ⟨trivial, rfl⟩
  | share place =>
    unfold move answer
    simp only [deed, next, hplace]
    exact ⟨trivial, rfl⟩
  | drop place =>
    unfold move answer
    simp only [deed, next, hplace]
    exact ⟨trivial, rfl⟩
  | revise place like =>
    refine ⟨?_, rfl⟩
    unfold move
    simp only [deed, next]
    rw [List.set_eq_of_length_le (by simp [h.held_eq])]

theorem move (h : c.Cleared) {m : Move} (hm : ∀ frame, m ≠ .input frame) : (c.move m).Cleared := by
  cases m with
  | input frame => exact absurd rfl (hm frame)
  | switch on =>
    refine ⟨?_, h.held_eq⟩
    show (c.session.setDeinterlacing on).2.window.flush = (c.session.setDeinterlacing on).2.window
    unfold Session.setDeinterlacing
    split <;> exact h.flushed
  | reconfigure params =>
    refine ⟨?_, h.held_eq⟩
    show (c.session.reconfigure params).2.window.flush = (c.session.reconfigure params).2.window
    rw [Session.window_reconfigure]
    rfl
  | output => exact (h.idle (m := .output) trivial).1.symm ▸ h
  | take => exact (h.idle (m := .take) trivial).1.symm ▸ h
  | seek => exact (h.idle (m := .seek) trivial).1.symm ▸ h
  | give place => exact (h.idle (m := .give place) trivial).1.symm ▸ h
  | share place => exact (h.idle (m := .share place) trivial).1.symm ▸ h
  | drop place => exact (h.idle (m := .drop place) trivial).1.symm ▸ h
  | revise place like => exact (h.idle (m := .revise place like) trivial).1.symm ▸ h

/-- Until the next input nothing comes out. -/
theorem eq_none_of_delivered (h : c.Cleared) {ms : List Move}
    (hms : ∀ m ∈ ms, ∀ frame, m ≠ .input frame) {result : Except Error (Option Frame)}
    (hresult : .delivered result ∈ c.answers ms) : result = .ok none := by
  have hframes := Window.frames_of_flush h.flushed
  induction ms generalizing c with
  | nil => cases hresult
  | cons m ms ih =>
    rcases List.mem_cons.1 hresult with hnow | hlater
    · cases m with
      | output =>
        cases hnow
        rw [Session.output_of_empty hframes]
      | take =>
        cases hnow
        rw [Session.take_of_empty hframes]
      | give place =>
        rw [(h.idle (m := .give place) trivial).2] at hnow
        cases hnow
      | _ => cases hnow
    · have hmoved := h.move (hms m List.mem_cons_self)
      exact ih hmoved (fun other hother => hms other (List.mem_cons_of_mem _ hother)) hlater
        (Window.frames_of_flush hmoved.flushed)

end Cleared

end Custody

/-! ## Two sessions that wait for a frame -/

/-- Moves that go on with a stream: the frames that are handed in come from outside. -/
def Move.Continues : Move → Prop
  | .input frame => ∀ f, frame = some f → f.holding? = none
  | .reconfigure _ => False
  | _ => True

theorem Move.Continues.fromOutside {m : Move} (h : m.Continues) : m.FromOutside := by
  cases m with
  | input frame => exact h
  | _ => trivial

/-- The surfaces of the frames that are handed in. -/
def Move.surfaces (ms : List Move) : List SurfaceId :=
  ms.flatMap fun m =>
    match m with
    | .input frame => (frame.map (·.surfaceId)).toList
    | _ => []

open Simulator in
/-- Two sessions on linked devices before the first frame of a stream. The right one has negotiated
nothing yet; what the left one has negotiated would come to the same now. -/
structure Session.Poised (t : Ties) (n : Names) (s r : Session Simulator) : Prop where
  left_eq : s.fixtures = t.left
  right_eq : r.fixtures = t.right
  agrees : s.Agrees
  agrees' : r.Agrees
  flushed : s.window.flush = s.window
  flushed' : r.window.flush = r.window
  options_eq : r.chain.options = s.chain.options
  informed : s.Informed
  unset : r.chain.last = none
  pool_eq : s.pool = some t.pool
  pool_eq' : r.pool = some t.pool'
  deinterlacing_eq : r.deinterlacing = s.deinterlacing
  named : n.buffers = t.left.filters.zip t.right.filters
  linked : Linked t n [] s.device r.device

namespace Session.Poised

open Simulator

variable {t : Ties} {n : Names} {s r : Session Simulator}

theorem agrees_of_unset {σ : Type} [Device σ] {s : Session σ}
    (hdescriptors : ∀ d ∈ s.chain.descriptors, d.filter = .deinterlacing)
    (hlast : s.chain.last = none) (hactive : s.chain.active = []) (hcaps : s.chain.caps = none)
    (hframes : s.window.frames = []) : s.Agrees := by
  refine ⟨hdescriptors, fun hne => absurd hframes hne, fun _ => ⟨hactive, hcaps⟩,
    fun key hkey => ?_⟩
  rw [hlast] at hkey
  cases hkey

/-- The first negotiation sets both sessions up alike. -/
theorem configure (hlength : t.right.filters.length = t.left.filters.length)
    (h : Poised t n s r) :
    ∃ inside, InStep (linkage t hlength) n (some (t.pool, t.pool')) inside [] s.configure
        r.configure ∧
      ((linkage t hlength).room (some (t.pool, t.pool')) s.device r.device →
        (linkage t hlength).room (some (t.pool, t.pool')) s.configure.device
          r.configure.device) := by
  obtain ⟨hactive, hcaps⟩ := h.agrees'.unset h.unset
  have hframes := Window.frames_of_flush h.flushed
  -- the same sessions, with nothing negotiated and the windows set up alike
  have hstart : InStep (linkage t hlength) n (some (t.pool, t.pool')) [] []
      { s with chain := s.chain.invalidate } { r with window := s.window } := by
    refine ⟨h.left_eq, h.right_eq, agrees_of_unset h.agrees.descriptors rfl rfl rfl hframes,
      agrees_of_unset h.agrees'.descriptors h.unset hactive hcaps hframes,
      ⟨h.options_eq, ?_, ?_, ?_⟩,
      ⟨hframes, hframes, rfl⟩, h.pool_eq, h.pool_eq', h.deinterlacing_eq, h.named,
      by simp, by simp, rfl, h.linked⟩
    · simp only [h.unset, Chain.invalidate]
    · simp only [hactive, Chain.invalidate]
    · simp only [Chain.reportedReferences, hcaps, Chain.invalidate]
  obtain ⟨inside, hconf, hroom⟩ := hstart.configure
  rw [configure_flushed h.unset h.flushed' h.flushed] at hconf hroom
  have hdepth : s.window.cursor ≤ s.window.backwardDepth := by
    rw [← h.flushed]
    exact Nat.zero_le _
  rcases configure_invalidate h.agrees hdepth h.informed with heq | ⟨filters, heq⟩ <;>
    rw [heq] at hconf hroom
  · exact ⟨inside, hconf, hroom⟩
  · -- the left device would have been asked once more
    rw [queryCaps_eq] at hconf hroom
    obtain ⟨hpools, hlinked⟩ := hconf.bond
    refine ⟨inside, { hconf with
      agrees := hconf.agrees.congr rfl rfl rfl rfl hconf.agrees.held
      bond := ⟨hpools, hlinked.quiet ⟨rfl, rfl, rfl, rfl, Nat.le_refl _⟩ (.refl _)
        ⟨hlinked.equipped.closed, hlinked.equipped.outfit⟩ hlinked.equipped'
        ⟨[], [], rfl, rfl, .nil⟩⟩ }, hroom⟩

end Session.Poised

namespace Custody

open Simulator

/-- Callers that hold nothing, whose sessions wait for a frame. -/
structure Poised (t : Ties) (n : Names) (c u : Custody Simulator) : Prop where
  sessions : Session.Poised t n c.session u.session
  held_eq : c.held = []
  held_eq' : u.held = []

namespace Poised

variable {t : Ties} {n : Names} {c u : Custody Simulator}

theorem cleared (h : Poised t n c u) : c.Cleared ∧ u.Cleared :=
  ⟨⟨h.sessions.flushed, h.held_eq⟩, h.sessions.flushed', h.held_eq'⟩

theorem switch (h : Poised t n c u) (on : Bool) :
    Poised t n (c.move (.switch on)) (u.move (.switch on)) ∧
      (c.answer (.switch on)).Alike n (u.answer (.switch on)) := by
  have hsessions : Session.Poised t n (c.session.setDeinterlacing on).2
      (u.session.setDeinterlacing on).2 ∧
      (u.session.setDeinterlacing on).1 = (c.session.setDeinterlacing on).1 := by
    unfold Session.setDeinterlacing
    rw [h.sessions.options_eq]
    split
    · exact ⟨{ h.sessions with
        agrees := h.sessions.agrees.congr rfl rfl rfl rfl h.sessions.agrees.held
        agrees' := h.sessions.agrees'.congr rfl rfl rfl rfl h.sessions.agrees'.held
        deinterlacing_eq := rfl }, rfl⟩
    · exact ⟨h.sessions, rfl⟩
  obtain ⟨hafter, hresult⟩ := hsessions
  exact ⟨⟨hafter, h.held_eq, h.held_eq'⟩, .of_eq .switched hresult⟩

/-- Moves that do nothing leave the sessions waiting. -/
theorem idle (h : Poised t n c u) {m : Move} (hidles : m.Idles)
    (hreply : m.reply.Alike n m.reply) :
    Poised t n (c.move m) (u.move m) ∧ (c.answer m).Alike n (u.answer m) := by
  obtain ⟨hsame, hanswer⟩ := h.cleared.1.idle hidles
  obtain ⟨hsame', hanswer'⟩ := h.cleared.2.idle hidles
  rw [hsame, hsame', hanswer, hanswer']
  exact ⟨h, hreply⟩

/-- The sessions wait until a frame is handed in. -/
theorem move (h : Poised t n c u) {m : Move} (hm : m.Continues)
    (hinput : ∀ frame, m ≠ .input frame) :
    Poised t n (c.move m) (u.move m) ∧ (c.answer m).Alike n (u.answer m) := by
  cases m with
  | input frame => exact absurd rfl (hinput frame)
  | switch on => exact h.switch on
  | reconfigure params => exact hm.elim
  | output => exact h.idle trivial (.delivered .nothing)
  | take => exact h.idle trivial (.delivered .nothing)
  | seek => exact h.idle trivial .done
  | give place => exact h.idle trivial .done
  | share place => exact h.idle trivial .done
  | drop place => exact h.idle trivial .done
  | revise place like => exact h.idle trivial .done

/-- With the first input the sessions are in step. -/
theorem input (hlength : t.right.filters.length = t.left.filters.length) (h : Poised t n c u)
    {frame : Option Frame}
    (hmeets : Move.Meets (linkage t hlength) (.input frame))
    (hroom : t.Room c.session.device u.session.device) :
    ∃ m inside, n.Grows m ∧ InStep (linkage t hlength) m (some (t.pool, t.pool')) inside []
        (c.move (.input frame)) (u.move (.input frame)) ∧
      (c.answer (.input frame)).Alike m (u.answer (.input frame)) := by
  obtain ⟨inside, hconf, hroom'⟩ := h.sessions.configure hlength
  have hkeeps : ∀ {out : List (Frame × Frame)}, ¬ (linkage t hlength).keeps → out = [] :=
    fun hnot => absurd trivial hnot
  cases frame with
  | none =>
    obtain ⟨hafter, -⟩ := hconf.finish h.sessions.agrees h.sessions.agrees'
    exact ⟨n, inside, .refl n, ⟨hafter, h.held_eq, h.held_eq', hkeeps⟩, .accepted _⟩
  | some f =>
    obtain ⟨hfree, hseen, hsoft⟩ := hmeets f rfl
    obtain ⟨m, rest, hgrows, hafter, hresult⟩ := (hconf.bring hfree fun _ => hseen n).accept
      h.sessions.agrees h.sessions.agrees' (fun _ => hseen n) hsoft (hroom' hroom)
    exact ⟨m, rest, hgrows, ⟨hafter, h.held_eq, h.held_eq', hkeeps⟩, .of_eq .accepted hresult⟩

end Poised

/-- Moves that go on with a stream are those that linked devices are made for. -/
theorem meets_of_continues {t : Ties} (hlength : t.right.filters.length = t.left.filters.length)
    {m : Move} (hm : m.Continues) (houter : Move.surfaces [m] ⊆ t.outer) :
    m.Meets (linkage t hlength) := by
  cases m with
  | input frame =>
    rintro f rfl
    refine ⟨hm f rfl, fun n => ⟨.refl n (hm f rfl), fun _ => houter ?_⟩, fun _ => trivial⟩
    simp [Move.surfaces]
  | reconfigure params => exact hm.elim
  | output => trivial
  | take => trivial
  | seek => trivial
  | switch on => trivial
  | give place => trivial
  | share place => trivial
  | drop place => trivial
  | revise place like => trivial

theorem Poised.moves {t : Ties} {n : Names} {c u : Custody Simulator}
    (hlength : t.right.filters.length = t.left.filters.length) (h : Poised t n c u)
    {ms : List Move} (hms : ∀ m ∈ ms, m.Continues) (houter : Move.surfaces ms ⊆ t.outer)
    (hroom : ∀ before, before <+: ms → ∀ n shares,
      Linked t n shares (c.moves before).session.device (u.moves before).session.device →
        t.Room (c.moves before).session.device (u.moves before).session.device) :
    ∃ later shares, n.Grows later ∧
      Linked t later shares (c.moves ms).session.device (u.moves ms).session.device ∧
      List.Forall₂ (Answer.Alike later) (c.answers ms) (u.answers ms) := by
  induction ms generalizing c u with
  | nil => exact ⟨n, [], .refl n, h.sessions.linked, .nil⟩
  | cons m ms ih =>
    have hsplit : Move.surfaces (m :: ms) = Move.surfaces [m] ++ Move.surfaces ms := by
      simp [Move.surfaces]
    obtain ⟨hfirst, hrest⟩ := List.append_subset.1 (hsplit ▸ houter)
    have hm := hms m List.mem_cons_self
    have hlater : ∀ other ∈ ms, other.Continues :=
      fun other hother => hms other (List.mem_cons_of_mem _ hother)
    have hroom' : ∀ before, before <+: ms → ∀ n shares,
        Linked t n shares ((c.move m).moves before).session.device
            ((u.move m).moves before).session.device →
          t.Room ((c.move m).moves before).session.device
            ((u.move m).moves before).session.device :=
      fun before hbefore => hroom (m :: before) ((List.prefix_cons_inj m).2 hbefore)
    by_cases hinput : ∃ frame, m = .input frame
    · obtain ⟨frame, rfl⟩ := hinput
      obtain ⟨middle, inside, hgrows, hstep, hanswer⟩ := h.input hlength
        (meets_of_continues hlength hm hfirst) (hroom [] List.nil_prefix n [] h.sessions.linked)
      obtain ⟨later, pools, inside', out, hgrows', hafter, hanswers⟩ := hstep.moves
        (fun other hother => meets_of_continues hlength (hlater other hother)
          (fun x hx =>
            hrest (List.mem_flatMap.2 ⟨other, hother, by simpa [Move.surfaces] using hx⟩)))
        (fun before hbefore n' pools' inside' out' hthere =>
          hroom' before hbefore n' _ hthere.sessions.bond.2)
      exact ⟨later, _, hgrows.trans hgrows', hafter.sessions.bond.2,
        .cons (hanswer.mono hgrows') hanswers⟩
    · obtain ⟨hpoised, hanswer⟩ := h.move hm fun frame heq => hinput ⟨frame, heq⟩
      obtain ⟨later, shares, hgrows, hlinked, hanswers⟩ := ih hpoised hlater hrest hroom'
      exact ⟨later, shares, hgrows, hlinked, .cons (hanswer.mono hgrows) hanswers⟩

end Custody

end Deinterlace
