import Deinterlace.Proofs.Session.Custody
import Deinterlace.Proofs.Session.InStep

/-!
# Callers in step

A `Move` is what the callers of two sessions can do alike: hand in a frame, ask for a picture, share
or edit or drop what they hold, by its place. Callers whose sessions are in step stay in step with
every move, and get answers that are alike (`Custody.InStep.move`), and so they do with any list of
moves (`Custody.InStep.moves`).
-/
namespace Deinterlace

/-- What the callers of two sessions can do alike. -/
inductive Move
  | input (frame : Option Frame)
  | output
  | take
  | seek
  | switch (on : Bool)
  | reconfigure (params : StreamParams)
  /-- Hands a frame to the session that it has given before. -/
  | give (place : Nat)
  | share (place : Nat)
  | drop (place : Nat)
  /-- Makes a frame like another one, but for what it shows. -/
  | revise (place : Nat) (like : Frame)

/-- What a caller is told. -/
inductive Answer
  | done
  | accepted (result : Except Error Unit)
  | delivered (result : Except Error (Option Frame))
  | switched (allowed : Bool)
  | configured (result : Except Error StreamParams)

/-- Answers that are equal up to names. -/
inductive Answer.Alike (n : Names) : Answer → Answer → Prop
  | done : Alike n .done .done
  | accepted (result : Except Error Unit) : Alike n (.accepted result) (.accepted result)
  | delivered {gained : List (Frame × Frame)} {result result' : Except Error (Option Frame)}
      (h : Session.Delivers n gained result result') :
      Alike n (.delivered result) (.delivered result')
  | switched (allowed : Bool) : Alike n (.switched allowed) (.switched allowed)
  | configured (result : Except Error StreamParams) :
      Alike n (.configured result) (.configured result)

/-- Answers are alike that tell the same result in the same words. -/
theorem Answer.Alike.of_eq {α : Type} {n : Names} {tell : α → Answer}
    (htell : ∀ result, (tell result).Alike n (tell result)) {result result' : α}
    (h : result' = result) : (tell result).Alike n (tell result') := by
  rw [h]
  exact htell result

theorem Answer.Alike.mono {n m : Names} (hgrows : n.Grows m) {a b : Answer} (h : a.Alike n b) :
    a.Alike m b := by
  cases h with
  | done => exact .done
  | accepted result => exact .accepted result
  | delivered h =>
    cases h with
    | nothing => exact .delivered .nothing
    | failure e => exact .delivered (.failure e)
    | picture hfg => exact .delivered (.picture (hfg.mono hgrows))
  | switched allowed => exact .switched allowed
  | configured result => exact .configured result

variable {σ τ : Type} [Device σ] [Device τ]

namespace Custody

/-- The move, as it is done by the caller of one session. -/
def deed (c : Custody σ) : Move → Deed σ
  | .input frame => .call (.input frame)
  | .output => .call .output
  | .take => .call .take
  | .seek => .call .seek
  | .switch on => .call (.switch on)
  | .reconfigure params => .call (.reconfigure params)
  | .give place => .give place
  | .share place => .share place
  | .drop place => .drop place
  | .revise place like =>
    .revise place { like with content := (c.held[place]?.getD like).content }

def move (c : Custody σ) (m : Move) : Custody σ := c.next (c.deed m)

def moves (c : Custody σ) (ms : List Move) : Custody σ := ms.foldl move c

/-- What the caller is told when it makes a move. -/
def answer (c : Custody σ) : Move → Answer
  | .input frame => .accepted (c.session.input frame).1
  | .output => .delivered c.session.output.1
  | .take => .delivered c.session.take.1
  | .switch on => .switched (c.session.setDeinterlacing on).1
  | .reconfigure params => .configured (c.session.reconfigure params).1
  | .give place =>
    match c.held[place]? with
    | some frame => .accepted (c.session.input (some frame)).1
    | none => .done
  | .seek | .share _ | .drop _ | .revise _ _ => .done

def answers (c : Custody σ) : List Move → List Answer
  | [] => []
  | m :: ms => c.answer m :: (c.move m).answers ms

theorem moves_append (c : Custody σ) (before rest : List Move) :
    c.moves (before ++ rest) = (c.moves before).moves rest :=
  List.foldl_append

/-- The sessions of the callers are in step, and so is what the callers hold. -/
structure InStep (k : Coupling σ τ) (n : Names) (pools : Option (PoolId × PoolId))
    (inside out : List (Frame × Frame)) (c : Custody σ) (u : Custody τ) : Prop where
  sessions : Session.InStep k n pools inside out c.session u.session
  held_eq : c.held = out.map (·.1)
  held_eq' : u.held = out.map (·.2)
  alone : ¬ k.keeps → out = []

end Custody

/-! ## What devices uphold -/

/-- A frame that is handed in comes from outside. -/
def Move.FromOutside : Move → Prop
  | .input frame => ∀ f, frame = some f → f.holding? = none
  | _ => True

namespace Custody

variable {c : Custody σ}

omit [Device σ] in
theorem permits_deed {harmless : (σ → σ) → Prop} {m : Move} (hm : m.FromOutside) :
    c.Permits harmless (c.deed m) := by
  cases m with
  | input frame => exact hm
  | revise place like =>
    intro before hbefore
    show Frame.holding? { like with content := (c.held[place]?.getD like).content } = _
    rw [hbefore]
    rfl
  | _ => trivial

/-- What the device upholds, moves keep. -/
theorem obeys_moves {u : Fixtures} {law : Device.Law σ} (hlaw : Device.Upholds u law)
    (h : c.session.Obeys u law c.held) {ms : List Move} (hms : ∀ m ∈ ms, m.FromOutside) :
    (c.moves ms).session.Obeys u law (c.moves ms).held := by
  induction ms generalizing c with
  | nil => exact h
  | cons m ms ih =>
    have hdeed : c.Permits (fun _ => False) (c.deed m) := permits_deed (hms m List.mem_cons_self)
    have hnext := obeys_next hlaw (fun _ hnot => hnot.elim) h hdeed
    exact ih hnext fun other hother => hms other (List.mem_cons_of_mem _ hother)

end Custody

variable {k : Coupling σ τ} {n : Names} {pools : Option (PoolId × PoolId)}
variable {inside out : List (Frame × Frame)}

/-! ## Callers of two sessions -/

/-- Moves that the coupling is made for. -/
def Move.Meets (k : Coupling σ τ) : Move → Prop
  | .input frame => ∀ f, frame = some f → f.holding? = none ∧ (∀ n, k.seen n f f) ∧
      (f.format.isHardware = false → k.keeps)
  | .output => k.keeps
  | .reconfigure params => ¬ k.keeps ∧ ∃ fits, k.Renews fits ∧
      ∀ desc, Session.poolFor params = some desc → fits desc
  | _ => True

/-- Editing frames changes no shares. -/
theorem sharesOf_set {pairs : List (Frame × Frame)} {place : Nat} {p : Frame × Frame}
    (h : ∀ before, pairs[place]? = some before → share? p = share? before) :
    sharesOf (pairs.set place p) = sharesOf pairs := by
  induction pairs generalizing place with
  | nil => rfl
  | cons first rest ih =>
    cases place with
    | zero =>
      have hsame := h first rfl
      rw [List.set_cons_zero, sharesOf_cons, sharesOf_cons, hsame]
    | succ place =>
      have hrest := ih fun before hbefore => h before hbefore
      rw [List.set_cons_succ, sharesOf_cons, sharesOf_cons, hrest]

theorem Frame.Alike.revise {f g : Frame} (h : f.Alike n g) (like : Frame) :
    Frame.Alike n { like with content := f.content } { like with content := g.content } :=
  ⟨rfl, h.content⟩

namespace Custody.InStep

variable {c : Custody σ} {u : Custody τ}

theorem held_getElem? (h : InStep k n pools inside out c u) (place : Nat) :
    c.held[place]? = (out[place]?).map (·.1) ∧ u.held[place]? = (out[place]?).map (·.2) := by
  rw [h.held_eq, h.held_eq', List.getElem?_map, List.getElem?_map]
  exact ⟨rfl, rfl⟩

theorem keeps_of_mem (h : InStep k n pools inside out c u) {p : Frame × Frame} (hp : p ∈ out) :
    k.keeps := by
  by_cases hkeeps : k.keeps
  · exact hkeeps
  · rw [h.alone hkeeps] at hp
    cases hp

theorem output (h : InStep k n pools inside out c u)
    (hroom : k.room pools c.session.device u.session.device) (hkeeps : k.keeps) :
    ∃ m rest gained, n.Grows m ∧ InStep k m pools rest (gained ++ out)
      (c.move .output) (u.move .output) ∧ (c.answer .output).Alike m (u.answer .output) := by
  obtain ⟨m, rest, gained, hgrows, hafter, hdelivers⟩ := h.sessions.output hroom
  have hgained : c.session.output.1.toOption.join.toList = gained.map (·.1) ∧
      u.session.output.1.toOption.join.toList = gained.map (·.2) := by
    rcases hleft : c.session.output with ⟨result, s⟩
    rcases hright : u.session.output with ⟨result', t⟩
    rw [hleft, hright] at hdelivers
    cases hdelivers <;> exact ⟨rfl, rfl⟩
  refine ⟨m, rest, gained, hgrows, ⟨hafter, ?_, ?_, fun hnot => absurd hkeeps hnot⟩,
    .delivered hdelivers⟩
  · show c.session.output.1.toOption.join.toList ++ c.held = _
    rw [hgained.1, h.held_eq, List.map_append]
  · show u.session.output.1.toOption.join.toList ++ u.held = _
    rw [hgained.2, h.held_eq', List.map_append]

theorem input (h : InStep k n pools inside out c u)
    (hroom : k.room pools c.session.device u.session.device) {frame : Option Frame}
    (hmeets : Move.Meets k (.input frame)) :
    ∃ m rest, n.Grows m ∧
      InStep k m pools rest out (c.move (.input frame)) (u.move (.input frame)) ∧
      (c.answer (.input frame)).Alike m (u.answer (.input frame)) := by
  cases frame with
  | none =>
    obtain ⟨rest, hconf, -⟩ := h.sessions.configure
    obtain ⟨hafter, -⟩ := hconf.finish h.sessions.agrees h.sessions.agrees'
    exact ⟨n, rest, .refl n, ⟨hafter, h.held_eq, h.held_eq', h.alone⟩, .accepted _⟩
  | some f =>
    obtain ⟨hfree, hseen, hsoft⟩ := hmeets f rfl
    obtain ⟨m, rest, hgrows, hafter, hresult⟩ :=
      (h.sessions.bring hfree fun _ => hseen n).input (fun _ => hseen n) hsoft hroom
    exact ⟨m, rest, hgrows, ⟨hafter, h.held_eq, h.held_eq', h.alone⟩, .of_eq .accepted hresult⟩

/-- A frame that the callers hand in leaves their hands. -/
theorem give (h : InStep k n pools inside out c u)
    (hroom : k.room pools c.session.device u.session.device) (place : Nat) :
    ∃ m rest others, n.Grows m ∧ InStep k m pools rest others (c.move (.give place))
      (u.move (.give place)) ∧ (c.answer (.give place)).Alike m (u.answer (.give place)) := by
  obtain ⟨hleft, hright⟩ := h.held_getElem? place
  unfold move answer
  simp only [deed, next]
  cases hplace : out[place]? with
  | none =>
    rw [hplace] at hleft hright
    simp only [hleft, hright, Option.map_none]
    exact ⟨n, inside, out, .refl n, h, .done⟩
  | some p =>
    rw [hplace] at hleft hright
    simp only [hleft, hright, Option.map_some]
    have hkeeps := h.keeps_of_mem (List.mem_of_getElem? hplace)
    obtain ⟨m, rest, hgrows, hafter, hresult⟩ :=
      (h.sessions.perm (perm_eraseIdx hplace)).input (f := p.1) (g := p.2)
        (fun _ => (h.sessions.shown p (List.mem_of_getElem? hplace)).2 hkeeps)
        (fun _ => hkeeps) hroom
    refine ⟨m, rest, out.eraseIdx place, hgrows, ⟨hafter, ?_, ?_, fun hnot => absurd hkeeps hnot⟩,
      .of_eq .accepted hresult⟩
    · rw [h.held_eq, List.eraseIdx_map]
    · rw [h.held_eq', List.eraseIdx_map]

theorem share (h : InStep k n pools inside out c u) (place : Nat) :
    ∃ more, InStep k n pools inside more (c.move (.share place)) (u.move (.share place)) := by
  obtain ⟨hleft, hright⟩ := h.held_getElem? place
  unfold move
  simp only [deed, next]
  cases hplace : out[place]? with
  | none =>
    rw [hplace] at hleft hright
    simp only [hleft, hright, Option.map_none]
    exact ⟨out, h⟩
  | some p =>
    rw [hplace] at hleft hright
    simp only [hleft, hright, Option.map_some]
    have hmem := List.mem_of_getElem? hplace
    refine ⟨p :: out, h.sessions.shareFrame (f := p.1) (g := p.2) hmem, ?_, ?_,
      fun hnot => absurd (h.keeps_of_mem hmem) hnot⟩
    · rw [h.held_eq, List.map_cons]
    · rw [h.held_eq', List.map_cons]

theorem drop (h : InStep k n pools inside out c u) (place : Nat) :
    ∃ rest, InStep k n pools inside rest (c.move (.drop place)) (u.move (.drop place)) := by
  obtain ⟨hleft, hright⟩ := h.held_getElem? place
  unfold move
  simp only [deed, next]
  cases hplace : out[place]? with
  | none =>
    rw [hplace] at hleft hright
    simp only [hleft, hright, Option.map_none]
    exact ⟨out, h⟩
  | some p =>
    rw [hplace] at hleft hright
    simp only [hleft, hright, Option.map_some]
    have hmem := List.mem_of_getElem? hplace
    refine ⟨out.eraseIdx place, Session.InStep.dropFrame (f := p.1) (g := p.2)
      (h.sessions.perm (perm_eraseIdx hplace)), ?_, ?_,
      fun hnot => absurd (h.keeps_of_mem hmem) hnot⟩
    · rw [h.held_eq, List.eraseIdx_map]
    · rw [h.held_eq', List.eraseIdx_map]

theorem revise (h : InStep k n pools inside out c u) (place : Nat) (like : Frame) :
    ∃ others, InStep k n pools inside others (c.move (.revise place like))
      (u.move (.revise place like)) := by
  obtain ⟨hleft, hright⟩ := h.held_getElem? place
  cases hplace : out[place]? with
  | none =>
    -- there is nothing to edit
    have hbeyond := List.getElem?_eq_none_iff.1 hplace
    refine ⟨out, h.sessions, ?_, ?_, h.alone⟩
    · show c.held.set place _ = _
      rw [h.held_eq, List.set_eq_of_length_le (by rw [List.length_map]; exact hbeyond)]
    · show u.held.set place _ = _
      rw [h.held_eq', List.set_eq_of_length_le (by rw [List.length_map]; exact hbeyond)]
  | some p =>
    rw [hplace] at hleft hright
    have hmem := List.mem_of_getElem? hplace
    have hshown := h.sessions.shown p hmem
    refine ⟨out.set place
        ({ like with content := p.1.content }, { like with content := p.2.content }),
      ⟨{ h.sessions with shown := ?_, bond := ?_ }, ?_, ?_,
        fun hnot => absurd (h.keeps_of_mem hmem) hnot⟩⟩
    · intro q hq
      rcases List.mem_or_eq_of_mem_set hq with hq | rfl
      · exact h.sessions.shown q hq
      · exact ⟨hshown.1.revise like, fun hkeeps => k.seen_revise like (hshown.2 hkeeps)⟩
    · have hsame : ∀ before, out[place]? = some before →
          share? ({ like with content := p.1.content }, { like with content := p.2.content }) =
            share? before := by
        intro before hbefore
        cases hplace.symm.trans hbefore
        rfl
      rw [sharesOf_append, sharesOf_set hsame, ← sharesOf_append]
      exact h.sessions.bond
    · show c.held.set place { like with content := (c.held[place]?.getD like).content } = _
      rw [hleft, h.held_eq, List.map_set]
      rfl
    · show u.held.set place { like with content := (u.held[place]?.getD like).content } = _
      rw [hright, h.held_eq', List.map_set]
      rfl

/-- **A move keeps callers in step**, and their answers are alike. -/
theorem move (h : InStep k n pools inside out c u)
    (hroom : k.room pools c.session.device u.session.device) {m : Move} (hmeets : m.Meets k) :
    ∃ later pools' inside' out', n.Grows later ∧
      InStep k later pools' inside' out' (c.move m) (u.move m) ∧
      (c.answer m).Alike later (u.answer m) := by
  cases m with
  | input frame =>
    obtain ⟨later, rest, hgrows, hafter, hanswer⟩ := h.input hroom hmeets
    exact ⟨later, pools, rest, out, hgrows, hafter, hanswer⟩
  | output =>
    obtain ⟨later, rest, gained, hgrows, hafter, hanswer⟩ := h.output hroom hmeets
    exact ⟨later, pools, rest, gained ++ out, hgrows, hafter, hanswer⟩
  | take =>
    obtain ⟨later, rest, gained, hgrows, hafter, hdelivers⟩ := h.sessions.take hroom
    exact ⟨later, pools, rest, out, hgrows, ⟨hafter, h.held_eq, h.held_eq', h.alone⟩,
      .delivered hdelivers⟩
  | seek =>
    exact ⟨n, pools, [], out, .refl n, ⟨h.sessions.flushed, h.held_eq, h.held_eq', h.alone⟩, .done⟩
  | switch on =>
    obtain ⟨hafter, hresult⟩ := h.sessions.setDeinterlacing on
    exact ⟨n, pools, inside, out, .refl n, ⟨hafter, h.held_eq, h.held_eq', h.alone⟩,
      .of_eq .switched hresult⟩
  | reconfigure params =>
    obtain ⟨hnot, fits, hrenews, hfits⟩ := hmeets
    have hnone := h.alone hnot
    subst hnone
    obtain ⟨pools', hafter, hresult⟩ := h.sessions.reconfigure hrenews.beside hfits
    exact ⟨n, pools', [], [], .refl n, ⟨hafter, h.held_eq, h.held_eq', h.alone⟩,
      .of_eq .configured hresult⟩
  | give place =>
    obtain ⟨later, rest, others, hgrows, hafter, hanswer⟩ := h.give hroom place
    exact ⟨later, pools, rest, others, hgrows, hafter, hanswer⟩
  | share place =>
    obtain ⟨more, hafter⟩ := h.share place
    exact ⟨n, pools, inside, more, .refl n, hafter, .done⟩
  | drop place =>
    obtain ⟨rest, hafter⟩ := h.drop place
    exact ⟨n, pools, inside, rest, .refl n, hafter, .done⟩
  | revise place like =>
    obtain ⟨others, hafter⟩ := h.revise place like
    exact ⟨n, pools, inside, others, .refl n, hafter, .done⟩

/-- **Any moves keep callers in step**, if there is room whenever a surface may be taken. -/
theorem moves (h : InStep k n pools inside out c u) {ms : List Move}
    (hmeets : ∀ m ∈ ms, m.Meets k)
    (hroom : ∀ before, before <+: ms → ∀ n pools inside out,
      InStep k n pools inside out (c.moves before) (u.moves before) →
        k.room pools (c.moves before).session.device (u.moves before).session.device) :
    ∃ later pools' inside' out', n.Grows later ∧
      InStep k later pools' inside' out' (c.moves ms) (u.moves ms) ∧
      List.Forall₂ (Answer.Alike later) (c.answers ms) (u.answers ms) := by
  induction ms generalizing c u n pools inside out with
  | nil => exact ⟨n, pools, inside, out, .refl n, h, .nil⟩
  | cons m ms ih =>
    have hnow := hroom [] List.nil_prefix n pools inside out h
    obtain ⟨middle, pools₁, inside₁, out₁, hgrows₁, hstep, hanswer⟩ :=
      h.move hnow (hmeets m List.mem_cons_self)
    obtain ⟨later, pools₂, inside₂, out₂, hgrows₂, hrest, hanswers⟩ := ih hstep
      (fun other hother => hmeets other (List.mem_cons_of_mem _ hother))
      (fun before hbefore => hroom (m :: before) ((List.prefix_cons_inj m).2 hbefore))
    exact ⟨later, pools₂, inside₂, out₂, hgrows₁.trans hgrows₂, hrest,
      .cons (hanswer.mono hgrows₂) hanswers⟩

end Custody.InStep

end Deinterlace
