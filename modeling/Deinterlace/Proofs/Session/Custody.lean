import Deinterlace.Proofs.Session.Agreement
import Deinterlace.Proofs.Session.Upkeep
import Mathlib.Data.List.Perm.Basic

/-!
# Sessions and their callers

A `Custody` is a session together with the frames that its caller holds. The caller makes calls on
the session, and shares, edits and drops its frames, or hands them in again, in any order
(`Custody.next`). `Custody.Reachable` are the states that come about in this way from opening a
session, where the device may at any time be changed in one of the ways that are `harmless`. What
the device upholds, it upholds in all of these states (`Custody.Reachable.obeys`).
-/
namespace Deinterlace

/-- A session and the frames that its caller holds. -/
structure Custody (σ : Type) where
  session : Session σ
  held : List Frame := []

/-- What the caller of a session can do. The frames that it holds are named by their places. -/
inductive Deed (σ : Type)
  | call (call : Session.Call σ)
  /-- Hands a frame to the session that the session has given before. -/
  | give (place : Nat)
  | share (place : Nat)
  | drop (place : Nat)
  /-- Writes anything into a frame, which stays on its surface. -/
  | revise (place : Nat) (frame : Frame)

variable {σ : Type} [Device σ]

/-! ## Opening -/

theorem Chain.buildDescriptors_induction {P : σ → Prop} (context : ContextId) (mode : Mode)
    (hquery : ∀ d, P d → P (Device.queryAlgorithms context d).2)
    (hmake : ∀ algorithm d, P d → P (Device.createFilter context algorithm {} d).2)
    (filters : List FilterType) {d : σ} (h : P d) :
    P (buildDescriptors context mode filters d).2 := by
  have hone : ∀ d, P d → P (buildDeinterlacer context mode d).2 := by
    intro d hd
    have hasked := hquery d hd
    unfold buildDeinterlacer
    split
    · exact hd
    · rcases hanswer : Device.queryAlgorithms context d with ⟨e | supported, asked⟩ <;>
        rw [hanswer] at hasked
      · exact hasked
      · dsimp only
        split
        · exact hasked
        · have hmade := hmake mode.algorithm asked hasked
          rcases hresult : Device.createFilter context mode.algorithm {} asked with
            ⟨e | buffer, made⟩ <;> rw [hresult] at hmade <;> exact hmade
  induction filters generalizing d with
  | nil => exact h
  | cons filter rest ih =>
    cases filter
    case deinterlacing => exact ih (hone d h)
    all_goals exact ih h

/-- What every call of opening a session keeps holds of the device of the session. Filters are made
without flags. -/
theorem Session.open_induction {P : σ → Prop} {options : Options} {device : σ} {s : Session σ}
    (hopen : open? options device = .ok s)
    (hconfig : ∀ d, P d → P (Device.createConfig d).2)
    (hcontext : ∀ config d, P d → P (Device.createContext config d).2)
    (hfilters : ∀ context d, P d → P (Device.queryFilters context d).2)
    (hquery : ∀ context d, P d → P (Device.queryAlgorithms context d).2)
    (hmake : ∀ context algorithm d, P d → P (Device.createFilter context algorithm {} d).2)
    (h : P device) : P s.device := by
  obtain ⟨config, d₁, context, d₂, available, d₃, descriptors, later, h₁, h₂, h₃, hbuild, rfl⟩ :=
    eq_of_open hopen
  have hd₁ := hconfig device h
  rw [h₁] at hd₁
  have hd₂ := hcontext config d₁ hd₁
  rw [h₂] at hd₂
  have hd₃ := hfilters context d₂ hd₂
  rw [h₃] at hd₃
  have hbuilt := Chain.buildDescriptors_induction context options.mode (hquery context)
    (hmake context) available hd₃
  rw [hbuild] at hbuilt
  exact hbuilt

namespace Custody

/-- The state after a deed. Nothing happens if the caller holds no frame at the place. -/
def next (c : Custody σ) : Deed σ → Custody σ
  | .call call => ⟨c.session.perform call, (c.session.gained? call).toList ++ c.held⟩
  | .give place =>
    match c.held[place]? with
    | some frame => ⟨(c.session.input (some frame)).2, c.held.eraseIdx place⟩
    | none => c
  | .share place =>
    match c.held[place]? with
    | some frame => ⟨c.session.shareFrame frame, frame :: c.held⟩
    | none => c
  | .drop place =>
    match c.held[place]? with
    | some frame => ⟨c.session.dropFrame frame, c.held.eraseIdx place⟩
    | none => c
  | .revise place frame => { c with held := c.held.set place frame }

/-- Frames that the caller brings along are not on surfaces of the session's pools, an edited frame
is on the surface that it was on, and changes to the device are harmless. -/
def Permits (harmless : (σ → σ) → Prop) (c : Custody σ) : Deed σ → Prop
  | .call (.input frame) => ∀ given, frame = some given → given.holding? = none
  | .call (.alter change) => harmless change
  | .revise place frame =>
    ∀ before, c.held[place]? = some before → frame.holding? = before.holding?
  | _ => True

/-- What can come of opening a session on a device. -/
inductive Reachable (harmless : (σ → σ) → Prop) (options : Options) (device : σ) :
    Custody σ → Prop
  | opened {s : Session σ} (h : Session.open? options device = .ok s) :
      Reachable harmless options device { session := s }
  | next {c : Custody σ} {deed : Deed σ} (h : Reachable harmless options device c)
      (hdeed : c.Permits harmless deed) : Reachable harmless options device (c.next deed)

/-- All frames that there are copies of: those in the window and those of the caller. -/
def frames (c : Custody σ) : List Frame := c.session.window.frames ++ c.held

def act (c : Custody σ) (deeds : List (Deed σ)) : Custody σ := deeds.foldl next c

variable {harmless : (σ → σ) → Prop} {u : Fixtures} {law : Device.Law σ} {c : Custody σ}

theorem perm_eraseIdx {α : Type} {l : List α} {place : Nat} {a : α} (h : l[place]? = some a) :
    l.Perm (a :: l.eraseIdx place) := by
  obtain ⟨hlt, rfl⟩ := List.getElem?_eq_some_iff.1 h
  exact (List.getElem_cons_eraseIdx_perm hlt).symm

theorem holdings_set {frames : List Frame} {place : Nat} {frame : Frame}
    (h : ∀ before, frames[place]? = some before → frame.holding? = before.holding?) :
    holdings (frames.set place frame) = holdings frames := by
  induction frames generalizing place with
  | nil => rfl
  | cons first rest ih =>
    cases place with
    | zero =>
      have hsame := h first rfl
      rw [List.set_cons_zero, holdings_cons, holdings_cons, hsame]
    | succ place =>
      have hrest := ih fun before hbefore => h before hbefore
      rw [List.set_cons_succ, holdings_cons, holdings_cons, hrest]

/-- **What the device upholds, every deed keeps.** -/
theorem obeys_next (hlaw : Device.Upholds u law)
    (hharmless : ∀ change, harmless change → ∀ pool held d, law pool held d →
      law pool held (change d))
    (h : c.session.Obeys u law c.held) {deed : Deed σ} (hdeed : c.Permits harmless deed) :
    (c.next deed).session.Obeys u law (c.next deed).held := by
  -- a frame of the caller's can be thought of as the first
  have hperm : ∀ {place frame}, c.held[place]? = some frame →
      c.session.Obeys u law (frame :: c.held.eraseIdx place) := fun hframe =>
    ⟨h.fixtures_eq, hlaw.permFrames ((perm_eraseIdx hframe).append_left _) h.holds⟩
  cases deed with
  | call call =>
    refine Session.Obeys.perform hlaw ?_ ?_
    · intro change hchange
      subst hchange
      exact hharmless change hdeed
    · cases call
      case input frame =>
        cases frame with
        | none => exact h
        | some given =>
          -- such a frame has no share in any lease
          refine ⟨h.fixtures_eq, hlaw.permFrames List.perm_middle.symm ?_⟩
          rw [holdings_cons, hdeed given rfl]
          exact h.holds
      all_goals exact h
  | give place =>
    cases hframe : c.held[place]? with
    | none =>
      simp only [next, hframe]
      exact h
    | some frame =>
      have hgiven : c.session.Obeys u law ((some frame).toList ++ c.held.eraseIdx place) :=
        hperm hframe
      simp only [next, hframe]
      exact hgiven.input hlaw
  | share place =>
    cases hframe : c.held[place]? with
    | none =>
      simp only [next, hframe]
      exact h
    | some frame =>
      simp only [next, hframe]
      exact h.shareFrame hlaw (List.mem_of_getElem? hframe)
  | drop place =>
    cases hframe : c.held[place]? with
    | none =>
      simp only [next, hframe]
      exact h
    | some frame =>
      simp only [next, hframe]
      exact (hperm hframe).dropFrame hlaw
  | revise place frame =>
    refine ⟨h.fixtures_eq, ?_⟩
    show law c.session.pool (holdings (c.session.window.frames ++ c.held.set place frame)) _
    rw [holdings_append, holdings_set hdeed, ← holdings_append]
    exact h.holds

theorem Reachable.act {options : Options} {device : σ} (h : Reachable harmless options device c)
    {deeds : List (Deed σ)}
    (hdeeds : deeds.Forall fun deed => ∀ c : Custody σ, c.Permits harmless deed) :
    Reachable harmless options device (c.act deeds) :=
  List.foldlRecOn deeds _ h fun _ hc deed hdeed =>
    hc.next (List.forall_iff_forall_mem.1 hdeeds deed hdeed _)

/-- A law that may depend on the objects of the session holds in every state that can be reached,
if it holds on opening. -/
theorem Reachable.obeys {options : Options} {device : σ} (h : Reachable harmless options device c)
    (law : Fixtures → Device.Law σ) (hlaw : ∀ u, Device.Upholds u (law u))
    (hharmless : ∀ u change, harmless change → ∀ pool held d, law u pool held d →
      law u pool held (change d))
    (hopen : ∀ s, Session.open? options device = .ok s → law s.fixtures none [] s.device) :
    c.session.Obeys c.session.fixtures (law c.session.fixtures) c.held := by
  induction h with
  | @opened s hs =>
    refine ⟨rfl, ?_⟩
    obtain ⟨config, d₁, context, d₂, available, d₃, descriptors, later, -, -, -, -, rfl⟩ :=
      Session.eq_of_open hs
    exact hopen _ hs
  | @next c deed _ hdeed ih =>
    have hnext := obeys_next (hlaw _) (hharmless _) ih hdeed
    have hsame : (c.next deed).session.fixtures = c.session.fixtures := hnext.fixtures_eq
    rw [hsame]
    exact hnext

end Custody

end Deinterlace
