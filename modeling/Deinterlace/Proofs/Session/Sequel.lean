import Deinterlace.Proofs.Session.Oblivion
import Deinterlace.Proofs.Session.Readings
import Deinterlace.Proofs.Simulator.Mirrored

/-!
# What comes next

From some point on, the callers of two sessions make the same moves, new streams among them, and the
same calls are made to fail on both devices (`Sequel`). If the devices mirror each other at that
point, the callers stay in step and are told the same up to names (`Custody.InStep.ensues`), as long
as the left device does not run out of numbers. What they read off their sessions in the end is the
same too (`Custody.InStep.sameAfterwards`).
-/
namespace Deinterlace

/-- What may come next: a move of the caller's, or another choice of the calls that fail. -/
inductive Sequel
  | move (m : Move)
  | fail (failing : List EntryPoint)

namespace Sequel

/-- A frame that is handed in comes from outside. -/
def FromOutside : Sequel → Prop
  | .move m => m.FromOutside
  | .fail _ => True

/-- The surfaces of the frames that are handed in. -/
def surfaces (qs : List Sequel) : List SurfaceId :=
  qs.flatMap fun q =>
    match q with
    | .move m => Move.surfaces [m]
    | .fail _ => []

theorem surfaces_cons (q : Sequel) (qs : List Sequel) :
    surfaces (q :: qs) = surfaces [q] ++ surfaces qs := by
  simp [surfaces]

end Sequel

namespace Custody

open Simulator

variable {c u : Custody Simulator}

def ensue (c : Custody Simulator) : Sequel → Custody Simulator
  | .move m => c.move m
  | .fail failing => c.withFailures failing

def ensues (c : Custody Simulator) (qs : List Sequel) : Custody Simulator := qs.foldl ensue c

/-- What the caller is told. -/
def reply (c : Custody Simulator) : Sequel → Answer
  | .move m => c.answer m
  | .fail _ => .done

def replies (c : Custody Simulator) : List Sequel → List Answer
  | [] => []
  | q :: qs => c.reply q :: (c.ensue q).replies qs

/-- The surfaces of the frames that are around and that no pool has lent. -/
def strangers (c : Custody Simulator) : List SurfaceId :=
  (c.frames.filter (·.holding?.isNone)).map (·.surfaceId)

/-- Numbers are used up and never given back. -/
theorem nextId_le_ensue {q : Sequel} (hq : q.FromOutside) :
    c.session.device.nextId ≤ (c.ensue q).session.device.nextId := by
  cases q with
  | move m =>
    have haged : c.session.device.Aged (c.moves [m]).session.device :=
      aged_moves fun other hother => List.mem_singleton.1 hother ▸ hq
    exact haged.nextId_le
  | fail failing => exact Nat.le_refl _

theorem nextId_le_ensues {qs : List Sequel} (hqs : ∀ q ∈ qs, q.FromOutside) :
    c.session.device.nextId ≤ (c.ensues qs).session.device.nextId := by
  induction qs generalizing c with
  | nil => exact Nat.le_refl _
  | cons q qs ih =>
    have hfirst : c.session.device.nextId ≤ (c.ensue q).session.device.nextId :=
      nextId_le_ensue (hqs q List.mem_cons_self)
    exact Nat.le_trans hfirst (ih fun other hother => hqs other (List.mem_cons_of_mem _ hother))

/-- The callers make the moves of `qs` while the same calls fail. They are told the same, they can
read the same off their sessions in the end, as many surfaces are out, and the same is rendered for
them, up to surfaces of pools, none of which stands for two. -/
def SameAfterwards (qs : List Sequel) (c u : Custody Simulator) : Prop :=
  ∃ n : Names, n.OneToOne ∧ (∀ x ∈ n.buffers, x.2 = x.1) ∧
    List.Forall₂ (Answer.Alike n) (c.replies qs) (u.replies qs) ∧
    (c.ensues qs).session.ReadsAlike n (u.ensues qs).session ∧
    (u.ensues qs).session.device.pools.map (·.inUse) =
      (c.ensues qs).session.device.pools.map (·.inUse) ∧
    ∃ since since',
      (c.ensues qs).session.device.submissions = c.session.device.submissions ++ since ∧
      (u.ensues qs).session.device.submissions = u.session.device.submissions ++ since' ∧
      List.Forall₂ (Submission.Alike (n.Links (c.strangers ++ Sequel.surfaces qs)) n) since since'

/-! ## Callers whose devices mirror each other -/

variable {t : Fork} {n : Names} {pools : Option (PoolId × PoolId)}
variable {inside out : List (Frame × Frame)}

/-- Frames from outside may be handed in on both sides. -/
theorem meets_mirroring {m : Move} (hm : m.FromOutside) (houter : Move.surfaces [m] ⊆ t.outer)
    (hnew : ∀ params, m ≠ .reconfigure params) : m.Meets (mirroring t) := by
  cases m with
  | input frame =>
    rintro f rfl
    refine ⟨hm f rfl, fun n => ⟨.refl n (hm f rfl), fun _ => houter ?_⟩, fun _ => trivial⟩
    simp [Move.surfaces]
  | reconfigure params => exact absurd rfl (hnew params)
  | output => trivial
  | take => trivial
  | seek => trivial
  | switch on => trivial
  | give place => trivial
  | share place => trivial
  | drop place => trivial
  | revise place like => trivial

namespace InStep

/-- The callers go on to a new stream with whatever they hold. -/
theorem renew (h : InStep (mirroring t) n pools inside out c u) (params : StreamParams) :
    ∃ pools', InStep (mirroring t) n pools' [] out (c.move (.reconfigure params))
        (u.move (.reconfigure params)) ∧
      (c.answer (.reconfigure params)).Alike n (u.answer (.reconfigure params)) := by
  obtain ⟨pools', hafter, hresult⟩ :=
    h.sessions.reconfigure (renewsBeside_mirroring t _) fun _ _ => trivial
  exact ⟨pools', ⟨hafter, h.held_eq, h.held_eq', h.alone⟩, .of_eq .configured hresult⟩

theorem fail (h : InStep (mirroring t) n pools inside out c u) (failing : List EntryPoint) :
    InStep (mirroring t) n pools inside out (c.withFailures failing) (u.withFailures failing) := by
  obtain ⟨hsame, hmirrored⟩ := h.sessions.bond
  exact ⟨{ h.sessions with
    agrees := h.sessions.agrees.congr rfl rfl rfl rfl h.sessions.agrees.held
    agrees' := h.sessions.agrees'.congr rfl rfl rfl rfl h.sessions.agrees'.held
    bond := ⟨hsame, hmirrored.fail failing⟩ }, h.held_eq, h.held_eq', h.alone⟩

theorem ensue (h : InStep (mirroring t) n pools inside out c u)
    (hroom : c.session.device.nextId < (Handle.invalid : SurfaceId).value) {q : Sequel}
    (hq : q.FromOutside) (houter : Sequel.surfaces [q] ⊆ t.outer) :
    ∃ later pools' inside' out', n.Grows later ∧
      InStep (mirroring t) later pools' inside' out' (c.ensue q) (u.ensue q) ∧
      (c.reply q).Alike later (u.reply q) := by
  cases q with
  | fail failing => exact ⟨n, pools, inside, out, .refl n, h.fail failing, .done⟩
  | move m =>
    by_cases hnew : ∃ params, m = .reconfigure params
    · obtain ⟨params, rfl⟩ := hnew
      obtain ⟨pools', hafter, hanswer⟩ := h.renew params
      exact ⟨n, pools', [], out, .refl n, hafter, hanswer⟩
    · have hsurfaces : Move.surfaces [m] ⊆ t.outer := by
        intro a ha
        exact houter (List.mem_flatMap.2 ⟨.move m, List.mem_cons_self, ha⟩)
      exact h.move hroom (meets_mirroring hq hsurfaces fun params heq => hnew ⟨params, heq⟩)

/-- What has been counted stays the same on both sides, and the stream. -/
theorem sameRecords_ensue {k : Coupling Simulator Simulator} (h : InStep k n pools inside out c u)
    (hrecords : c.session.SameRecords u.session) {later : Names} {q : Sequel}
    (hreply : (c.reply q).Alike later (u.reply q)) :
    (c.ensue q).session.SameRecords (u.ensue q).session := by
  cases q with
  | fail failing => exact ⟨hrecords.stats_eq, hrecords.params_eq⟩
  | move m => exact sameRecords_move hrecords h.sessions.passesThrough_eq hreply

/-- **Whatever comes next keeps the callers in step.** -/
theorem ensues (h : InStep (mirroring t) n pools inside out c u)
    (hrecords : c.session.SameRecords u.session) {qs : List Sequel}
    (hqs : ∀ q ∈ qs, q.FromOutside) (houter : Sequel.surfaces qs ⊆ t.outer)
    (hlast : (c.ensues qs).session.device.nextId < (Handle.invalid : SurfaceId).value) :
    ∃ later pools' inside' out', n.Grows later ∧
      InStep (mirroring t) later pools' inside' out' (c.ensues qs) (u.ensues qs) ∧
      (c.ensues qs).session.SameRecords (u.ensues qs).session ∧
      List.Forall₂ (Answer.Alike later) (c.replies qs) (u.replies qs) := by
  induction qs generalizing c u n pools inside out with
  | nil => exact ⟨n, pools, inside, out, .refl n, h, hrecords, .nil⟩
  | cons q qs ih =>
    rw [Sequel.surfaces_cons] at houter
    obtain ⟨hfirst, hrest⟩ := List.append_subset.1 houter
    have hroom := Nat.lt_of_le_of_lt (nextId_le_ensues hqs) hlast
    obtain ⟨middle, pools₁, inside₁, out₁, hgrows₁, hstep, hreply⟩ :=
      h.ensue hroom (hqs q List.mem_cons_self) hfirst
    obtain ⟨later, pools₂, inside₂, out₂, hgrows₂, hafter, hread, hreplies⟩ :=
      ih hstep (h.sameRecords_ensue hrecords hreply)
        (fun other hother => hqs other (List.mem_cons_of_mem _ hother)) hrest hlast
    exact ⟨later, pools₂, inside₂, out₂, hgrows₁.trans hgrows₂, hafter, hread,
      .cons (hreply.mono hgrows₂) hreplies⟩

theorem readsAlike (h : InStep (mirroring t) n pools inside out c u)
    (hrecords : c.session.SameRecords u.session) : c.session.ReadsAlike n u.session where
  toSameRecords := hrecords
  pool_eq := by
    obtain ⟨hsame, -⟩ := h.sessions.bond
    rw [h.sessions.pool_eq, h.sessions.pool_eq']
    cases pools with
    | none => rfl
    | some x => exact congrArg some (hsame x rfl)
  deinterlacing_eq := h.sessions.deinterlacing_eq
  chain := h.sessions.chain
  blank_eq := h.sessions.window.blank_eq
  frames := by
    rw [h.sessions.window.left, h.sessions.window.right, List.forall₂_map_left_iff,
      List.forall₂_map_right_iff]
    exact List.forall₂_same.2 fun p hp => (mirroring t).alike (h.sessions.seen p hp)

/-- Callers that are in step from the start are told the same afterwards. -/
theorem sameAfterwards (h : InStep (mirroring t) n pools inside out c u)
    (hrecords : c.session.SameRecords u.session) {qs : List Sequel}
    (hqs : ∀ q ∈ qs, q.FromOutside) (houter : t.outer = c.strangers ++ Sequel.surfaces qs)
    (hbefore : c.session.device.rendered = t.before)
    (hbefore' : u.session.device.rendered = t.before)
    (hlast : (c.ensues qs).session.device.nextId < (Handle.invalid : SurfaceId).value) :
    SameAfterwards qs c u := by
  obtain ⟨later, pools', inside', out', hgrows, hafter, hread, hreplies⟩ :=
    h.ensues hrecords hqs (houter ▸ List.subset_append_right _ _) hlast
  have hnamed : later.buffers = t.fixtures.filters.zip t.fixtures.filters := hafter.sessions.named
  obtain ⟨-, hmirrored⟩ := hafter.sessions.bond
  obtain ⟨since, since', heq, heq', halike⟩ := hmirrored.rendered
  refine ⟨later, hmirrored.oneToOne hnamed, ?_, hreplies, hafter.readsAlike hread,
    hmirrored.inUse_eq.symm, since.reverse, since'.reverse, ?_, ?_, ?_⟩
  · intro x hx
    have hpaired : List.Forall₂ Eq t.fixtures.filters t.fixtures.filters :=
      List.forall₂_same.2 fun _ _ => rfl
    exact ((List.forall₂_iff_zip.1 hpaired).2 (hnamed ▸ hx)).symm
  · rw [submissions, submissions, heq, List.reverse_append, hbefore]
  · rw [submissions, submissions, heq', List.reverse_append, hbefore']
  · rw [← houter]
    exact List.rel_reverse halike

end InStep

end Custody

end Deinterlace
