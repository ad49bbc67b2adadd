import Deinterlace.Proofs.Va.Effects
import Mathlib.Data.List.Perm.Basic

/-!
# The log of a driver

What may have become of a driver shows in its log (`Leads.exists_added`). From the log it can be
told which surfaces and buffers there are (`surfaces`, `buffers`): those that were made and have not
been destroyed since. A driver that gives every new surface a number of its own (`Fresh`) may well
give the number of a surface again that has been destroyed.
-/
namespace Deinterlace.Va

/-- The surfaces that a call destroys. -/
def Call.destroyed? : Call → Option (List Nat)
  | .destroySurfaces ids => some ids
  | _ => none

namespace Event

/-- A call that was allowed with the status that it was answered with, or a write. -/
def Within (allowed : Call → Int → Prop) : Event → Prop
  | .called c status _ => allowed c status
  | .wrote .. => True

/-- The surface that a call has made. -/
def created? : Event → Option Nat
  | .called (.createSurfaces ..) status id => if status = success then some id else none
  | _ => none

/-- The surfaces after something has happened, where `ids` were there before. -/
def change (e : Event) (ids : List Nat) : List Nat :=
  match e with
  | .called (.createSurfaces ..) status id => if status = success then id :: ids else ids
  | .called (.destroySurfaces gone) _ _ => ids.diff gone
  | _ => ids

/-- The buffers after something has happened, where `known` were there before. -/
def changeBuffers (e : Event) (known : List (Nat × Nat)) : List (Nat × Nat) :=
  match e with
  | .called (.createBuffer _ _ contents) status id =>
    if status = success then (id, contents.typeCode) :: known else known
  | .called (.destroyBuffer id) _ _ => known.filter (·.1 != id)
  | _ => known

end Event

/-- The surfaces that there are, latest first. -/
def surfaces (log : List Event) : List Nat := log.foldr Event.change []

/-- The buffers that there are, each with the code of its type, latest first. -/
def buffers (log : List Event) : List (Nat × Nat) := log.foldr Event.changeBuffers []

/-- The surfaces that have been made, latest first. -/
def created (log : List Event) : List Nat := log.filterMap Event.created?

@[simp] theorem Event.created?_made (layout width height count attributes id : Nat) :
    created? (.called (.createSurfaces layout width height count attributes) success id) =
      some id := by
  simp only [created?, if_true]

@[simp] theorem surfaces_made (layout width height count attributes id : Nat) (log : List Event) :
    surfaces (.called (.createSurfaces layout width height count attributes) success id :: log) =
      id :: surfaces log := by
  simp only [surfaces, List.foldr_cons, Event.change, if_true]

/-- Every surface that was made got a number that stands for an object, and not that of a surface
that there was at the time. -/
def Fresh : List Event → Prop
  | [] => True
  | e :: earlier =>
    (∀ id ∈ e.created?, id ≠ noObject ∧ id ∉ surfaces earlier) ∧ Fresh earlier

instance decidableFresh : (log : List Event) → Decidable (Fresh log)
  | [] => .isTrue trivial
  | _ :: earlier =>
    have := decidableFresh earlier
    inferInstanceAs (Decidable (_ ∧ _))

/-- No surface has the number of another one. -/
theorem Fresh.nodup {log : List Event} (h : Fresh log) : (surfaces log).Nodup := by
  induction log with
  | nil => exact List.nodup_nil
  | cons e earlier ih =>
    have hearlier := ih h.2
    show (e.change (surfaces earlier)).Nodup
    unfold Event.change
    split
    · split
      · rename_i hstatus
        exact List.nodup_cons.2 ⟨(h.1 _ (if_pos hstatus)).2, hearlier⟩
      · exact hearlier
    · exact hearlier.diff
    · exact hearlier

variable {δ : Type} [Library δ] {allowed : Call → Int → Prop} {l later : Logged δ}

/-- What has happened stands in the log. -/
theorem Leads.exists_added (h : Leads allowed l later) :
    ∃ added, later.log = added ++ l.log ∧ ∀ e ∈ added, e.Within allowed := by
  induction h with
  | refl => exact ⟨[], rfl, List.forall_mem_nil _⟩
  | call c _ hc ih =>
    obtain ⟨added, heq, hadded⟩ := ih
    exact ⟨_ :: added, congrArg (_ :: ·) heq, List.forall_mem_cons.2 ⟨hc, hadded⟩⟩
  | write address patch _ ih =>
    obtain ⟨added, heq, hadded⟩ := ih
    exact ⟨_ :: added, congrArg (_ :: ·) heq, List.forall_mem_cons.2 ⟨trivial, hadded⟩⟩

/-- Where no surface may be made, none is. -/
theorem Leads.created_eq_of_never (hnever : ∀ layout width height count attributes,
    ¬ allowed (.createSurfaces layout width height count attributes) success)
    (h : Leads allowed l later) : created later.log = created l.log := by
  obtain ⟨added, heq, hadded⟩ := h.exists_added
  have hnone : ∀ e ∈ added, e.created? = none := by
    intro e he
    have hwithin := hadded e he
    unfold Event.created?
    split
    · refine if_neg ?_
      rintro rfl
      exact hnever _ _ _ _ _ hwithin
    · rfl
  rw [heq, created, List.filterMap_append, List.filterMap_eq_nil_iff.2 hnone]
  rfl

/-! ## Calls that concern no surface -/

namespace Event.Within

variable {e : Event} (h : e.Within Call.Spares)
include h

theorem change_eq (ids : List Nat) : e.change ids = ids := by
  unfold change
  split
  · exact if_neg h
  · exact absurd h id
  · rfl

theorem destroyed?_eq_none : e.call?.bind Call.destroyed? = none := by
  cases e with
  | wrote => rfl
  | called c status output => cases c <;> first | rfl | cases h

theorem call?_ne_terminate : e.call? ≠ some .terminate := by
  cases e with
  | wrote => exact nofun
  | called c status output =>
    rintro ⟨⟩
    exact h

end Event.Within

namespace Leads

variable (h : Leads Call.Spares l later)
include h

theorem created_eq : created later.log = created l.log :=
  h.created_eq_of_never fun _ _ _ _ _ hspares => hspares rfl

theorem surfaces_eq : surfaces later.log = surfaces l.log := by
  obtain ⟨added, heq, hadded⟩ := h.exists_added
  rw [heq]
  clear heq
  induction added with
  | nil => rfl
  | cons e rest ih =>
    obtain ⟨he, hrest⟩ := List.forall_mem_cons.1 hadded
    exact (he.change_eq _).trans (ih hrest)

theorem destroyed_eq :
    later.calls.filterMap Call.destroyed? = l.calls.filterMap Call.destroyed? := by
  obtain ⟨added, heq, hadded⟩ := h.exists_added
  rw [Logged.calls, Logged.calls, heq, List.filterMap_append, List.reverse_append,
    List.filterMap_append]
  have hnone : ((added.filterMap Event.call?).reverse).filterMap Call.destroyed? = [] := by
    rw [List.filterMap_reverse, List.filterMap_filterMap,
      List.filterMap_eq_nil_iff.2 fun e he => (hadded e he).destroyed?_eq_none]
    rfl
  rw [hnone, List.append_nil]

theorem terminate_not_mem (hnever : .terminate ∉ l.calls) : .terminate ∉ later.calls := by
  obtain ⟨added, heq, hadded⟩ := h.exists_added
  rw [Logged.calls, heq, List.filterMap_append, List.reverse_append, List.mem_append, not_or]
  refine ⟨hnever, fun hmem => ?_⟩
  obtain ⟨e, he, hcall⟩ := List.mem_filterMap.1 (List.mem_reverse.1 hmem)
  exact (hadded e he).call?_ne_terminate hcall

end Leads

/-! ## Calls that make nothing -/

theorem Leads.created_eq_of_mute (h : Leads Call.Mute l later) :
    created later.log = created l.log :=
  h.created_eq_of_never fun _ _ _ _ _ hmute => hmute rfl

/-- What a driver is not told of buffers does not change them. -/
theorem Leads.buffers_eq (h : Leads Call.Mute l later) : buffers later.log = buffers l.log := by
  obtain ⟨added, heq, hadded⟩ := h.exists_added
  rw [heq]
  clear heq
  induction added with
  | nil => rfl
  | cons e rest ih =>
    obtain ⟨he, hrest⟩ := List.forall_mem_cons.1 hadded
    refine Eq.trans ?_ (ih hrest)
    show e.changeBuffers _ = _
    unfold Event.changeBuffers
    split
    · exact absurd he id
    · exact absurd he id
    · rfl

/-! ## Single calls -/

namespace Logged

theorem eq_of_call {c : Call} {status : Int} {output : c.Output} {l later : Logged δ}
    (h : Library.call c l = (status, output, later)) :
    ∃ driver, later = ⟨driver, .called c status output :: l.log⟩ := by
  have hcall : Library.call c l = ((Library.call c l.driver).1, (Library.call c l.driver).2.1,
      (⟨(Library.call c l.driver).2.2, .called c (Library.call c l.driver).1
        (Library.call c l.driver).2.1 :: l.log⟩ : Logged δ)) := rfl
  rw [hcall] at h
  cases h
  exact ⟨_, rfl⟩

theorem calls_call (c : Call) (l : Logged δ) :
    (Library.call c l).2.2.calls = l.calls ++ [c] :=
  List.reverse_cons

end Logged

/-- Any driver in place of the present one. What has passed through the interface stays in the
log. -/
def Display.Swaps (change : Display (Logged δ) → Display (Logged δ)) : Prop :=
  ∀ d, ∃ driver : δ, change d = { d with driver := { d.driver with driver } }

omit [Library δ] in
theorem Display.Swaps.replaces {change : Display (Logged δ) → Display (Logged δ)}
    (h : Swaps change) : Replaces change := by
  intro d
  obtain ⟨driver, heq⟩ := h d
  exact ⟨_, heq⟩

end Deinterlace.Va
