import Deinterlace.Proofs.Va.Stock

/-!
# How long a VA display lasts

The log of its driver says what a display does in the end. The surfaces of a pool are destroyed when
the pool is gone, by one call, and those that were made are those of the pools (`Display.Booked`).
The display is terminated when it has been given up and every pool is gone, and nothing is called
after that (`Display.Lasts`). Both are kept by every operation of a session, and until the last
surface has come back when the session is over, whatever the driver answers.
-/
namespace Deinterlace.Va

/-- The surfaces of a pool that is gone, if it has made any. -/
def Pool.gone (p : Pool) : List (List Nat) := if p.isGone ∧ p.made ≠ [] then [p.made] else []

/-- The surfaces of the pools that are gone, for each pool that has made any. -/
def goneSurfaces (pools : List Pool) : List (List Nat) := pools.flatMap Pool.gone

/-- When every pool is gone, these are the surfaces of all pools. -/
theorem goneSurfaces_of_allGone {pools : List Pool} (h : ∀ p ∈ pools, p.isGone = true) :
    goneSurfaces pools = (pools.map (·.made)).filter (· ≠ []) := by
  induction pools with
  | nil => rfl
  | cons p rest ih =>
    obtain ⟨hp, hrest⟩ := List.forall_mem_cons.1 h
    have hrest := ih hrest
    unfold goneSurfaces at hrest ⊢
    rw [List.flatMap_cons, hrest]
    by_cases hmade : p.made = [] <;> simp [Pool.gone, hp, hmade]

variable {δ : Type} [Library δ]

namespace Display

/-! ## Surfaces -/

/-- The surfaces that have been destroyed are those of the pools that are gone, and those that have
been made are those of all pools. -/
structure Booked (d : Display (Logged δ)) : Prop where
  destroyed : (d.driver.calls.filterMap Call.destroyed?).Perm (goneSurfaces d.pools)
  created : (created d.driver.log).Perm (d.pools.flatMap (·.made))

theorem booked_reclaim {d : Display (Logged δ)} (h : d.Booked) : d.reclaim.Booked := by
  rcases d.reclaim_cases with ⟨-, heq⟩ | ⟨-, -, -, heq⟩ <;> rw [heq]
  · exact h
  · refine ⟨?_, h.created⟩
    show ((Library.call .terminate d.driver).2.2.calls.filterMap Call.destroyed?).Perm _
    rw [Logged.calls_call, List.filterMap_append]
    exact (List.append_nil _).symm ▸ h.destroyed

namespace Booked

variable {d later : Display (Logged δ)}

theorem unused {driver : δ} (h : d.Unused) (hleads : Leads Call.Spares ⟨driver, []⟩ d.driver) :
    d.Booked where
  destroyed := by
    rw [hleads.destroyed_eq, h.pools]
    exact .refl _
  created := by
    rw [hleads.created_eq, h.pools]
    exact .refl _

theorem spares (hspares : Spares d later) (h : d.Booked) : later.Booked := by
  have hpools : later.pools = d.pools := by rw [hspares.2]
  constructor
  · rw [hspares.1.destroyed_eq, hpools]
    exact h.destroyed
  · rw [hspares.1.created_eq, hpools]
    exact h.created

theorem vacate {i : PoolId} {p : Pool} (hp : d.pools[i]? = some p) (hkept : p.isGone = false)
    (h : d.Booked) : (d.vacate i p).Booked := by
  obtain ⟨hpools, -, -, -, -, hdriver⟩ := vacate_eq d i p
  constructor
  · obtain ⟨others, hbefore, hafter⟩ := Stock.flatMap_modify Pool.gone hp
    have hself : p.gone = [] := by simp [Pool.gone, hkept]
    have hlater := hafter fun p => { p with free := [], isGone := true }
    rw [hself, List.nil_append] at hbefore
    rw [hpools, hdriver]
    refine List.Perm.trans ?_ hlater.symm
    by_cases hmade : p.made = []
    · simpa [Pool.gone, hmade] using h.destroyed.trans hbefore
    · have hgone : Pool.gone { p with free := [], isGone := true } = [p.made] := by
        simp [Pool.gone, hmade]
      rw [if_neg hmade, Logged.calls_call, List.filterMap_append, hgone]
      exact ((h.destroyed.trans hbefore).append_right _).trans List.perm_append_comm
  · have hsame : ∀ p : Pool, ({ p with free := [], isGone := true } : Pool).made = p.made :=
      fun _ => rfl
    have hmade : (d.vacate i p).pools.flatMap (·.made) = d.pools.flatMap (·.made) := by
      rw [hpools]
      exact flatMap_modify_of_eq (fun p : Pool => p.made) hsame d.pools i
    rw [hmade, hdriver]
    split <;> exact h.created

theorem create {i : PoolId} {p : Pool} {id : Nat} {driver : Logged δ}
    (hp : d.pools[i]? = some p) (hkept : p.isGone = false)
    (hcall : Library.call (makes p.desc) d.driver = (success, id, driver)) (h : d.Booked) :
    Booked (modifyPool { d with driver } i fun p => { p with made := p.made ++ [id] }) := by
  obtain ⟨inner, rfl⟩ := Logged.eq_of_call hcall
  constructor
  · obtain ⟨others, hbefore, hafter⟩ := Stock.flatMap_modify Pool.gone hp
    have hself : p.gone = [] := by simp [Pool.gone, hkept]
    have hgrown : Pool.gone { p with made := p.made ++ [id] } = [] := by simp [Pool.gone, hkept]
    have hlater := hafter fun p => { p with made := p.made ++ [id] }
    rw [hself] at hbefore
    rw [hgrown] at hlater
    have hcalls : (d.driver.calls ++ [makes p.desc]).filterMap Call.destroyed? =
        d.driver.calls.filterMap Call.destroyed? := by
      rw [List.filterMap_append]
      exact List.append_nil _
    have hsame := (h.destroyed.trans hbefore).trans hlater.symm
    rw [← hcalls, ← Logged.calls_call, hcall] at hsame
    exact hsame
  · obtain ⟨others, hbefore, hafter⟩ := Stock.flatMap_modify (fun p : Pool => p.made) hp
    have hlater := hafter fun p => { p with made := p.made ++ [id] }
    refine ((h.created.trans hbefore).cons id).trans (.trans ?_ hlater.symm)
    exact (List.perm_append_singleton id p.made).symm.append_right others

end Booked

theorem upkeep_booked : Upkeep (Booked (δ := δ)) :=
  .of_spares
    { leases := fun _ h => ⟨h.destroyed, h.created⟩
      modify := by
        intro d i change hmade hgone h
        constructor
        · have hsame : ∀ p, (change p).gone = p.gone := fun p => by
            rw [Pool.gone, Pool.gone, hmade, hgone]
          have hpools : goneSurfaces (d.modifyPool i change).pools = goneSurfaces d.pools :=
            flatMap_modify_of_eq Pool.gone hsame d.pools i
          rw [hpools]
          exact h.destroyed
        · exact (flatMap_modify_of_eq _ hmade d.pools i).symm ▸ h.created
      leave := fun hp hkept h => booked_reclaim (h.vacate hp hkept) }
    Booked.spares
    (by
      intro d desc h
      constructor
      · show List.Perm _ (goneSurfaces (d.pools ++ [({ desc := desc } : Pool)]))
        rw [goneSurfaces, List.flatMap_append]
        exact (List.append_nil _).symm ▸ h.destroyed
      · show List.Perm _ ((d.pools ++ [({ desc := desc } : Pool)]).flatMap (·.made))
        rw [List.flatMap_append]
        exact (List.append_nil _).symm ▸ h.created)
    fun hp hkept _ => Booked.create hp hkept

/-! ## The end of the display -/

/-- The display is terminated when it has been given up and every pool is gone, and no sooner; that
is the last call. -/
structure Lasts (isOpen : Bool) (d : Display (Logged δ)) : Prop where
  isOpen_eq : d.isOpen = isOpen
  terminated_iff : d.isTerminated = true ↔ isOpen = false ∧ ∀ p ∈ d.pools, p.isGone = true
  once : d.isTerminated = true →
    ∃ earlier, d.driver.calls = earlier ++ [.terminate] ∧ .terminate ∉ earlier
  never : d.isTerminated = false → .terminate ∉ d.driver.calls

/-- The display has not been terminated. -/
structure Unended (d : Display (Logged δ)) : Prop where
  isTerminated_eq : d.isTerminated = false
  log : .terminate ∉ d.driver.calls

namespace Unended

variable {d later : Display (Logged δ)}

theorem spares (h : d.Unended) (hspares : Spares d later) : later.Unended where
  isTerminated_eq := by
    rw [hspares.2]
    exact h.isTerminated_eq
  log := hspares.1.terminate_not_mem h.log

theorem vacate (h : d.Unended) (i : PoolId) (p : Pool) : (d.vacate i p).Unended := by
  obtain ⟨-, -, -, hterminated, -, hdriver⟩ := vacate_eq d i p
  refine ⟨hterminated.trans h.isTerminated_eq, ?_⟩
  rw [hdriver]
  split
  · exact h.log
  · rw [Logged.calls_call, List.mem_append, not_or]
    exact ⟨h.log, by simp⟩

omit [Library δ] in
theorem lasts (h : d.Unended) (hopen : d.isOpen = true) : d.Lasts true where
  isOpen_eq := hopen
  terminated_iff := by simp [h.isTerminated_eq]
  once hdone := absurd (h.isTerminated_eq.symm.trans hdone) nofun
  never _ := h.log

theorem lasts_reclaim (h : d.Unended) : d.reclaim.Lasts d.isOpen := by
  rcases d.reclaim_cases with ⟨hstays, heq⟩ | ⟨hclosed, -, hgone, heq⟩ <;> rw [heq]
  · refine ⟨rfl, ?_, fun hdone => absurd (h.isTerminated_eq.symm.trans hdone) nofun,
      fun _ => h.log⟩
    rw [h.isTerminated_eq]
    exact ⟨nofun, fun hends => absurd ⟨hends.1, h.isTerminated_eq, hends.2⟩ hstays⟩
  · exact ⟨rfl, ⟨fun _ => ⟨hclosed, hgone⟩, fun _ => rfl⟩,
      fun _ => ⟨_, Logged.calls_call .terminate d.driver, h.log⟩, nofun⟩

end Unended

namespace Lasts

variable {isOpen : Bool} {d later : Display (Logged δ)}

omit [Library δ] in
theorem unended (h : d.Lasts isOpen)
    (hends : ¬ (isOpen = false ∧ ∀ p ∈ d.pools, p.isGone = true)) : d.Unended := by
  have hrunning : d.isTerminated = false := by
    rw [← Bool.not_eq_true]
    exact fun hdone => hends (h.terminated_iff.1 hdone)
  exact ⟨hrunning, h.never hrunning⟩

omit [Library δ] in
theorem unended_of_open (h : d.Lasts true) : d.Unended :=
  h.unended fun hends => nomatch hends.1

theorem spares (hspares : Spares d later) (h : d.Lasts true) : later.Lasts true := by
  refine (h.unended_of_open.spares hspares).lasts ?_
  rw [hspares.2]
  exact h.isOpen_eq

/-- Given up, the display is terminated if no pool needs it. -/
theorem close (h : d.Lasts true) : Lasts false (Device.close d) := by
  have hgiven : Unended { d with isOpen := false } :=
    ⟨h.unended_of_open.isTerminated_eq, h.unended_of_open.log⟩
  exact hgiven.lasts_reclaim

end Lasts

theorem endures_lasts (isOpen : Bool) : Endures (Lasts (δ := δ) isOpen) where
  leases _ h := ⟨h.isOpen_eq, h.terminated_iff, h.once, h.never⟩
  modify := by
    intro d i change _ hgone h
    refine ⟨h.isOpen_eq, h.terminated_iff.trans (and_congr_right fun _ => ?_), h.once, h.never⟩
    have hmap : (d.pools.modify i change).map (·.isGone) = d.pools.map (·.isGone) := by
      rw [Stock.map_modify Pool.isGone id hgone, List.modify_id]
    have hall := congrArg (fun flags => ∀ flag ∈ flags, flag = true) hmap
    simpa [modifyPool] using hall.symm
  leave := by
    intro d i p hp hkept h
    have hends : ¬ (isOpen = false ∧ ∀ p ∈ d.pools, p.isGone = true) := by
      rintro ⟨-, hgone⟩
      rw [hgone p (List.mem_of_getElem? hp)] at hkept
      cases hkept
    have hlasts := ((h.unended hends).vacate i p).lasts_reclaim
    rw [(vacate_eq d i p).2.2.1, h.isOpen_eq] at hlasts
    exact hlasts

theorem upkeep_lasts : Upkeep (Lasts (δ := δ) true) :=
  .of_spares (endures_lasts true) Lasts.spares
    (fun desc h => (Unended.lasts ⟨h.unended_of_open.isTerminated_eq, h.unended_of_open.log⟩
      h.isOpen_eq))
    (by
      intro d i p id driver _ _ _ hcall h
      refine Unended.lasts ⟨h.unended_of_open.isTerminated_eq, ?_⟩ h.isOpen_eq
      have hcalls := Logged.calls_call (makes p.desc) d.driver
      rw [hcall] at hcalls
      show _ ∉ driver.calls
      rw [hcalls, List.mem_append, not_or]
      exact ⟨h.unended_of_open.log, by simp⟩)

end Display

end Deinterlace.Va
