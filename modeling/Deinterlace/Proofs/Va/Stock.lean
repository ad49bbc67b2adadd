import Deinterlace.Proofs.Va.Housing
import Deinterlace.Proofs.Va.Log

/-!
# The stock of a VA device

By the log of its driver, the surfaces that there are on a VA device are those of its pools that are
not gone (`Display.Tallied`), whatever the driver answers. If the driver gives every new surface a
number of its own, no two of them have the same number (`Fresh.nodup`), so what lies on the shelf of
a pool is on no frame (`Display.surface_ne_of_free`).
-/
namespace Deinterlace.Va

/-- The surfaces of a pool, until it is gone. -/
def Pool.kept (p : Pool) : List Nat := if p.isGone then [] else p.made

/-- The surfaces of the pools that are not gone. -/
def keptSurfaces (pools : List Pool) : List Nat := pools.flatMap Pool.kept

/-- A change that does not concern what is seen of a pool. -/
theorem flatMap_modify_of_eq {β : Type} (view : Pool → List β) {change : Pool → Pool}
    (h : ∀ p, view (change p) = view p) (pools : List Pool) (i : PoolId) :
    (pools.modify i change).flatMap view = pools.flatMap view := by
  have hmap : (pools.modify i change).map view = pools.map view := by
    rw [Stock.map_modify view id h, List.modify_id]
  rw [List.flatMap, hmap, List.flatMap]

theorem diff_append_self {α : Type} [BEq α] [LawfulBEq α] (l rest : List α) :
    (l ++ rest).diff l = rest := by
  induction l with
  | nil => rfl
  | cons a l ih => rw [List.cons_append, List.diff_cons, List.erase_cons_head, ih]

variable {δ : Type} [Library δ]

namespace Display

/-- The surfaces that there are by the log are those of the pools that are not gone. -/
def Tallied (d : Display (Logged δ)) : Prop :=
  (surfaces d.driver.log).Perm (keptSurfaces d.pools)

theorem surfaces_reclaim (d : Display (Logged δ)) :
    surfaces d.reclaim.driver.log = surfaces d.driver.log := by
  rcases d.reclaim_cases with ⟨-, heq⟩ | ⟨-, -, -, heq⟩ <;> rw [heq]
  rfl

theorem surfaces_vacate (d : Display (Logged δ)) (i : PoolId) (p : Pool) :
    surfaces (d.vacate i p).driver.log = (surfaces d.driver.log).diff p.made := by
  obtain ⟨-, -, -, -, -, hdriver⟩ := vacate_eq d i p
  rw [hdriver]
  split
  · rename_i hmade
    rw [hmade, List.diff_nil]
  · rfl

namespace Tallied

variable {d later : Display (Logged δ)}

theorem unused {driver : δ} (h : d.Unused) (hleads : Leads Call.Spares ⟨driver, []⟩ d.driver) :
    d.Tallied := by
  unfold Tallied
  rw [hleads.surfaces_eq, h.pools]
  exact .refl _

theorem spares (hspares : Spares d later) (h : d.Tallied) : later.Tallied := by
  unfold Tallied
  rw [hspares.1.surfaces_eq, hspares.2]
  exact h

theorem leave {i : PoolId} {p : Pool} (hp : d.pools[i]? = some p) (hkept : p.isGone = false)
    (h : d.Tallied) : (d.vacate i p).reclaim.Tallied := by
  obtain ⟨others, hbefore, hafter⟩ := Stock.flatMap_modify Pool.kept hp
  have hself : p.kept = p.made := by simp [Pool.kept, hkept]
  rw [hself] at hbefore
  unfold Tallied
  rw [surfaces_reclaim, surfaces_vacate, (reclaim_eq _).1, (vacate_eq d i p).1]
  refine ((h.trans hbefore).diff_right p.made).trans ?_
  rw [diff_append_self]
  exact (hafter fun p => { p with free := [], isGone := true }).symm

theorem create {i : PoolId} {p : Pool} {id : Nat} {driver : Logged δ}
    (hp : d.pools[i]? = some p) (hkept : p.isGone = false)
    (hcall : Library.call (makes p.desc) d.driver = (success, id, driver)) (h : d.Tallied) :
    Tallied (modifyPool { d with driver } i fun p => { p with made := p.made ++ [id] }) := by
  have hlog : surfaces driver.log = id :: surfaces d.driver.log := by
    obtain ⟨inner, rfl⟩ := Logged.eq_of_call hcall
    exact surfaces_made _ _ _ _ _ id _
  obtain ⟨others, hbefore, hafter⟩ := Stock.flatMap_modify Pool.kept hp
  have hself : p.kept = p.made := by simp [Pool.kept, hkept]
  have hgrown : Pool.kept { p with made := p.made ++ [id] } = p.made ++ [id] := by
    simp [Pool.kept, hkept]
  have hlater := hafter fun p => { p with made := p.made ++ [id] }
  rw [hself] at hbefore
  rw [hgrown] at hlater
  show (surfaces driver.log).Perm _
  rw [hlog]
  refine ((h.trans hbefore).cons id).trans (.trans ?_ hlater.symm)
  exact (List.perm_append_singleton id p.made).symm.append_right others

end Tallied

theorem upkeep_tallied : Upkeep (Tallied (δ := δ)) :=
  .of_spares
    { leases := fun _ h => h
      modify := by
        intro d i change hmade hgone h
        have hkept : ∀ p, (change p).kept = p.kept := fun p => by
          rw [Pool.kept, Pool.kept, hmade, hgone]
        unfold Tallied keptSurfaces modifyPool
        rw [flatMap_modify_of_eq Pool.kept hkept]
        exact h
      leave := Tallied.leave }
    Tallied.spares
    (by
      intro d desc h
      unfold Tallied keptSurfaces
      rw [List.flatMap_append]
      exact (List.append_nil _).symm ▸ h)
    fun hp hkept _ => Tallied.create hp hkept

/-! ## Surfaces on frames -/

section Frames

variable {pool : Option PoolId} {held : List Holding} {d : Display (Logged δ)}

omit [Library δ] in
/-- The surface of a frame is out of a pool that is not gone. -/
theorem Housed.exists_pool (h : d.Housed pool none held) {share : Holding} (hshare : share ∈ held) :
    ∃ l ∈ d.leases.live, l.key = share.lease ∧ share.surface ∈ d.leases.out l.pool ∧
      ∃ p, d.pools[l.pool]? = some p ∧ p.isGone = false ∧ share.surface.value ∈ p.made := by
  obtain ⟨l, hl, hkey, hsurface⟩ := h.accounts.entered share hshare
  have hout := Leases.mem_out hl
  have hlt : l.pool < d.pools.length := h.out_lt l.pool (List.ne_nil_of_mem hout)
  have hp : d.pools[l.pool]? = some d.pools[l.pool] := List.getElem?_eq_getElem hlt
  have hkept := h.isGone_of_out hp (List.ne_nil_of_mem hout)
  rw [hsurface] at hout
  refine ⟨l, hl, hkey, hout, _, hp, hkept, ?_⟩
  exact ((h.suits _ _ hp).made hkept).mem_iff.1
    (List.mem_map_of_mem (List.mem_append_right _ hout))

omit [Library δ] in
/-- The surface of a frame is there. -/
theorem mem_surfaces_of_held (h : d.Housed pool none held) (htallied : d.Tallied)
    {share : Holding} (hshare : share ∈ held) :
    share.surface.value ∈ surfaces d.driver.log := by
  obtain ⟨l, -, -, -, p, hp, hkept, hmade⟩ := h.exists_pool hshare
  refine htallied.mem_iff.2 (List.mem_flatMap.2 ⟨p, List.mem_of_getElem? hp, ?_⟩)
  rw [Pool.kept, hkept]
  exact hmade

omit [Library δ] in
/-- A surface on a shelf is on no frame. -/
theorem surface_ne_of_free (h : d.Housed pool none held) (htallied : d.Tallied)
    (hfresh : Fresh d.driver.log) {i : PoolId} {p : Pool} (hp : d.pools[i]? = some p)
    {id : SurfaceId} (hid : id ∈ p.free) {share : Holding} (hshare : share ∈ held) :
    id ≠ share.surface := by
  have hkept : p.isGone = false := by
    rw [← Bool.not_eq_true]
    intro hgone
    rw [((h.suits i p hp).gone hgone).2.2] at hid
    cases hid
  have hmade := (h.suits i p hp).made hkept
  obtain ⟨hown, hpools⟩ := List.nodup_flatMap.1 (htallied.nodup_iff.1 hfresh.nodup)
  obtain ⟨l, -, -, hout, q, hq, hqkept, hqmade⟩ := h.exists_pool hshare
  have hself : p.kept = p.made := by simp [Pool.kept, hkept]
  have hother : q.kept = q.made := by simp [Pool.kept, hqkept]
  rintro rfl
  by_cases hpool : l.pool = i
  · -- it would be on the shelf and out of the same pool
    have happart := hown p (List.mem_of_getElem? hp)
    rw [hself, ← hmade.nodup_iff, List.map_append, List.nodup_append] at happart
    rw [hpool] at hout
    exact happart.2.2 _ (List.mem_map_of_mem hid) _ (List.mem_map_of_mem hout) rfl
  · -- it would be of two pools
    have hdisjoint : List.Disjoint p.kept q.kept := by
      obtain ⟨hi, rfl⟩ := List.getElem?_eq_some_iff.1 hp
      obtain ⟨hk, rfl⟩ := List.getElem?_eq_some_iff.1 hq
      rcases Nat.lt_or_gt_of_ne hpool with hlt | hlt
      · exact fun id hleft hright =>
          List.pairwise_iff_getElem.1 hpools _ _ hk hi hlt hright hleft
      · exact List.pairwise_iff_getElem.1 hpools _ _ hi hk hlt
    rw [hself, hother] at hdisjoint
    refine hdisjoint (hmade.mem_iff.1 ?_) hqmade
    exact List.mem_map_of_mem (List.mem_append_left _ hid)

end Frames

end Display

end Deinterlace.Va
