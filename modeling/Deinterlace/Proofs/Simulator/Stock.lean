import Deinterlace.Proofs.Device.Stock
import Deinterlace.Proofs.Simulator.Effects

/-!
# The stock of a simulated device

Every surface of a simulated device is free in its pool or out on a lease, and every pool knows how
many of its surfaces are out (`Simulator.Balanced`). The device upholds this
(`Simulator.upholds_balanced`).
-/
namespace Deinterlace.Simulator

def stock (d : Simulator) : Stock := ⟨d.pools.map (·.free), d.leases⟩

theorem mem_ids_of_free {d : Simulator} {p : Pool} (hp : p ∈ d.pools) {a : SurfaceId}
    (ha : a ∈ p.free) : a ∈ d.stock.ids :=
  List.mem_append_left _ (List.mem_flatten.2 ⟨p.free, List.mem_map_of_mem hp, ha⟩)

/-- The pool has made as many surfaces as are free or out, and not too many. -/
structure Pool.Tallies (p : Pool) (out : Nat) : Prop where
  allocated_eq : p.allocated = p.free.length + out
  allocated_le : p.allocated ≤ p.capacity

/-- The pools and the leases agree with each other and with the shares that are out. -/
structure Balanced (held : List Holding) (d : Simulator) : Prop where
  sound : d.stock.Sound d.nextId held
  pool_lt : ∀ i ∈ d.leases.live.map (·.pool), i < d.pools.length
  tallies : ∀ (i : PoolId) (p : Pool), d.pools[i]? = some p → p.Tallies (d.leases.countOf i)

section Release

variable {d : Simulator} {key : LeaseId}

/-- The last holder of a lease gives the surface back to its pool. -/
theorem release_of_last {l : Lease} (hkey : l.key = key)
    (h : d.leases.release? key = (some l, d.leases.without key)) :
    Device.release key d = d.withoutLease l := by
  subst hkey
  simp only [Device.release, Simulator.release, h, withoutLease, Leases.without]

theorem release_of_others {leases : Leases} (h : d.leases.release? key = (none, leases)) :
    Device.release key d = { d with leases } := by
  simp only [Device.release, Simulator.release, h]

end Release

namespace Balanced

variable {held : List Holding} {d later : Simulator}

theorem quiet (h : d.Balanced held) (hquiet : Quiet d later) : later.Balanced held where
  sound := by
    have hstock : later.stock = d.stock := by rw [stock, stock, hquiet.pools_eq, hquiet.leases_eq]
    rw [hstock]
    exact h.sound.mono hquiet.nextId_le
  pool_lt := by
    rw [hquiet.pools_eq, hquiet.leases_eq]
    exact h.pool_lt
  tallies := by
    rw [hquiet.pools_eq, hquiet.leases_eq]
    exact h.tallies

theorem perm (h : d.Balanced held) {more : List Holding} (hperm : held.Perm more) :
    d.Balanced more :=
  ⟨h.sound.perm hperm, h.pool_lt, h.tallies⟩

/-! ## Shares -/

/-- The number of holders of a lease is none of the pools' business. -/
theorem adjust {more : List Holding} (h : d.Balanced held) (key : LeaseId) (change : Nat → Nat)
    (hsound : Stock.Sound ⟨d.pools.map (·.free), d.leases.adjust key change⟩ d.nextId more) :
    Balanced more { d with leases := d.leases.adjust key change } where
  sound := hsound
  pool_lt := by
    show ∀ i ∈ (d.leases.adjust key change).live.map (·.pool), i < d.pools.length
    rw [Leases.map_adjust _ _ _ (·.pool) fun _ _ => rfl]
    exact h.pool_lt
  tallies i p hp := by
    show p.Tallies ((d.leases.adjust key change).countOf i)
    rw [Leases.countOf_adjust]
    exact h.tallies i p hp

theorem retain (h : d.Balanced held) {share : Holding} (hshare : share ∈ held) :
    Balanced (share :: held) (Device.retain share.lease d) :=
  h.adjust share.lease (· + 1) (h.sound.retain hshare)

/-- A lease that ends puts a surface back into its pool. -/
theorem without {more : List Holding} (h : d.Balanced held) {l : Lease} (hl : l ∈ d.leases.live)
    (hsound : (d.withoutLease l).stock.Sound d.nextId more) :
    (d.withoutLease l).Balanced more where
  sound := hsound
  pool_lt i hi := by
    obtain ⟨other, hother, rfl⟩ := List.mem_map.1 hi
    have hlt := h.pool_lt other.pool (List.mem_map_of_mem (List.mem_filter.1 hother).1)
    simpa [withoutLease, modifyPool] using hlt
  tallies i p hp := by
    have hcount : d.leases.countOf i =
        (d.withoutLease l).leases.countOf i + if l.pool = i then 1 else 0 := by
      have hlive : d.leases.live.Perm (l :: (d.withoutLease l).leases.live) :=
        Leases.perm_without h.sound.accounts.distinct hl
      rw [Leases.countOf, hlive.countP_eq]
      by_cases hi : l.pool = i <;> simp [Leases.countOf, hi]
    have hmodified : (d.pools.modify l.pool fun p =>
        { p with free := l.surface :: p.free })[i]? = some p := hp
    rw [List.getElem?_modify] at hmodified
    obtain ⟨before, hbefore, rfl⟩ := Option.map_eq_some_iff.1 hmodified
    obtain ⟨heq, hle⟩ := h.tallies i before hbefore
    rw [hcount] at heq
    by_cases hi : l.pool = i
    · simp only [hi, if_true] at heq ⊢
      exact ⟨by simp only [List.length_cons]; omega, hle⟩
    · simp only [hi, if_false] at heq ⊢
      exact ⟨heq, hle⟩

theorem stock_release (d : Simulator) (key : LeaseId) :
    (Device.release key d).stock = d.stock.release key := by
  show (Simulator.release key d).stock = _
  unfold Simulator.release Stock.release
  have hleases : d.stock.leases = d.leases := rfl
  rw [hleases]
  rcases d.leases.release? key with ⟨_ | lease, leases⟩
  · rfl
  · simp only [stock, modifyPool]
    rw [Stock.map_modify Pool.free (lease.surface :: ·) fun _ => rfl]

theorem release {share : Holding} (h : d.Balanced (share :: held)) :
    Balanced held (Device.release share.lease d) := by
  have hsound : (Device.release share.lease d).stock.Sound d.nextId held := by
    rw [stock_release]
    exact h.sound.release
  obtain ⟨l, hl, hkey, ⟨heq, -⟩ | ⟨heq, -⟩⟩ := h.sound.accounts.release_cases
  · rw [release_of_last hkey (hkey ▸ heq)] at hsound ⊢
    exact h.without hl hsound
  · rw [release_of_others heq] at hsound ⊢
    exact h.adjust l.key (· - 1) hsound

/-! ## Pools -/

theorem createPool (h : d.Balanced held) (desc : PoolDesc) :
    Balanced held (Device.createPool desc d).2 := by
  rcases createPool_cases d desc with ⟨e, heq⟩ | heq <;> rw [heq]
  · exact h
  · refine ⟨?_, ?_, ?_⟩
    · have hstock : stock (record (.createPool desc)
          { d with pools := d.pools ++ [{ desc := desc, capacity := d.poolCapacity }] }) =
            ⟨d.stock.shelves ++ [[]], d.stock.leases⟩ := by
        simp [stock, record]
      rw [hstock]
      exact h.sound.addShelf
    · intro i hi
      have hlt := h.pool_lt i hi
      show i < (d.pools ++ [_]).length
      rw [List.length_append]
      omega
    · intro i p hp
      have hpool : (d.pools ++ [{ desc := desc, capacity := d.poolCapacity }])[i]? = some p := hp
      rcases Nat.lt_or_ge i d.pools.length with hlt | hge
      · rw [List.getElem?_append_left hlt] at hpool
        exact h.tallies i p hpool
      · rw [List.getElem?_append_right hge] at hpool
        have hnew := List.mem_singleton.1 (List.mem_of_getElem? hpool)
        subst hnew
        -- nothing can have been lent from a pool that was not there
        have hnone : d.leases.countOf i = 0 := by
          rw [Leases.countOf_eq, List.count_eq_zero]
          exact fun hmem => Nat.not_lt.2 hge (h.pool_lt i hmem)
        show Pool.Tallies _ (d.leases.countOf i)
        rw [hnone]
        exact ⟨rfl, Nat.zero_le _⟩

/-- A device that has lent a surface from a pool, which has `change`d on the occasion. -/
theorem lend {pool : PoolId} {p : Pool} {id : SurfaceId} {next : Nat} {desc : PoolDesc}
    (h : d.Balanced held) (change : Pool → Pool) (hp : d.pools[pool]? = some p)
    (htallies : ∀ out, p.Tallies out → (change p).Tallies (out + 1))
    (hsound : Stock.Sound ⟨(d.pools.modify pool change).map (·.free),
      (d.leases.grant pool id).2⟩ next (⟨d.leases.nextKey, id⟩ :: held)) :
    Balanced (⟨d.leases.nextKey, id⟩ :: held)
      (({ d with pools := d.pools.modify pool change, nextId := next }).lend pool desc id).2 where
  sound := hsound
  pool_lt i hi := by
    show i < (d.pools.modify pool change).length
    rw [List.length_modify]
    rcases List.mem_cons.1 hi with rfl | hi
    · exact (List.getElem?_eq_some_iff.1 hp).1
    · exact h.pool_lt i hi
  tallies i q hq := by
    have hmodified : (d.pools.modify pool change)[i]? = some q := hq
    rw [List.getElem?_modify] at hmodified
    obtain ⟨before, hbefore, rfl⟩ := Option.map_eq_some_iff.1 hmodified
    show Pool.Tallies _ ((d.leases.grant pool id).2.countOf i)
    rw [Leases.countOf_grant]
    by_cases hi : pool = i
    · subst hi
      cases hp.symm.trans hbefore
      simp only [if_true]
      exact htallies _ (h.tallies pool p hp)
    · simp only [hi, if_false]
      exact h.tallies i before hbefore

theorem allocate (h : d.Balanced held) (pool : PoolId) :
    Balanced (((Device.allocate pool d).1.toOption.bind (·.holding?)).toList ++ held)
      (Device.allocate pool d).2 := by
  rcases allocate_cases d pool with ⟨e, heq, -⟩ | ⟨p, id, rest, hp, hfree, -, heq⟩ |
    ⟨p, hp, hfree, hroom, -, heq⟩ <;> rw [heq]
  · exact h
  · refine h.lend (fun p => { p with free := rest }) hp ?_ ?_
    · intro out ⟨heq, hle⟩
      refine ⟨?_, hle⟩
      rw [hfree, List.length_cons] at heq
      show p.allocated = rest.length + (out + 1)
      omega
    · rw [Stock.map_modify Pool.free (fun _ => rest) fun _ => rfl]
      refine h.sound.lendKnown ?_
      show (d.pools.map (·.free))[pool]? = _
      rw [List.getElem?_map, hp, Option.map_some, hfree]
  · refine h.lend (fun p => { p with allocated := p.allocated + 1 }) hp ?_ ?_
    · intro out ⟨heq, hle⟩
      exact ⟨by show p.allocated + 1 = p.free.length + (out + 1); omega, hroom⟩
    · have hsame : ∀ p : Pool, Pool.free { p with allocated := p.allocated + 1 } = id p.free :=
        fun _ => rfl
      rw [Stock.map_modify Pool.free id hsame, List.modify_id]
      exact h.sound.lendNew pool

end Balanced

/-- **Pools and leases stay in balance in whatever a session does.** -/
theorem upholds_balanced (u : Fixtures) :
    Device.Upholds u (fun _ held (d : Simulator) => d.Balanced held) where
  perm hperm h := h.perm hperm
  retain hshare h := h.retain hshare
  release h := h.release
  queryCaps _ h := by
    rw [queryCaps_eq]
    exact h.quiet (Quiet.record _ _)
  createPool desc _ h := h.createPool desc
  closePool h := h.quiet (Quiet.record _ _)
  allocate h := h.allocate _
  upload target frame d h := by
    rcases upload_cases d _ target frame with ⟨e, heq⟩ | heq <;> rw [heq]
    · exact h
    · exact h.quiet (Quiet.record _ _)
  submit flags request _ _ h := h.quiet (quiet_submit _ _ flags request _)

end Deinterlace.Simulator
