import Deinterlace.Proofs.Simulator.Mirrored

/-!
# What a refused upload leaves behind

An upload that fails gives its surface back. If the surface came off the shelf of the pool, the
device is as it was, apart from its log and the keys of its leases; if it was made for the upload,
the pool has it on its shelf from then on (`Simulator.residue_upload`). The same surfaces are out
(`Simulator.Residue.sameOut`), and a device with such a residue mirrors the one that it was before
(`Simulator.Residue.mirrored`).
-/
namespace Deinterlace

/-- Which leases end is read off those that there are. -/
theorem Leases.release?_congr {b b' : Leases} (h : b'.live = b.live) (key : LeaseId) :
    (b'.release? key).1 = (b.release? key).1 ∧
      (b'.release? key).2.live = (b.release? key).2.live := by
  unfold release? find?
  rw [h]
  split
  · exact ⟨rfl, h⟩
  · split <;> exact ⟨rfl, rfl⟩

namespace Simulator

variable {d later : Simulator} {held : List Holding} {i : PoolId}

/-! ## Surfaces that are out -/

/-- The same surfaces are out on the devices, as many of each pool. -/
structure SameOut (d later : Simulator) : Prop where
  live_eq : later.leases.live = d.leases.live
  inUse_eq : later.pools.map (·.inUse) = d.pools.map (·.inUse)

theorem leases_release (key : LeaseId) (d : Simulator) :
    (Device.release key d).leases = (d.leases.release? key).2 := by
  show (Simulator.release key d).leases = _
  unfold Simulator.release
  rcases d.leases.release? key with ⟨_ | lease, leases⟩ <;> rfl

/-- A lease that ends brings one surface back to its pool. -/
theorem inUse_release (key : LeaseId) (d : Simulator) :
    (Device.release key d).pools.map (·.inUse) =
      match (d.leases.release? key).1 with
      | some lease => (d.pools.map (·.inUse)).modify lease.pool (· - 1)
      | none => d.pools.map (·.inUse) := by
  show (Simulator.release key d).pools.map (·.inUse) = _
  unfold Simulator.release
  rcases d.leases.release? key with ⟨_ | lease, leases⟩
  · rfl
  · exact Stock.map_modify Pool.inUse (· - 1) (fun p => Nat.sub_add_eq _ _ 1) _ _

theorem SameOut.releaseFrame (h : SameOut d later) (frame : Frame) :
    SameOut (Device.releaseFrame frame d) (Device.releaseFrame frame later) := by
  unfold Device.releaseFrame
  cases frame.lease? with
  | none => exact h
  | some key =>
    obtain ⟨hended, hlive⟩ := Leases.release?_congr h.live_eq key
    refine ⟨?_, ?_⟩
    · rw [leases_release, leases_release, hlive]
    · rw [inUse_release, inUse_release, hended, h.inUse_eq]

theorem rendered_releaseFrame (frame : Frame) (d : Simulator) :
    (Device.releaseFrame frame d).rendered = d.rendered := by
  unfold Device.releaseFrame
  cases frame.lease? with
  | none => rfl
  | some key =>
    show (Simulator.release key d).rendered = _
    unfold Simulator.release
    rcases d.leases.release? key with ⟨_ | lease, leases⟩ <;> rfl

theorem nextId_releaseFrame (frame : Frame) (d : Simulator) :
    (Device.releaseFrame frame d).nextId = d.nextId := by
  unfold Device.releaseFrame
  split
  · exact nextId_release _ d
  · rfl

/-! ## What is left of an upload -/

/-- The device `d` is as it was, but for its log, the keys of its leases, and at most one surface
more on the shelf of a pool. -/
structure Residue (d later : Simulator) : Prop where
  caps_eq : later.caps = d.caps
  failing_eq : later.failing = d.failing
  poolCapacity_eq : later.poolCapacity = d.poolCapacity
  rendered_eq : later.rendered = d.rendered
  live_eq : later.leases.live = d.leases.live
  surfaces : later.pools = d.pools ∧ later.nextId = d.nextId ∨
    ∃ i p, d.pools[i]? = some p ∧ p.free = [] ∧ later.nextId = d.nextId + 1 ∧
      later.pools = d.pools.modify i fun p =>
        { p with allocated := p.allocated + 1, free := ⟨d.nextId⟩ :: p.free }

theorem Residue.refl (d : Simulator) : Residue d d := ⟨rfl, rfl, rfl, rfl, rfl, .inl ⟨rfl, rfl⟩⟩

/-- A surface that has been lent goes on the shelf at once. -/
theorem releaseSurface_lend (h : d.leases.Accounts held) (i : PoolId) (desc : PoolDesc)
    (a : SurfaceId) :
    Device.releaseSurface ⟨a, desc.width, desc.height, some d.leases.nextKey⟩ (d.lend i desc a).2 =
      modifyPool (record (.allocate a)
        { d with leases := { d.leases with nextKey := d.leases.nextKey + 1 } }) i
        fun p => { p with free := a :: p.free } := by
  have hlent : (d.lend i desc a).2.leases = (d.leases.grant i a).2 := rfl
  show Simulator.release d.leases.nextKey (d.lend i desc a).2 = _
  unfold Simulator.release
  rw [hlent, (h.release?_grant i a).1]
  rfl

theorem residue_releaseSurface (h : d.Balanced held) {s : Surface} {lent : Simulator}
    (hd : Device.allocate i d = (.ok s, lent)) : Residue d (Device.releaseSurface s lent) := by
  have haccounts := h.sound.accounts
  rcases allocate_cases d i with ⟨e, heq, -⟩ | ⟨p, a, rest, hp, hfree, -, heq⟩ |
    ⟨p, hp, hfree, -, -, heq⟩ <;> cases heq.symm.trans hd
  · -- the surface came off the shelf
    have hback := releaseSurface_lend (d := d.modifyPool i fun p => { p with free := rest })
      haccounts i p.desc a
    refine hback ▸ ⟨rfl, rfl, rfl, rfl, rfl, .inl ⟨?_, rfl⟩⟩
    have hsame : Pool.mk p.desc p.capacity p.allocated (a :: rest) = p := by rw [← hfree]
    exact (List.modify_modify_eq _ _ _ _).trans (modify_eq_of_fixed hp hsame)
  · -- the surface was made
    have hback := releaseSurface_lend
      (d := (d.modifyPool i fun p => { p with allocated := p.allocated + 1 }).bump) haccounts i
      p.desc ⟨d.nextId⟩
    refine hback ▸ ⟨rfl, rfl, rfl, rfl, rfl, .inr ⟨i, p, hp, hfree, rfl, ?_⟩⟩
    exact List.modify_modify_eq _ _ _ _

/-- **An upload that fails leaves at most a surface on the shelf.** -/
theorem residue_upload (h : d.Balanced held) {pool : Option PoolId} {frame : Frame} {e : Error}
    (hup : Session.upload pool frame d = (.error e, later)) : Residue d later := by
  rcases Session.upload_cases pool frame d with ⟨error, heq⟩ |
    ⟨p, error, lent, -, hallocate, heq⟩ | ⟨p, s, lent, error, copied, -, hallocate, hcopy, heq⟩ |
    ⟨p, s, lent, copied, -, -, -, heq⟩ <;> cases heq.symm.trans hup
  · exact .refl d
  · rcases allocate_cases d p with ⟨error', heq', -⟩ | ⟨q, a, rest, -, -, -, heq'⟩ |
      ⟨q, -, -, -, -, heq'⟩ <;> cases heq'.symm.trans hallocate
    exact .refl d
  · -- a copy that fails does nothing to the device
    rcases upload_cases lent p s frame with ⟨error', heq'⟩ | heq' <;> cases heq'.symm.trans hcopy
    exact residue_releaseSurface h hallocate

/-! ## The mirror -/

namespace Residue

theorem nextId_le (h : Residue d later) : d.nextId ≤ later.nextId := by
  rcases h.surfaces with ⟨-, hnext⟩ | ⟨i, p, -, -, hnext, -⟩ <;> omega

theorem sameOut (h : Residue d later) : SameOut d later where
  live_eq := h.live_eq
  inUse_eq := by
    rcases h.surfaces with ⟨hpools, -⟩ | ⟨i, p, -, -, -, hpools⟩ <;> rw [hpools]
    have hsame : ∀ p : Pool, Pool.inUse { p with
        allocated := p.allocated + 1, free := ⟨d.nextId⟩ :: p.free } = id p.inUse :=
      fun p => Nat.add_sub_add_right _ 1 _
    rw [Stock.map_modify Pool.inUse id hsame, List.modify_id]

/-- The surface that was made for an upload lies on the left shelf only. -/
theorem pools (h : Residue d later) (hd : d.Balanced held) :
    List.Forall₂ (Pool.Mirrors (diagonal d.stock.ids)) later.pools d.pools ∧
      later.nextId + madeBy d.pools = d.nextId + madeBy later.pools := by
  have hown : List.Forall₂ (Pool.Mirrors (diagonal d.stock.ids)) d.pools d.pools := by
    refine List.forall₂_same.2 fun p hp => .refl fun a ha => mem_diagonal.2 ⟨a, ?_, rfl⟩
    exact mem_ids_of_free hp ha
  rcases h.surfaces with ⟨hpools, hnext⟩ | ⟨i, p, hp, hfree, hnext, hpools⟩ <;> rw [hpools, hnext]
  · exact ⟨hown, rfl⟩
  refine ⟨?_, ?_⟩
  · have hlater : List.Forall₂ (Pool.Mirrors (diagonal d.stock.ids))
        (d.pools.modify i fun p =>
          { p with allocated := p.allocated + 1, free := ⟨d.nextId⟩ :: p.free })
        (d.pools.modify i id) := by
      refine forall₂_modify hown fun p' q' hp' hq' _ => ?_
      cases hp'.symm.trans hq'
      cases hp.symm.trans hp'
      refine ⟨rfl, rfl, [], [⟨d.nextId⟩], ?_, hfree, List.nil_subset _, ?_, rfl⟩
      · exact congrArg (_ :: ·) hfree
      · intro a ha hmem
        rw [List.mem_singleton.1 ha, map_fst_diagonal] at hmem
        exact Nat.lt_irrefl _ (hd.sound.made _ hmem)
    rw [List.modify_id] at hlater
    exact hlater
  · rw [madeBy_succ hp fun _ => rfl]
    omega

theorem mirrored (h : Residue d later) (hd : d.Balanced held) (hlater : later.Balanced held)
    {t : Fork} (hequipped : later.Equipped t.fixtures) (hequipped' : d.Equipped t.fixtures)
    (hbefore : d.rendered = t.before) (buffers : List (BufferId × BufferId)) :
    Mirrored t { surfaces := diagonal d.stock.ids, buffers } (diagonal held) later d := by
  obtain ⟨hpools, hnumbers⟩ := h.pools hd
  refine ⟨?_, ?_, hequipped, hequipped', h.caps_eq.symm, h.failing_eq.symm, h.poolCapacity_eq.symm,
    hpools, .of_live_eq hd.sound.accounts h.live_eq ?_ ?_ ?_, ?_, hnumbers, [], [], ?_, hbefore,
    .nil⟩
  · rw [map_fst_diagonal]
    exact hlater
  · rw [map_snd_diagonal]
    exact hd
  · intro share hshare
    exact mem_diagonal.2 ⟨_, List.mem_append_right _ (hd.sound.surface_mem hshare), rfl⟩
  · rw [map_fst_diagonal]
    exact hd.sound.sole
  · rw [map_snd_diagonal]
    exact hd.sound.sole
  · intro x hx
    obtain ⟨a, ha, rfl⟩ := mem_diagonal.1 hx
    exact ⟨Nat.lt_of_lt_of_le (hd.sound.made a ha) h.nextId_le, hd.sound.made a ha⟩
  · exact h.rendered_eq.trans hbefore

end Residue

end Simulator

end Deinterlace
