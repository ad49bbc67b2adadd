import Deinterlace.Device

/-!
# Leases

A `Lease` is a surface taken from a pool, with the number of its holders. `Leases` is the book a
device keeps of them. A lease is struck out with its last holder, and then `Leases.release?` tells
which surface goes back to which pool.
-/
namespace Deinterlace

/-- A surface that has been taken from a pool and not given back. -/
structure Lease where
  key : LeaseId
  pool : PoolId
  surface : SurfaceId
  /-- The number of holders, at least one. -/
  holders : Nat
deriving DecidableEq, Repr

/-- The leases of a device. -/
structure Leases where
  /-- The leases that have holders, latest first. -/
  live : List Lease := []
  nextKey : LeaseId := 0
deriving DecidableEq, Repr

namespace Leases

/-- Enters a surface taken from a pool, with one holder. -/
def grant (b : Leases) (pool : PoolId) (surface : SurfaceId) : LeaseId × Leases :=
  (b.nextKey, { live := ⟨b.nextKey, pool, surface, 1⟩ :: b.live, nextKey := b.nextKey + 1 })

@[simp] theorem fst_grant (b : Leases) (pool : PoolId) (surface : SurfaceId) :
    (b.grant pool surface).1 = b.nextKey := rfl

theorem mem_live_grant {b : Leases} {pool : PoolId} {surface : SurfaceId} {l : Lease} :
    l ∈ (b.grant pool surface).2.live ↔ l = ⟨b.nextKey, pool, surface, 1⟩ ∨ l ∈ b.live := by
  simp [grant]

def find? (b : Leases) (key : LeaseId) : Option Lease := b.live.find? (·.key == key)

def retain (b : Leases) (key : LeaseId) : Leases :=
  { b with
    live := b.live.map fun l => if l.key = key then { l with holders := l.holders + 1 } else l }

/-- Takes a holder away from a lease: the lease itself if that was the last one, and the book
afterwards. -/
def release? (b : Leases) (key : LeaseId) : Option Lease × Leases :=
  match b.find? key with
  | none => (none, b)
  | some lease =>
    if lease.holders ≤ 1 then
      (some lease, { b with live := b.live.filter (·.key != key) })
    else
      (none, { b with live := b.live.map fun l =>
        if l.key = key then { l with holders := l.holders - 1 } else l })

def anyOf (b : Leases) (pool : PoolId) : Bool := b.live.any (·.pool == pool)

def countOf (b : Leases) (pool : PoolId) : Nat := b.live.countP (·.pool == pool)

end Leases

end Deinterlace
