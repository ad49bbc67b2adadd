import Deinterlace.Proofs.Va.Housing
import Deinterlace.Va.Driver
import Mathlib.Data.List.Count

/-!
# A pool and those who take from it

A pool lends surfaces and gets them back while its driver works or fails, in any order (`Lending`).
A driver may report success without making a surface; then the pool has a surface without a number.
It is entered like any other one (`Display.Stocked`): it is on the shelf or out for as long as the
pool is open. So it comes back to the shelf when it is given up, and is lent again before a new
surface is made (`Display.Stocked.grants_iff`), also when the driver works again. A picture that was
to be rendered then fails and leaves the shelf as it was (`Display.Stocked.render_of_blank`).
-/
namespace Deinterlace

namespace Va

variable {δ : Type}

/-- Asked for a surface of a pool, the driver makes one. -/
def Library.Makes [Library δ] (driver : δ) (desc : PoolDesc) : Prop :=
  ∃ id later, Library.call (Display.makes desc) driver = (success, id, later) ∧ id ≠ noObject

namespace Display

/-- Whoever takes a surface from the pool gets one with a number. -/
def Grants [Library δ] (pool : PoolId) (d : Display δ) : Prop :=
  ∃ surface later, Device.allocate pool d = (.ok surface, later) ∧ surface.id.isValid = true

/-! ## The shelf of an open pool -/

/-- The pool `p` is open, in its place, and all that it has made is on its shelf or out. Its first
surfaces are those in `earlier`. -/
structure Stocked (pool : PoolId) (desc : PoolDesc) (earlier : List Nat) (p : Pool)
    (d : Display δ) : Prop where
  pool_eq : d.pools[pool]? = some p
  desc_eq : p.desc = desc
  isOpen : p.isOpen = true
  made : ((p.free ++ d.leases.out pool).map (·.value)).Perm p.made
  earlier : earlier <+: p.made

namespace Stocked

variable {pool : PoolId} {desc : PoolDesc} {earlier : List Nat} {p : Pool} {d later : Display δ}

/-- Nothing but the place of the pool and what is out of it matters. -/
theorem congr (h : Stocked pool desc earlier p d) (hpool : later.pools[pool]? = d.pools[pool]?)
    (hout : later.leases.out pool = d.leases.out pool) : Stocked pool desc earlier p later where
  pool_eq := hpool.trans h.pool_eq
  desc_eq := h.desc_eq
  isOpen := h.isOpen
  made := hout ▸ h.made
  earlier := h.earlier

/-- What the pool has made is on the shelf or out, number by number. -/
theorem count_eq (h : Stocked pool desc earlier p d) (id : SurfaceId) :
    p.free.count id + (d.leases.out pool).count id = p.made.count id.value := by
  have hinjective : Function.Injective (fun id : SurfaceId => id.value) := by
    rintro ⟨n⟩ ⟨m⟩ heq
    exact congrArg Handle.mk heq
  rw [← h.made.count_eq, ← List.count_append]
  exact (List.count_map_of_injective _ _ hinjective id).symm

/-- A surface without a number is on the shelf unless all of them are out. -/
theorem invalid_mem_free (h : Stocked pool desc earlier p d) :
    .invalid ∈ p.free ↔ (d.leases.out pool).count .invalid < p.made.count noObject := by
  have hcount : p.free.count .invalid + (d.leases.out pool).count .invalid =
      p.made.count noObject := h.count_eq .invalid
  rw [← List.count_pos_iff]
  omega

/-- The pool changes, and what is out of it with it. -/
theorem modify (h : Stocked pool desc earlier p d) (change : Pool → Pool) {b : Leases}
    (hdesc : (change p).desc = p.desc) (hopen : (change p).isOpen = p.isOpen)
    (hmade : (((change p).free ++ b.out pool).map (·.value)).Perm (change p).made)
    (hearlier : p.made <+: (change p).made) :
    Stocked pool desc earlier (change p) { d.modifyPool pool change with leases := b } where
  pool_eq := by
    show (d.pools.modify pool change)[pool]? = _
    rw [List.getElem?_modify_eq, h.pool_eq]
    rfl
  desc_eq := hdesc.trans h.desc_eq
  isOpen := hopen.trans h.isOpen
  made := hmade
  earlier := h.earlier.trans hearlier

end Stocked

variable [Library δ]

/-- Another pool may go; an open one stays. -/
theorem getElem?_reclaimPool {pool : PoolId} {p : Pool} {d : Display δ}
    (hp : d.pools[pool]? = some p) (hopen : p.isOpen = true) (i : PoolId) :
    (d.reclaimPool i).pools[pool]? = d.pools[pool]? := by
  rcases d.reclaimPool_cases i with ⟨-, heq⟩ | ⟨q, hq, hclosed, -, -, heq⟩ <;> rw [heq]
  have hne : i ≠ pool := by
    rintro rfl
    cases hp.symm.trans hq
    exact Bool.false_ne_true (hclosed.symm.trans hopen)
  rw [(reclaim_eq _).1, (vacate_eq d i q).1, List.getElem?_modify_ne _ _ hne]

section Steps

variable {pool : PoolId} {desc : PoolDesc} {earlier : List Nat} {held : List Holding} {p : Pool}
  {d : Display δ}

/-- Taking a surface: it leaves the shelf, or is made. -/
theorem Stocked.allocate (h : Stocked pool desc earlier p d) (haccounts : d.leases.Accounts held) :
    (Device.allocate pool d).2.leases.Accounts
        (((Device.allocate pool d).1.toOption.bind (·.holding?)).toList ++ held) ∧
      ∃ p, Stocked pool desc earlier p (Device.allocate pool d).2 := by
  have hout : ∀ id, (d.leases.grant pool id).2.out pool = id :: d.leases.out pool := by
    intro id
    rw [Leases.out_grant, if_pos rfl]
  rcases allocate_cases pool d with ⟨e, later, hhears, heq⟩ | ⟨q, id, rest, hq, hfree, heq⟩ |
    ⟨q, id, driver, hq, -, -, -, heq⟩ <;> rw [heq]
  · rw [hhears.2]
    exact ⟨haccounts, p, h.congr rfl rfl⟩
  · cases h.pool_eq.symm.trans hq
    refine ⟨haccounts.grant pool id, _, h.modify _ rfl rfl ?_ List.prefix_rfl⟩
    have hmade := h.made
    rw [hfree] at hmade
    show ((rest ++ (d.leases.grant pool id).2.out pool).map (·.value)).Perm p.made
    rw [hout]
    exact (List.perm_middle.map _).trans hmade
  · cases h.pool_eq.symm.trans hq
    have hasked : Stocked pool desc earlier p { d with driver } := h.congr rfl rfl
    refine ⟨haccounts.grant pool ⟨id⟩, _, hasked.modify _ rfl rfl ?_ (List.prefix_append _ _)⟩
    show ((p.free ++ (d.leases.grant pool ⟨id⟩).2.out pool).map (·.value)).Perm (p.made ++ [id])
    rw [hout]
    refine (List.perm_middle.map _).trans (.trans (h.made.cons id) ?_)
    exact (List.perm_append_singleton id p.made).symm

/-- Giving a surface back: with the last holder it goes on the shelf of its pool. -/
theorem Stocked.release {share : Holding} (h : Stocked pool desc earlier p d)
    (haccounts : d.leases.Accounts (share :: held)) :
    (Device.release share.lease d).leases.Accounts held ∧
      ∃ p, Stocked pool desc earlier p (Device.release share.lease d) := by
  obtain ⟨l, hl, -, ⟨heq, hlater⟩ | ⟨heq, hlater⟩⟩ := haccounts.release_cases
  · rw [release_of_last heq, (reclaimPool_eq _ _).1]
    refine ⟨hlater, ?_⟩
    have hout := Leases.out_perm_without haccounts.distinct hl pool
    have hreturned : ∃ p, Stocked pool desc earlier p
        (modifyPool { d with leases := d.leases.without l.key } l.pool fun p =>
          { p with free := l.surface :: p.free }) := by
      by_cases hself : l.pool = pool
      · subst hself
        rw [if_pos rfl] at hout
        refine ⟨_, h.modify (fun p => { p with free := l.surface :: p.free }) rfl rfl ?_
          List.prefix_rfl⟩
        have hmade := ((hout.symm.append_left p.free).map _).trans h.made
        exact (List.perm_middle.symm.map _).trans hmade
      · rw [if_neg hself] at hout
        refine ⟨p, ?_, h.desc_eq, h.isOpen, ?_, h.earlier⟩
        · exact (List.getElem?_modify_ne _ _ hself).trans h.pool_eq
        · exact ((hout.symm.append_left p.free).map _).trans h.made
    obtain ⟨q, hq⟩ := hreturned
    exact ⟨q, hq.congr (getElem?_reclaimPool hq.pool_eq hq.isOpen l.pool)
      (congrArg (·.out pool) (reclaimPool_eq _ _).1)⟩
  · rw [release_of_others heq]
    exact ⟨hlater, p, h.congr rfl (Leases.out_adjust _ _ _ _)⟩

/-- Whether there is a surface with a number to be had while the driver makes surfaces: the latest
that came back must have one, and if none is there the pool must have room. -/
theorem Stocked.grants_iff (h : Stocked pool desc earlier p d)
    (hmakes : Library.Makes d.driver desc) : d.Grants pool ↔ p.free.head? ≠ some .invalid ∧
      (p.free ≠ [] ∨ p.made.length < maxPoolSurfaces) := by
  obtain ⟨id, later, hcreate, hid⟩ := hmakes
  have hask : d.ask (makes p.desc) = (.ok id, { d with driver := later }) := by
    rw [h.desc_eq, ask_of_success (by rw [hcreate]), hcreate]
  have hallocate : Device.allocate pool d = Display.allocate pool d := rfl
  unfold Grants
  rw [hallocate, Display.allocate, h.pool_eq]
  cases hfree : p.free with
  | cons id rest => simp [lend, hfree, Handle.isValid_iff]
  | nil =>
    by_cases hfull : maxPoolSurfaces ≤ p.made.length
    · simp [hfree, hfull]
    · have hvalid : (⟨id⟩ : SurfaceId).isValid = true :=
        Handle.isValid_iff.2 fun heq => hid (congrArg Handle.value heq)
      simp [hfree, hfull, hask, lend, hvalid, Nat.lt_of_not_le hfull]

/-- A surface that is given back straight after it was lent goes on top of the shelf. -/
theorem release_lend (haccounts : d.leases.Accounts held) (id : SurfaceId) :
    Device.release d.leases.nextKey (d.lend pool desc id).2 =
      reclaimPool pool (modifyPool { d with leases := { d.leases with
        nextKey := d.leases.nextKey + 1 } } pool fun p => { p with free := id :: p.free }) :=
  release_of_last (d := (d.lend pool desc id).2) (haccounts.release?_grant pool id).1

/-- A surface without a number on top of the shelf costs the picture, and is on top again. -/
theorem Stocked.render_of_blank (h : Stocked pool desc earlier p d)
    (haccounts : d.leases.Accounts held) {rest : List SurfaceId}
    (hblank : p.free = .invalid :: rest) (context : ContextId) (c : Chain) (w : Window)
    {current : Frame} (hcurrent : current.surfaceId.isValid = true) :
    ∃ later, Rendering.render context c w (some pool) current d =
        (.error (.allocationFailed "pool returned an invalid surface"), later) ∧
      later.leases.Accounts held ∧ Stocked pool desc earlier p later := by
  obtain ⟨-, hlater⟩ := haccounts.release?_grant pool .invalid
  let taken := d.modifyPool pool fun p => { p with free := rest }
  let back := modifyPool { taken with leases := { d.leases with nextKey := d.leases.nextKey + 1 } }
    pool fun p => { p with free := .invalid :: p.free }
  have htaken : Device.allocate pool d = taken.lend pool p.desc .invalid := by
    show Display.allocate pool d = _
    simp only [Display.allocate, h.pool_eq, hblank]
    rfl
  have hback : Device.release d.leases.nextKey (taken.lend pool p.desc .invalid).2 =
      reclaimPool pool back :=
    release_lend (d := taken) haccounts .invalid
  have hpool : back.pools[pool]? = some p := by
    show ((d.pools.modify pool _).modify pool _)[pool]? = _
    rw [List.getElem?_modify_eq, List.getElem?_modify_eq, h.pool_eq]
    simp [← hblank]
  refine ⟨reclaimPool pool back, ?_, ?_, ?_⟩
  · rw [← hback]
    simp only [Rendering.render, hcurrent, htaken, lend, Device.releaseSurface, Bool.not_true,
      Bool.false_eq_true, if_false, Handle.isValid_invalid, Bool.not_false, if_true]
    rfl
  · rw [(reclaimPool_eq _ _).1]
    exact hlater
  · refine h.congr ?_ (congrArg (·.out pool) (reclaimPool_eq pool back).1)
    rw [getElem?_reclaimPool hpool h.isOpen, hpool, h.pool_eq]

end Steps

end Display

/-! ## Those who take from a pool -/

/-- A device, and the surfaces that are out of one of its pools, latest first. -/
structure Lending (δ : Type) where
  device : Display δ
  out : List Surface := []

/-- What happens to a pool. -/
inductive Errand (δ : Type)
  /-- A surface is taken. -/
  | take
  /-- The surface at a place is given back. -/
  | giveBack (place : Nat)
  /-- Another driver is in place of the present one from then on. -/
  | replace (driver : δ)

namespace Lending

section Errands

variable [Library δ]

def next (pool : PoolId) (t : Lending δ) : Errand δ → Lending δ
  | .take =>
    match Device.allocate pool t.device with
    | (.ok surface, device) => ⟨device, surface :: t.out⟩
    | (.error _, device) => ⟨device, t.out⟩
  | .giveBack place =>
    match t.out[place]? with
    | some surface => ⟨Device.releaseSurface surface t.device, t.out.eraseIdx place⟩
    | none => t
  | .replace driver => { t with device := { t.device with driver } }

def run (pool : PoolId) (t : Lending δ) (errands : List (Errand δ)) : Lending δ :=
  errands.foldl (next pool) t

/-- The pool is open and in order, and the leases agree with what is out of it and what others
hold. -/
structure Kept (pool : PoolId) (desc : PoolDesc) (earlier : List Nat) (others : List Holding)
    (t : Lending δ) : Prop where
  accounts : t.device.leases.Accounts (t.out.filterMap (·.holding?) ++ others)
  stocked : ∃ p, Display.Stocked pool desc earlier p t.device

variable {pool : PoolId} {desc : PoolDesc} {earlier : List Nat} {others : List Holding}
  {t : Lending δ}

theorem Kept.take (h : t.Kept pool desc earlier others) :
    (t.next pool .take).Kept pool desc earlier others := by
  obtain ⟨p, hstocked⟩ := h.stocked
  obtain ⟨haccounts, hlater⟩ := hstocked.allocate h.accounts
  simp only [Lending.next]
  rcases hallocate : Device.allocate pool t.device with ⟨e | surface, device⟩ <;>
    rw [hallocate] at haccounts hlater
  · exact ⟨haccounts, hlater⟩
  · have hout : (surface :: t.out).filterMap (·.holding?) ++ others =
        surface.holding?.toList ++ (t.out.filterMap (·.holding?) ++ others) := by
      cases hshare : surface.holding? <;> simp [hshare]
    exact ⟨hout ▸ haccounts, hlater⟩

theorem Kept.giveBack (h : t.Kept pool desc earlier others) (place : Nat) :
    (t.next pool (.giveBack place)).Kept pool desc earlier others := by
  obtain ⟨p, hstocked⟩ := h.stocked
  cases hplace : t.out[place]? with
  | none => simpa only [Lending.next, hplace] using h
  | some surface =>
    simp only [Lending.next, hplace, Device.releaseSurface]
    obtain ⟨hlt, hget⟩ := List.getElem?_eq_some_iff.1 hplace
    have hperm := ((List.getElem_cons_eraseIdx_perm hlt).symm.filterMap
      (·.holding?)).append_right others
    rw [hget] at hperm
    have haccounts := h.accounts.perm hperm
    cases hlease : surface.lease with
    | none =>
      have hnone : surface.holding? = none := by rw [Surface.holding?, hlease]; rfl
      rw [List.filterMap_cons_none hnone] at haccounts
      exact ⟨haccounts, p, hstocked⟩
    | some lease =>
      have hshare : surface.holding? = some ⟨lease, surface.id⟩ := by
        rw [Surface.holding?, hlease]
        rfl
      rw [List.filterMap_cons_some hshare, List.cons_append] at haccounts
      obtain ⟨hreleased, hlater⟩ := hstocked.release haccounts
      exact ⟨hreleased, hlater⟩

theorem Kept.next (h : t.Kept pool desc earlier others) (errand : Errand δ) :
    (t.next pool errand).Kept pool desc earlier others := by
  cases errand with
  | take => exact h.take
  | giveBack place => exact h.giveBack place
  | replace driver =>
    obtain ⟨p, hstocked⟩ := h.stocked
    exact ⟨h.accounts, p, hstocked.congr rfl rfl⟩

theorem Kept.run (h : t.Kept pool desc earlier others) (errands : List (Errand δ)) :
    (t.run pool errands).Kept pool desc earlier others := by
  induction errands generalizing t with
  | nil => exact h
  | cons errand rest ih => exact ih (h.next errand)

/-- A pool that has just been set up has nothing on its shelf, and nothing of it is out. -/
theorem kept_of_createPool {d later : Display δ} (haccounts : d.leases.Accounts others)
    (hnew : d.leases.out d.pools.length = [])
    (hpool : Device.createPool desc d = (.ok pool, later)) :
    Kept pool desc [] others { device := later } := by
  have hcreate : Display.createPool desc d = (.ok pool, later) := hpool
  unfold Display.createPool at hcreate
  split at hcreate
  · cases hcreate
  · cases hcreate
    refine ⟨haccounts, { desc := desc }, List.getElem?_concat_length, rfl, rfl, ?_,
      List.prefix_rfl⟩
    show ((([] : List SurfaceId) ++ d.leases.out d.pools.length).map (·.value)).Perm []
    rw [hnew]
    exact .refl _

/-- What the pool has made stays in use for good, a surface without a number like any other. -/
theorem Kept.count_le (h : t.Kept pool desc earlier others) {p : Pool}
    (hp : t.device.pools[pool]? = some p) (errands : List (Errand δ)) (id : SurfaceId) :
    ∃ q, (t.run pool errands).device.pools[pool]? = some q ∧
      p.free.count id + (t.device.leases.out pool).count id ≤
        q.free.count id + ((t.run pool errands).device.leases.out pool).count id := by
  obtain ⟨p', hstocked⟩ := h.stocked
  cases hstocked.pool_eq.symm.trans hp
  have hsince : t.Kept pool desc p.made others :=
    ⟨h.accounts, p, { hstocked with earlier := List.prefix_rfl }⟩
  obtain ⟨q, hq⟩ := (hsince.run errands).stocked
  refine ⟨q, hq.pool_eq, ?_⟩
  rw [hstocked.count_eq, hq.count_eq]
  exact hq.earlier.sublist.count_le _

/-- **What a pool lends once its driver makes surfaces again.** What the pool has made is on its
shelf or out. So a surface without a number is on the shelf unless all of those are out; and one
with a number is to be had unless a surface without one is on top of the shelf, or the shelf is
empty and the pool full. -/
theorem grants_of_run {d later : Display δ} (haccounts : d.leases.Accounts others)
    (hnew : d.leases.out d.pools.length = [])
    (hpool : Device.createPool desc d = (.ok pool, later)) (errands : List (Errand δ)) :
    let device := (run pool { device := later } errands).device
    ∃ p, device.pools[pool]? = some p ∧
      (∀ id, p.free.count id + (device.leases.out pool).count id = p.made.count id.value) ∧
      (.invalid ∈ p.free ↔ (device.leases.out pool).count .invalid < p.made.count noObject) ∧
      ∀ driver : δ, Library.Makes driver desc →
        (Display.Grants pool { device with driver } ↔ p.free.head? ≠ some .invalid ∧
          (p.free ≠ [] ∨ p.made.length < maxPoolSurfaces)) := by
  obtain ⟨p, hp⟩ := ((kept_of_createPool haccounts hnew hpool).run errands).stocked
  refine ⟨p, hp.pool_eq, hp.count_eq, hp.invalid_mem_free, fun driver hmakes => ?_⟩
  have hdriven : Display.Stocked pool desc [] p
      { (run pool { device := later } errands).device with driver } := hp.congr rfl rfl
  exact hdriven.grants_iff hmakes

end Errands

section Blank

/-- A device whose driver says that it has made a surface, and has not. -/
def blankDisplay : Display Driver :=
  { driver := { script := { failures := [(.createSurfaces, success)] } }, version := (1, 0) }

/-- The device with a pool of small surfaces. -/
def blankLending : Lending Driver :=
  { device := (Device.createPool ⟨.nv12, 64, 48⟩ blankDisplay).2 }

theorem makes_default (desc : PoolDesc) : Library.Makes ({} : Driver) desc := by
  have hobject : 1 ≠ noObject := by decide
  exact ⟨1, _, rfl, hobject⟩

/-- While the surface without a number is out, the pool lends what it has. -/
theorem grants_of_run_lentBlank :
    let device := (blankLending.run 0 [.take, .replace {}, .take, .giveBack 0]).device
    (∃ p, device.pools[0]? = some p ∧ p.free = [⟨1⟩] ∧ p.made = [noObject, 1]) ∧
      Display.Grants 0 { device with driver := ({} : Driver) } := by
  have hpool : Device.createPool ⟨.nv12, 64, 48⟩ blankDisplay = (.ok 0, blankLending.device) := rfl
  obtain ⟨p, hp, -, -, hgrants⟩ :=
    grants_of_run .empty rfl hpool [.take, .replace {}, .take, .giveBack 0]
  have hfree : p.free = [⟨1⟩] ∧ p.made = [noObject, 1] := by
    cases hp
    exact ⟨rfl, rfl⟩
  refine ⟨⟨p, hp, hfree⟩, (hgrants {} (makes_default _)).2 ?_⟩
  rw [hfree.1]
  exact ⟨by decide, .inl (by decide)⟩

/-- When it has come back it is all that the pool lends, although the driver works again and the
pool has room. -/
theorem not_grants_of_returnedBlank :
    let device := (blankLending.run 0 [.take, .giveBack 0, .replace {}]).device
    Library.Makes device.driver ⟨.nv12, 64, 48⟩ ∧ (∃ p, device.pools[0]? = some p ∧
      p.free = [.invalid] ∧ p.made.length < maxPoolSurfaces) ∧ ¬ Display.Grants 0 device := by
  refine ⟨makes_default _, ⟨_, rfl, rfl, by decide⟩, ?_⟩
  rintro ⟨surface, later, hlent, hvalid⟩
  cases hlent
  exact absurd hvalid (by decide)

end Blank

end Lending

end Va

end Deinterlace
