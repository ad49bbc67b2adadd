import Deinterlace.Device.Lease
import Deinterlace.Proofs.Session.Upkeep
import Deinterlace.Proofs.Simulator.Readiness
import Mathlib.Data.List.Perm.Basic

/-!
# Surfaces in stock

A surface that a pool has made is on the pool's shelf or out on a lease. `Leases.Accounts` says that
the book of leases agrees with the shares that are out, and `Stock.Sound` that, besides, no surface
is in two places. Adding a shelf, lending a surface, sharing a lease and giving a share back keep a
stock sound, so a surface on a shelf is on no frame (`Stock.Sound.surface_ne`).
-/
namespace Deinterlace

namespace Leases

/-- The book of leases agrees with the shares that are out. -/
structure Accounts (b : Leases) (held : List Holding) : Prop where
  distinct : (b.live.map (·.key)).Nodup
  key_lt : ∀ l ∈ b.live, l.key < b.nextKey
  holders_pos : ∀ l ∈ b.live, 0 < l.holders
  holders_eq : ∀ l ∈ b.live, l.holders = held.countP (·.lease == l.key)
  entered : ∀ share ∈ held, ∃ l ∈ b.live, l.key = share.lease ∧ l.surface = share.surface

/-- When no share is out, there is no lease. -/
theorem Accounts.live_eq_nil {b : Leases} (h : b.Accounts []) : b.live = [] := by
  refine List.eq_nil_iff_forall_not_mem.2 fun l hl => ?_
  have hpos := h.holders_pos l hl
  rw [h.holders_eq l hl] at hpos
  exact Nat.lt_irrefl 0 hpos

/-- Changes the number of holders of a lease. -/
def adjust (b : Leases) (key : LeaseId) (change : Nat → Nat) : Leases :=
  { b with
    live := b.live.map fun l => if l.key = key then { l with holders := change l.holders } else l }

/-- Strikes a lease out. -/
def without (b : Leases) (key : LeaseId) : Leases :=
  { b with live := b.live.filter (·.key != key) }

theorem retain_eq (b : Leases) (key : LeaseId) : b.retain key = b.adjust key (· + 1) := rfl

/-- A change of the number of holders leaves every other part of the entries alone. -/
theorem map_adjust {α : Type} (b : Leases) (key : LeaseId) (change : Nat → Nat) (view : Lease → α)
    (h : ∀ (l : Lease) (n : Nat), view { l with holders := n } = view l) :
    (b.adjust key change).live.map view = b.live.map view := by
  unfold adjust
  rw [List.map_map]
  refine List.map_congr_left fun l _ => ?_
  show view (if l.key = key then { l with holders := change l.holders } else l) = view l
  split
  · exact h l _
  · rfl

theorem countOf_eq (b : Leases) (pool : PoolId) :
    b.countOf pool = (b.live.map (·.pool)).count pool := by
  rw [countOf, List.count, List.countP_map]
  rfl

@[simp] theorem countOf_adjust (b : Leases) (key : LeaseId) (change : Nat → Nat) (pool : PoolId) :
    (b.adjust key change).countOf pool = b.countOf pool := by
  rw [countOf_eq, countOf_eq, map_adjust b key change (·.pool) fun _ _ => rfl]

theorem countOf_grant (b : Leases) (pool other : PoolId) (surface : SurfaceId) :
    (b.grant pool surface).2.countOf other =
      b.countOf other + if pool = other then 1 else 0 := by
  by_cases h : pool = other <;> simp [countOf, grant, h]

theorem perm_without {b : Leases} {l : Lease} (hdistinct : (b.live.map (·.key)).Nodup)
    (hl : l ∈ b.live) : b.live.Perm (l :: (b.without l.key).live) := by
  obtain ⟨before, after, hlive⟩ := List.mem_iff_append.1 hl
  have hkeys := hdistinct
  rw [hlive, List.map_append, List.map_cons, List.nodup_middle, List.nodup_cons,
    ← List.map_append] at hkeys
  have hothers : ∀ other ∈ before ++ after, other.key ≠ l.key := by
    intro other hother heq
    exact hkeys.1 (List.mem_map.2 ⟨other, hother, heq⟩)
  have hrest : (b.without l.key).live = before ++ after := by
    have hkept := List.filter_eq_self.2 fun other hother => bne_iff_ne.2 (hothers other hother)
    rw [List.filter_append] at hkept
    simpa [without, hlive] using hkept
  rw [hrest, hlive]
  exact List.perm_middle

namespace Accounts

variable {b : Leases} {held : List Holding}

theorem empty : Accounts {} [] where
  distinct := List.nodup_nil
  key_lt := by simp
  holders_pos := by simp
  holders_eq := by simp
  entered := by simp

theorem perm (h : b.Accounts held) {later : List Holding} (hperm : held.Perm later) :
    b.Accounts later where
  distinct := h.distinct
  key_lt := h.key_lt
  holders_pos := h.holders_pos
  holders_eq l hl := (h.holders_eq l hl).trans (hperm.countP_eq _)
  entered share hshare := h.entered share (hperm.mem_iff.2 hshare)

theorem eq_of_key (h : b.Accounts held) {l other : Lease} (hl : l ∈ b.live)
    (hother : other ∈ b.live) (hkey : l.key = other.key) : l = other :=
  List.inj_on_of_nodup_map h.distinct hl hother hkey

theorem find?_eq (h : b.Accounts held) {l : Lease} (hl : l ∈ b.live) : b.find? l.key = some l := by
  cases hfind : b.find? l.key with
  | none =>
    have hnone := List.find?_eq_none.1 hfind l hl
    simp at hnone
  | some found =>
    obtain ⟨hfound, hkey⟩ := mem_of_find? hfind
    rw [h.eq_of_key hfound hl hkey]

theorem lease_lt (h : b.Accounts held) {share : Holding} (hshare : share ∈ held) :
    share.lease < b.nextKey := by
  obtain ⟨l, hl, hkey, -⟩ := h.entered share hshare
  exact hkey ▸ h.key_lt l hl

theorem grant (h : b.Accounts held) (pool : PoolId) (surface : SurfaceId) :
    (b.grant pool surface).2.Accounts (⟨b.nextKey, surface⟩ :: held) := by
  have hnone : held.countP (·.lease == b.nextKey) = 0 := by
    rw [List.countP_eq_zero]
    intro share hshare heq
    exact Nat.lt_irrefl _ (beq_iff_eq.1 heq ▸ h.lease_lt hshare)
  refine ⟨?_, ?_, ?_, ?_, ?_⟩
  · show (b.nextKey :: b.live.map (·.key)).Nodup
    refine List.nodup_cons.2 ⟨?_, h.distinct⟩
    intro hmem
    obtain ⟨l, hl, hkey⟩ := List.mem_map.1 hmem
    exact Nat.lt_irrefl _ (hkey ▸ h.key_lt l hl)
  · intro l hl
    rcases mem_live_grant.1 hl with rfl | hl
    · exact Nat.lt_succ_self _
    · exact Nat.lt_succ_of_lt (h.key_lt l hl)
  · intro l hl
    rcases mem_live_grant.1 hl with rfl | hl
    · exact Nat.one_pos
    · exact h.holders_pos l hl
  · intro l hl
    rcases mem_live_grant.1 hl with rfl | hl
    · simp [hnone]
    · have hne : b.nextKey ≠ l.key := Nat.ne_of_gt (h.key_lt l hl)
      rw [List.countP_cons_of_neg (by simpa using hne)]
      exact h.holders_eq l hl
  · intro share hshare
    rcases List.mem_cons.1 hshare with rfl | hshare
    · exact ⟨_, mem_live_grant.2 (.inl rfl), rfl, rfl⟩
    · obtain ⟨l, hl, hkey, hsurface⟩ := h.entered share hshare
      exact ⟨l, mem_live_grant.2 (.inr hl), hkey, hsurface⟩

/-- The number of holders of one lease may change with the number of its shares that are out. -/
theorem adjust (h : b.Accounts held) {key : LeaseId} {change : Nat → Nat} {later : List Holding}
    (hpos : ∀ l ∈ b.live, l.key = key → 0 < change l.holders)
    (hself : ∀ l ∈ b.live, l.key = key → change l.holders = later.countP (·.lease == key))
    (hother : ∀ k, k ≠ key → later.countP (·.lease == k) = held.countP (·.lease == k))
    (hentered : ∀ share ∈ later, share ∈ held) :
    (b.adjust key change).Accounts later := by
  have hmem : ∀ l ∈ (b.adjust key change).live, ∃ before ∈ b.live, l.key = before.key ∧
      (before.key = key ∧ l.holders = change before.holders ∨
        before.key ≠ key ∧ l.holders = before.holders) := by
    intro l hl
    obtain ⟨before, hbefore, rfl⟩ := List.mem_map.1 hl
    refine ⟨before, hbefore, ?_⟩
    by_cases hkey : before.key = key
    · rw [if_pos hkey]
      exact ⟨rfl, .inl ⟨hkey, rfl⟩⟩
    · rw [if_neg hkey]
      exact ⟨rfl, .inr ⟨hkey, rfl⟩⟩
  refine ⟨?_, ?_, ?_, ?_, ?_⟩
  · rw [map_adjust b key change (·.key) fun _ _ => rfl]
    exact h.distinct
  · intro l hl
    obtain ⟨before, hbefore, hkey, -⟩ := hmem l hl
    rw [hkey]
    exact h.key_lt before hbefore
  · intro l hl
    obtain ⟨before, hbefore, -, ⟨hkey, hholders⟩ | ⟨-, hholders⟩⟩ := hmem l hl <;> rw [hholders]
    · exact hpos before hbefore hkey
    · exact h.holders_pos before hbefore
  · intro l hl
    obtain ⟨before, hbefore, hsame, ⟨hkey, hholders⟩ | ⟨hkey, hholders⟩⟩ := hmem l hl <;>
      rw [hholders, hsame]
    · rw [hself before hbefore hkey, hkey]
    · rw [hother before.key hkey]
      exact h.holders_eq before hbefore
  · intro share hshare
    obtain ⟨l, hl, hkey, hsurface⟩ := h.entered share (hentered share hshare)
    refine ⟨_, List.mem_map.2 ⟨l, hl, rfl⟩, ?_⟩
    split <;> exact ⟨hkey, hsurface⟩

theorem retain (h : b.Accounts held) {share : Holding} (hshare : share ∈ held) :
    (b.retain share.lease).Accounts (share :: held) := by
  rw [retain_eq]
  refine h.adjust (fun _ _ _ => Nat.succ_pos _) ?_ ?_ ?_
  · intro l hl hkey
    rw [List.countP_cons_of_pos (by simp), h.holders_eq l hl, hkey]
  · intro k hk
    exact List.countP_cons_of_neg (by simpa using hk.symm)
  · intro other hother
    rcases List.mem_cons.1 hother with rfl | hother
    · exact hshare
    · exact hother

/-- Giving a share back: with the last one the lease is struck out, otherwise it has a holder
less. -/
theorem release_cases {share : Holding} (h : b.Accounts (share :: held)) :
    ∃ l ∈ b.live, l.key = share.lease ∧
      (b.release? share.lease = (some l, b.without l.key) ∧
          (b.without l.key).Accounts held ∨
        b.release? share.lease = (none, b.adjust l.key (· - 1)) ∧
          (b.adjust l.key (· - 1)).Accounts held) := by
  obtain ⟨l, hl, hkey, -⟩ := h.entered share List.mem_cons_self
  have hholders : l.holders = held.countP (·.lease == l.key) + 1 := by
    rw [h.holders_eq l hl]
    exact List.countP_cons_of_pos (by simp [hkey])
  have hfind := h.find?_eq hl
  have hother : ∀ k, k ≠ l.key →
      held.countP (·.lease == k) = (share :: held).countP (·.lease == k) := by
    intro k hk
    exact (List.countP_cons_of_neg (by simpa [hkey] using hk.symm)).symm
  refine ⟨l, hl, hkey, ?_⟩
  rw [← hkey, release?, hfind]
  by_cases hlast : l.holders ≤ 1
  · refine .inl ⟨if_pos hlast, ?_⟩
    have hnone : held.countP (·.lease == l.key) = 0 := by omega
    have hmem : ∀ {other}, other ∈ (b.without l.key).live → other ∈ b.live ∧ other.key ≠ l.key :=
      fun hother => ⟨(List.mem_filter.1 hother).1, bne_iff_ne.1 (List.mem_filter.1 hother).2⟩
    refine ⟨h.distinct.sublist (List.filter_sublist.map _), ?_, ?_, ?_, ?_⟩
    · exact fun other hlive => h.key_lt other (hmem hlive).1
    · exact fun other hlive => h.holders_pos other (hmem hlive).1
    · intro other hlive
      rw [h.holders_eq other (hmem hlive).1, hother other.key (hmem hlive).2]
    · intro given hgiven
      obtain ⟨entry, hentry, hsame, hsurface⟩ := h.entered given (List.mem_cons_of_mem _ hgiven)
      have hne : entry.key ≠ l.key := by
        intro heq
        refine List.countP_eq_zero.1 hnone given hgiven (beq_iff_eq.2 ?_)
        rw [← hsame, heq]
      exact ⟨entry, List.mem_filter.2 ⟨hentry, bne_iff_ne.2 hne⟩, hsame, hsurface⟩
  · refine .inr ⟨if_neg hlast, h.adjust ?_ ?_ hother ?_⟩
    · intro other hlive hsame
      rw [h.eq_of_key hlive hl hsame]
      omega
    · intro other hlive hsame
      rw [h.eq_of_key hlive hl hsame]
      omega
    · exact fun given hgiven => List.mem_cons_of_mem _ hgiven

/-- A lease that has just been entered is struck out by its only holder, and then the book is as
before, but for its next key. -/
theorem release?_grant {b : Leases} {held : List Holding} (h : b.Accounts held) (pool : PoolId)
    (surface : SurfaceId) :
    (b.grant pool surface).2.release? b.nextKey =
        (some ⟨b.nextKey, pool, surface, 1⟩, { b with nextKey := b.nextKey + 1 }) ∧
      Accounts { b with nextKey := b.nextKey + 1 } held := by
  have hothers : b.live.filter (·.key != b.nextKey) = b.live := by
    refine List.filter_eq_self.2 fun l hl => ?_
    exact bne_iff_ne.2 (Nat.ne_of_lt (h.key_lt l hl))
  refine ⟨?_, h.distinct, fun l hl => Nat.lt_succ_of_lt (h.key_lt l hl), h.holders_pos,
    h.holders_eq, h.entered⟩
  have hfind : (b.grant pool surface).2.find? b.nextKey = some ⟨b.nextKey, pool, surface, 1⟩ :=
    List.find?_cons_of_pos (beq_self_eq_true b.nextKey)
  rw [release?, hfind]
  simp [Leases.grant, hothers]

end Accounts

end Leases

/-! ## Shelves -/

/-- Where the surfaces are that pools have made. -/
structure Stock where
  /-- What is on the shelf of each pool. -/
  shelves : List (List SurfaceId)
  leases : Leases

namespace Stock

def ids (t : Stock) : List SurfaceId := t.shelves.flatten ++ t.leases.live.map (·.surface)

/-- Gives a share back; with the last one the surface goes on the shelf. -/
def release (t : Stock) (key : LeaseId) : Stock :=
  match t.leases.release? key with
  | (none, leases) => { t with leases }
  | (some lease, leases) => ⟨t.shelves.modify lease.pool (lease.surface :: ·), leases⟩

/-- No surface is in two places, all have been made before, and the leases agree with the shares
that are out. -/
structure Sound (t : Stock) (next : Nat) (held : List Holding) : Prop where
  accounts : t.leases.Accounts held
  sole : t.ids.Nodup
  made : ∀ id ∈ t.ids, id.value < next

/-- A view of the pools follows a change to one of them. -/
theorem map_modify {α β : Type} (view : α → β) {change : α → α} (onView : β → β)
    (h : ∀ a, view (change a) = onView (view a)) (l : List α) (i : Nat) :
    (l.modify i change).map view = (l.map view).modify i onView := by
  refine List.ext_getElem? fun k => ?_
  simp only [List.getElem?_map, List.getElem?_modify]
  split <;> cases l[k]? <;> simp [h]

/-- What becomes of the elements of all lists when one list changes. -/
theorem flatMap_modify {α β : Type} (view : α → List β) {l : List α} {i : Nat} {a : α}
    (h : l[i]? = some a) : ∃ rest, (l.flatMap view).Perm (view a ++ rest) ∧
      ∀ change, ((l.modify i change).flatMap view).Perm (view (change a) ++ rest) := by
  obtain ⟨hlt, hget⟩ := List.getElem?_eq_some_iff.1 h
  have hsplit : ∀ middle : α, ((l.take i ++ middle :: l.drop (i + 1)).flatMap view).Perm
      (view middle ++ ((l.take i).flatMap view ++ (l.drop (i + 1)).flatMap view)) := by
    intro middle
    rw [List.flatMap_append, List.flatMap_cons, ← List.append_assoc, ← List.append_assoc]
    exact List.perm_append_comm.append_right _
  refine ⟨(l.take i).flatMap view ++ (l.drop (i + 1)).flatMap view, ?_, fun change => ?_⟩
  · have hself := hsplit a
    rw [← hget, List.getElem_cons_drop, List.take_append_drop] at hself
    rw [← hget]
    exact hself
  · rw [List.modify_eq_take_cons_drop hlt, hget]
    exact hsplit _

theorem flatten_modify {shelves : List (List SurfaceId)} {pool : PoolId} {shelf : List SurfaceId}
    (h : shelves[pool]? = some shelf) :
    ∃ rest, shelves.flatten.Perm (shelf ++ rest) ∧
      ∀ change, (shelves.modify pool change).flatten.Perm (change shelf ++ rest) := by
  simpa only [List.flatMap_id, id] using flatMap_modify id h

namespace Sound

variable {t : Stock} {next : Nat} {held : List Holding}

theorem perm (h : t.Sound next held) {later : List Holding} (hperm : held.Perm later) :
    t.Sound next later :=
  ⟨h.accounts.perm hperm, h.sole, h.made⟩

theorem mono (h : t.Sound next held) {later : Nat} (hle : next ≤ later) : t.Sound later held :=
  ⟨h.accounts, h.sole, fun id hid => Nat.lt_of_lt_of_le (h.made id hid) hle⟩

/-- The surface of every share is out. -/
theorem surface_mem (h : t.Sound next held) {share : Holding} (hshare : share ∈ held) :
    share.surface ∈ t.leases.live.map (·.surface) := by
  obtain ⟨l, hl, -, hsurface⟩ := h.accounts.entered share hshare
  exact List.mem_map.2 ⟨l, hl, hsurface⟩

/-- A surface on a shelf is on no frame. -/
theorem surface_ne (h : t.Sound next held) {shelf : List SurfaceId} (hshelf : shelf ∈ t.shelves)
    {id : SurfaceId} (hid : id ∈ shelf) {share : Holding} (hshare : share ∈ held) :
    share.surface ≠ id := by
  have hapart := (List.nodup_append.1 h.sole).2.2
  exact fun heq => hapart id (List.mem_flatten.2 ⟨shelf, hshelf, hid⟩) _
    (h.surface_mem hshare) heq.symm

theorem surface_lt (h : t.Sound next held) {share : Holding} (hshare : share ∈ held) :
    share.surface.value < next :=
  h.made _ (List.mem_append_right _ (h.surface_mem hshare))

theorem addShelf (h : t.Sound next held) :
    Sound ⟨t.shelves ++ [[]], t.leases⟩ next held := by
  have hids : Stock.ids ⟨t.shelves ++ [[]], t.leases⟩ = t.ids := by simp [ids]
  exact ⟨h.accounts, hids ▸ h.sole, hids ▸ h.made⟩

theorem lendKnown (h : t.Sound next held) {pool : PoolId} {id : SurfaceId}
    {rest : List SurfaceId} (hshelf : t.shelves[pool]? = some (id :: rest)) :
    Sound ⟨t.shelves.modify pool fun _ => rest, (t.leases.grant pool id).2⟩ next
      (⟨t.leases.nextKey, id⟩ :: held) := by
  obtain ⟨others, hbefore, hafter⟩ := flatten_modify hshelf
  have hids : (Stock.ids ⟨t.shelves.modify pool fun _ => rest,
      (t.leases.grant pool id).2⟩).Perm t.ids := by
    refine ((hafter fun _ => rest).append_right _).trans (.trans ?_ (hbefore.append_right _).symm)
    show (rest ++ others ++ id :: t.leases.live.map (·.surface)).Perm
      (id :: rest ++ others ++ t.leases.live.map (·.surface))
    exact List.perm_middle
  refine ⟨h.accounts.grant pool id, hids.nodup_iff.2 h.sole, fun other hother => ?_⟩
  exact h.made other (hids.mem_iff.1 hother)

theorem lendNew (h : t.Sound next held) (pool : PoolId) :
    Sound ⟨t.shelves, (t.leases.grant pool ⟨next⟩).2⟩ (next + 1)
      (⟨t.leases.nextKey, ⟨next⟩⟩ :: held) := by
  have hids : (Stock.ids ⟨t.shelves, (t.leases.grant pool ⟨next⟩).2⟩).Perm (⟨next⟩ :: t.ids) :=
    List.perm_middle
  refine ⟨h.accounts.grant pool ⟨next⟩, ?_, ?_⟩
  · refine hids.nodup_iff.2 (List.nodup_cons.2 ⟨fun hmem => ?_, h.sole⟩)
    exact Nat.lt_irrefl _ (h.made _ hmem)
  · intro id hid
    rcases List.mem_cons.1 (hids.mem_iff.1 hid) with rfl | hid
    · exact Nat.lt_succ_self _
    · exact Nat.lt_succ_of_lt (h.made id hid)

theorem retain (h : t.Sound next held) {share : Holding} (hshare : share ∈ held) :
    Sound ⟨t.shelves, t.leases.retain share.lease⟩ next (share :: held) := by
  have hids : Stock.ids ⟨t.shelves, t.leases.retain share.lease⟩ = t.ids := by
    rw [ids, ids, Leases.retain_eq, Leases.map_adjust _ _ _ (·.surface) fun _ _ => rfl]
  exact ⟨h.accounts.retain hshare, hids ▸ h.sole, hids ▸ h.made⟩

/-- A surface whose lease ends goes from there to the shelf. -/
theorem perm_return (h : t.Sound next held) {l : Lease} (hl : l ∈ t.leases.live)
    {shelf : List SurfaceId} (hshelf : t.shelves[l.pool]? = some shelf) :
    (Stock.ids ⟨t.shelves.modify l.pool (l.surface :: ·), t.leases.without l.key⟩).Perm t.ids := by
  obtain ⟨others, hbefore, hafter⟩ := flatten_modify hshelf
  have hlive := (Leases.perm_without h.accounts.distinct hl).map (·.surface)
  refine ((hafter _).append_right _).trans (.trans ?_ (hbefore.append hlive).symm)
  exact List.perm_middle.symm

theorem release {share : Holding} (h : t.Sound next (share :: held)) :
    (t.release share.lease).Sound next held := by
  obtain ⟨l, hl, -, ⟨heq, hlater⟩ | ⟨heq, hlater⟩⟩ := h.accounts.release_cases
  · have hrelease : t.release share.lease =
        ⟨t.shelves.modify l.pool (l.surface :: ·), t.leases.without l.key⟩ := by
      simp only [Stock.release, heq]
    rw [hrelease]
    cases hshelf : t.shelves[l.pool]? with
    | some shelf =>
      have hids := h.perm_return hl hshelf
      exact ⟨hlater, hids.nodup_iff.2 h.sole, fun id hid => h.made id (hids.mem_iff.1 hid)⟩
    | none =>
      -- a surface of no pool is gone for good
      have hids : (Stock.ids ⟨t.shelves.modify l.pool (l.surface :: ·),
          t.leases.without l.key⟩).Sublist t.ids := by
        rw [ids, List.modify_eq_self (List.getElem?_eq_none_iff.1 hshelf)]
        exact (List.filter_sublist.map _).append_left _
      exact ⟨hlater, h.sole.sublist hids, fun id hid => h.made id (hids.subset hid)⟩
  · have hids : Stock.ids ⟨t.shelves, t.leases.adjust l.key (· - 1)⟩ = t.ids := by
      rw [ids, ids, Leases.map_adjust _ _ _ (·.surface) fun _ _ => rfl]
    have hrelease : t.release share.lease = ⟨t.shelves, t.leases.adjust l.key (· - 1)⟩ := by
      simp only [Stock.release, heq]
    rw [hrelease]
    exact ⟨hlater, hids ▸ h.sole, hids ▸ h.made⟩

end Sound

end Stock

end Deinterlace
