import Deinterlace.Proofs.Device.Matching
import Deinterlace.Proofs.Simulator.Linked
import Deinterlace.Proofs.Simulator.Settings

/-!
# A simulated device and its mirror

Two simulated devices are `Simulator.Mirrored` when they are the same up to names, but for surfaces
that the left one has made and the right one has not. These lie on the shelves of the left device
under all that has come back, so they are taken only when the right device makes a surface in their
place. What the devices lend, render and report is alike, whatever happens to their pools, and this
makes a coupling (`Simulator.mirroring`).
-/
namespace Deinterlace.Simulator

variable {n m : Names} {d e : Simulator}

/-! ## Pools and their mirrors -/

/-- How many surfaces pools have made. -/
def madeBy (pools : List Pool) : Nat := (pools.map (·.allocated)).sum

/-- Nothing is made when surfaces are put on a shelf or taken from there. -/
theorem madeBy_modify (pools : List Pool) (i : PoolId) (change : Pool → Pool)
    (h : ∀ p, (change p).allocated = p.allocated) :
    madeBy (pools.modify i change) = madeBy pools := by
  rw [madeBy, Stock.map_modify Pool.allocated id h, List.modify_id, madeBy]

theorem madeBy_shelve (pools : List Pool) (i : PoolId) (shelf : List SurfaceId) :
    madeBy (pools.modify i fun p => { p with free := shelf }) = madeBy pools :=
  madeBy_modify pools i _ fun _ => rfl

theorem madeBy_withoutLease (d : Simulator) (l : Lease) :
    madeBy (d.withoutLease l).pools = madeBy d.pools :=
  madeBy_modify d.pools l.pool _ fun _ => rfl

theorem madeBy_succ {pools : List Pool} {i : PoolId} {p : Pool} (hp : pools[i]? = some p)
    {change : Pool → Pool} (h : ∀ p, (change p).allocated = p.allocated + 1) :
    madeBy (pools.modify i change) = madeBy pools + 1 := by
  have hi : i < (pools.map (·.allocated)).length := by
    rw [List.length_map]
    exact (List.getElem?_eq_some_iff.1 hp).1
  rw [madeBy, Stock.map_modify Pool.allocated (· + 1) h]
  exact sum_modify_succ hi

/-- The left pool has on its shelf what the right pool has, and under it surfaces that it has made
in excess, which have no names. -/
structure Pool.Mirrors (names : List (SurfaceId × SurfaceId)) (p q : Pool) : Prop where
  desc_eq : q.desc = p.desc
  capacity_eq : q.capacity = p.capacity
  shelved : ∃ back old, p.free = back.map (·.1) ++ old ∧ q.free = back.map (·.2) ∧ back ⊆ names ∧
    (∀ a ∈ old, a ∉ names.map (·.1)) ∧ p.allocated = q.allocated + old.length

namespace Pool.Mirrors

variable {names : List (SurfaceId × SurfaceId)} {p q : Pool} {a b : SurfaceId}

theorem allocated_le (h : p.Mirrors names q) : q.allocated ≤ p.allocated := by
  obtain ⟨-, old, -, -, -, -, hmade⟩ := h.shelved
  omega

theorem inUse_eq (h : p.Mirrors names q) : p.inUse = q.inUse := by
  obtain ⟨back, old, hfree, hfree', -, -, hmade⟩ := h.shelved
  simp only [Pool.inUse, hfree, hfree', List.length_append, List.length_map]
  omega

/-- Surfaces that stand for each other come back. -/
theorem release (h : p.Mirrors names q) (hnamed : (a, b) ∈ names) :
    Pool.Mirrors names { p with free := a :: p.free } { q with free := b :: q.free } := by
  obtain ⟨back, old, hfree, hfree', hback, hold, hmade⟩ := h.shelved
  refine ⟨h.desc_eq, h.capacity_eq, (a, b) :: back, old, ?_, ?_, ?_, hold, hmade⟩
  · exact congrArg (a :: ·) hfree
  · exact congrArg (b :: ·) hfree'
  · exact List.cons_subset.2 ⟨hnamed, hback⟩

/-- A surface that is not on the shelf gets a name. -/
theorem name (h : p.Mirrors names q) (ha : a ∉ p.free) : p.Mirrors ((a, b) :: names) q := by
  obtain ⟨back, old, hfree, hfree', hback, hold, hmade⟩ := h.shelved
  refine ⟨h.desc_eq, h.capacity_eq, back, old, hfree, hfree', List.subset_cons_of_subset _ hback,
    ?_, hmade⟩
  intro x hx hmem
  rcases List.mem_cons.1 hmem with rfl | hmem
  · exact ha (hfree ▸ List.mem_append_right _ hx)
  · exact hold x hx hmem

/-- A pool that has made nothing in excess is its own mirror. -/
theorem refl (hnamed : ∀ a ∈ p.free, (a, a) ∈ names) : p.Mirrors names p := by
  refine ⟨rfl, rfl, diagonal p.free, [], by simp, by simp, ?_, by simp, rfl⟩
  intro x hx
  obtain ⟨a, ha, rfl⟩ := mem_diagonal.1 hx
  exact hnamed a ha

end Pool.Mirrors

/-! ## Two devices -/

/-- A device in the hands of a session, at the moment when it is put beside its mirror. -/
structure Fork where
  fixtures : Fixtures
  /-- The surfaces of the frames that no pool has lent. -/
  outer : List SurfaceId
  /-- What was rendered before, latest first. -/
  before : List Submission

/-- The devices give the same answers up to names, while the shares `shares` are out on both
sides. -/
structure Mirrored (t : Fork) (n : Names) (shares : List (Holding × Holding)) (d e : Simulator) :
    Prop where
  balanced : d.Balanced (shares.map (·.1))
  balanced' : e.Balanced (shares.map (·.2))
  equipped : d.Equipped t.fixtures
  equipped' : e.Equipped t.fixtures
  caps_eq : e.caps = d.caps
  failing_eq : e.failing = d.failing
  poolCapacity_eq : e.poolCapacity = d.poolCapacity
  pools : List.Forall₂ (Pool.Mirrors n.surfaces) d.pools e.pools
  leases : Leases.Matched n.surfaces shares d.leases e.leases
  lt : ∀ x ∈ n.surfaces, x.1.value < d.nextId ∧ x.2.value < e.nextId
  /-- All that the left device has made in excess are surfaces. -/
  numbers : d.nextId + madeBy e.pools = e.nextId + madeBy d.pools
  rendered : ∃ since since', d.rendered = since ++ t.before ∧ e.rendered = since' ++ t.before ∧
    List.Forall₂ (Submission.Alike (n.Links t.outer) n) since since'

namespace Mirrored

variable {t : Fork} {shares : List (Holding × Holding)} {share : Holding × Holding}

theorem fails_eq (h : Mirrored t n shares d e) : e.fails = d.fails := by
  unfold fails
  rw [h.failing_eq]

/-- The mirror uses up no more numbers. -/
theorem nextId_le (h : Mirrored t n shares d e) : e.nextId ≤ d.nextId := by
  have hmade : madeBy e.pools ≤ madeBy d.pools := by
    have hpools := h.pools
    unfold madeBy
    generalize d.pools = pools at hpools
    generalize e.pools = pools' at hpools
    induction hpools with
    | nil => exact Nat.le_refl _
    | cons hpq _ ih => exact Nat.add_le_add hpq.allocated_le ih
  have hnumbers := h.numbers
  omega

/-- No surface has two names, and no filter. -/
theorem oneToOne (h : Mirrored t n shares d e)
    (hnamed : n.buffers = t.fixtures.filters.zip t.fixtures.filters) : n.OneToOne :=
  .of_zip rfl hnamed h.equipped.outfit.nodup h.equipped'.outfit.nodup h.leases.nodup h.leases.nodup'

/-- As many surfaces of each pool are out. -/
theorem inUse_eq (h : Mirrored t n shares d e) :
    d.pools.map (·.inUse) = e.pools.map (·.inUse) := by
  have hpools := h.pools
  generalize d.pools = pools at hpools
  generalize e.pools = pools' at hpools
  induction hpools with
  | nil => rfl
  | cons hpq _ ih => rw [List.map_cons, List.map_cons, hpq.inUse_eq, ih]

/-! ## Single calls on both sides -/

/-- Calls that leave pools, leases and pictures alone, and use up as many numbers. -/
theorem quiet (h : Mirrored t n shares d e) {d' e' : Simulator} (hd : Quiet d d') (he : Quiet e e')
    (haged : d.Aged d') (haged' : e.Aged e')
    (hnumbers : d'.nextId + e.nextId = e'.nextId + d.nextId) (hequipped : d'.Equipped t.fixtures)
    (hequipped' : e'.Equipped t.fixtures)
    (hrendered : ∃ new new', d'.rendered = new ++ d.rendered ∧ e'.rendered = new' ++ e.rendered ∧
      List.Forall₂ (Submission.Alike (n.Links t.outer) n) new new') :
    Mirrored t n shares d' e' where
  balanced := h.balanced.quiet hd
  balanced' := h.balanced'.quiet he
  equipped := hequipped
  equipped' := hequipped'
  caps_eq := by rw [hd.caps_eq, he.caps_eq, h.caps_eq]
  failing_eq := by rw [hd.failing_eq, he.failing_eq, h.failing_eq]
  poolCapacity_eq := by rw [haged.capacity_eq, haged'.capacity_eq, h.poolCapacity_eq]
  pools := by
    rw [hd.pools_eq, he.pools_eq]
    exact h.pools
  leases := by
    rw [hd.leases_eq, he.leases_eq]
    exact h.leases
  lt x hx := ⟨Nat.lt_of_lt_of_le (h.lt x hx).1 hd.nextId_le,
    Nat.lt_of_lt_of_le (h.lt x hx).2 he.nextId_le⟩
  numbers := by
    have hbefore := h.numbers
    rw [hd.pools_eq, he.pools_eq]
    omega
  rendered := by
    obtain ⟨since, since', heq, heq', halike⟩ := h.rendered
    obtain ⟨new, new', hnew, hnew', hadded⟩ := hrendered
    refine ⟨new ++ since, new' ++ since', ?_, ?_, List.rel_append hadded halike⟩
    · rw [hnew, heq, List.append_assoc]
    · rw [hnew', heq', List.append_assoc]

theorem noted (h : Mirrored t n shares d e) (call call' : Call) :
    Mirrored t n shares (d.record call) (e.record call') :=
  h.quiet (.record _ _) (.record _ _) (.of_pools rfl rfl (Nat.le_refl _) rfl)
    (.of_pools rfl rfl (Nat.le_refl _) rfl) (Nat.add_comm _ _)
    ⟨h.equipped.closed, h.equipped.outfit⟩ ⟨h.equipped'.closed, h.equipped'.outfit⟩
    ⟨[], [], rfl, rfl, .nil⟩

theorem perm (h : Mirrored t n shares d e) {later : List (Holding × Holding)}
    (hperm : shares.Perm later) : Mirrored t n later d e :=
  { h with
    balanced := h.balanced.perm (hperm.map _)
    balanced' := h.balanced'.perm (hperm.map _)
    leases := h.leases.mono fun _ hx => hperm.mem_iff.2 hx }

theorem retain (h : Mirrored t n shares d e) (hshare : share ∈ shares) :
    Mirrored t n (share :: shares) (Device.retain share.1.lease d)
      (Device.retain share.2.lease e) :=
  { h with
    balanced := h.balanced.retain (List.mem_map_of_mem hshare)
    balanced' := h.balanced'.retain (List.mem_map_of_mem hshare)
    equipped := ⟨h.equipped.closed, h.equipped.outfit⟩
    equipped' := ⟨h.equipped'.closed, h.equipped'.outfit⟩
    leases := h.leases.retain hshare }

/-- Surfaces that go back go to pools in the same place. -/
theorem release (h : Mirrored t n (share :: shares) d e) :
    Mirrored t n shares (Device.release share.1.lease d) (Device.release share.2.lease e) := by
  have hafter := h.balanced.release
  have hafter' := h.balanced'.release
  have hequipped := h.equipped.release share.1.lease
  have hequipped' := h.equipped'.release share.2.lease
  rcases h.leases.release h.balanced.sound.accounts h.balanced'.sound.accounts with
    ⟨l, l', hpool, hnamed, hkey, hkey', heq, heq', hmatched⟩ | ⟨heq, heq', hmatched⟩
  · have hrelease := release_of_last hkey heq
    have hrelease' := release_of_last hkey' heq'
    rw [hrelease] at hafter hequipped ⊢
    rw [hrelease'] at hafter' hequipped' ⊢
    have hpools : List.Forall₂ (Pool.Mirrors n.surfaces) (d.withoutLease l).pools
        (e.withoutLease l').pools := by
      simp only [withoutLease, modifyPool, hpool]
      exact forall₂_modify h.pools fun p q _ _ hpq => hpq.release hnamed
    refine { h with
      balanced := hafter
      balanced' := hafter'
      equipped := hequipped
      equipped' := hequipped'
      pools := hpools
      leases := ?_
      numbers := ?_ }
    · simp only [withoutLease, modifyPool, Leases.without, ← hkey, ← hkey'] at hmatched ⊢
      exact hmatched
    · rw [madeBy_withoutLease, madeBy_withoutLease]
      exact h.numbers
  · have hrelease := release_of_others heq
    have hrelease' := release_of_others heq'
    rw [hrelease] at hafter hequipped ⊢
    rw [hrelease'] at hafter' hequipped' ⊢
    exact { h with
      balanced := hafter
      balanced' := hafter'
      equipped := hequipped
      equipped' := hequipped'
      leases := hmatched }

/-- Other calls are made to fail. -/
theorem fail (h : Mirrored t n shares d e) (failing : List EntryPoint) :
    Mirrored t n shares { d with failing } { e with failing } :=
  { h with
    balanced := ⟨h.balanced.sound, h.balanced.pool_lt, h.balanced.tallies⟩
    balanced' := ⟨h.balanced'.sound, h.balanced'.pool_lt, h.balanced'.tallies⟩
    equipped := ⟨h.equipped.closed, h.equipped.outfit⟩
    equipped' := ⟨h.equipped'.closed, h.equipped'.outfit⟩
    failing_eq := rfl }

/-! ## Surfaces from pools -/

/-- Both devices lend a surface from their pools at the same place, and the two stand for each
other. -/
def Lends (t : Fork) (n : Names) (i : PoolId) (shares : List (Holding × Holding))
    (d e : Simulator) : Prop :=
  ∃ m s s' x y d' e', n.Grows m ∧ Device.allocate i d = (.ok s, d') ∧
    Device.allocate i e = (.ok s', e') ∧ s.Alike m s' ∧ s.holding? = some x ∧
      s'.holding? = some y ∧ Mirrored t m ((x, y) :: shares) d' e'

section Lending

variable {i : PoolId} {p q : Pool} {a b : SurfaceId}

/-- Pools in the same place change on both sides. -/
theorem pools_modify (h : Mirrored t n shares d e) (hp : d.pools[i]? = some p)
    (hq : e.pools[i]? = some q) {change change' : Pool → Pool}
    (hpq : (change p).Mirrors n.surfaces (change' q)) :
    List.Forall₂ (Pool.Mirrors n.surfaces) (d.pools.modify i change)
      (e.pools.modify i change') := by
  refine forall₂_modify h.pools fun p' q' hp' hq' _ => ?_
  cases hp.symm.trans hp'
  cases hq.symm.trans hq'
  exact hpq

theorem lend (h : Mirrored t n shares d e) {change change' : Pool → Pool} {next next' : Nat}
    (hgrows : n.Grows m) (hnamed : (a, b) ∈ m.surfaces) (hvalid : a.isValid = true)
    (hvalid' : b.isValid = true)
    (hd : Device.allocate i d = ({ d with
      pools := d.pools.modify i change, nextId := next }).lend i p.desc a)
    (he : Device.allocate i e = ({ e with
      pools := e.pools.modify i change', nextId := next' }).lend i q.desc b)
    (hdesc : q.desc = p.desc) (hpools : List.Forall₂ (Pool.Mirrors m.surfaces)
      (d.pools.modify i change) (e.pools.modify i change'))
    (hnodup : (m.surfaces.map (·.1)).Nodup) (hnodup' : (m.surfaces.map (·.2)).Nodup)
    (hnumbers : next + madeBy (e.pools.modify i change') =
      next' + madeBy (d.pools.modify i change))
    (hlt : ∀ x ∈ m.surfaces, x.1.value < next ∧ x.2.value < next') : Lends t n i shares d e := by
  have hbalanced := h.balanced.allocate i
  have hbalanced' := h.balanced'.allocate i
  have hequipped := h.equipped.allocate i
  have hequipped' := h.equipped'.allocate i
  rw [hd] at hbalanced hequipped
  rw [he] at hbalanced' hequipped'
  refine ⟨m, _, _, _, _, _, _, hgrows, hd, he,
    ⟨hnamed, ?_, ?_, hvalid, hvalid', _, _, rfl, rfl⟩, rfl, rfl, hbalanced, hbalanced', hequipped,
    hequipped', h.caps_eq, h.failing_eq, h.poolCapacity_eq, hpools,
    h.leases.grant h.balanced.sound.accounts h.balanced'.sound.accounts hgrows.surfaces hnamed
      hnodup hnodup' i, hlt, hnumbers, ?_⟩
  · exact congrArg (·.width) hdesc
  · exact congrArg (·.height) hdesc
  · obtain ⟨since, since', heq, heq', halike⟩ := h.rendered
    exact ⟨since, since', heq, heq',
      halike.imp fun x y => Submission.Alike.mono hgrows fun a b => Names.Links.mono hgrows⟩

/-- The surfaces that are lent have not stood for each other before. -/
theorem lend_unnamed (h : Mirrored t n shares d e) {change change' : Pool → Pool}
    {next next' : Nat} (ha : a ∉ n.surfaces.map (·.1)) (hb : b ∉ n.surfaces.map (·.2))
    (hroom : d.nextId < (Handle.invalid : SurfaceId).value)
    (hd : Device.allocate i d = ({ d with
      pools := d.pools.modify i change, nextId := next }).lend i p.desc a)
    (he : Device.allocate i e = ({ e with
      pools := e.pools.modify i change', nextId := next' }).lend i q.desc b)
    (hdesc : q.desc = p.desc) (hpools : List.Forall₂ (Pool.Mirrors n.surfaces)
      (d.pools.modify i change) (e.pools.modify i change'))
    (hnumbers : next + madeBy (e.pools.modify i change') =
      next' + madeBy (d.pools.modify i change))
    (hmade : a.value < d.nextId + 1 ∧ a.value < next)
    (hmade' : b.value < e.nextId + 1 ∧ b.value < next')
    (hle : d.nextId ≤ next) (hle' : e.nextId ≤ next') : Lends t n i shares d e := by
  have hroom' := Nat.lt_of_le_of_lt h.nextId_le hroom
  have hbalanced := h.balanced.allocate i
  rw [hd] at hbalanced
  -- a surface that is out is on no shelf
  have hfree : ∀ r ∈ d.pools.modify i change, a ∉ r.free := by
    intro r hr
    obtain ⟨j, hj⟩ := List.getElem?_of_mem hr
    exact (hbalanced.right hj).free_ne _ (Leases.mem_live_grant.2 (.inl rfl))
  have hlater : List.Forall₂ (Pool.Mirrors ((a, b) :: n.surfaces)) (d.pools.modify i change)
      (e.pools.modify i change') :=
    ((List.forall₂_and_left _ _).2 ⟨hfree, hpools⟩).imp fun r r' hr => hr.2.name hr.1
  refine h.lend (m := { n with surfaces := (a, b) :: n.surfaces })
    ⟨List.subset_cons_self _ _, rfl⟩ List.mem_cons_self (Linked.isValid_of_lt hmade.1 hroom)
    (Linked.isValid_of_lt hmade'.1 hroom') hd he hdesc hlater
    (List.nodup_cons.2 ⟨ha, h.leases.nodup⟩) (List.nodup_cons.2 ⟨hb, h.leases.nodup'⟩) hnumbers ?_
  intro x hx
  rcases List.mem_cons.1 hx with rfl | hx
  · exact ⟨hmade.2, hmade'.2⟩
  · exact ⟨Nat.lt_of_lt_of_le (h.lt x hx).1 hle, Nat.lt_of_lt_of_le (h.lt x hx).2 hle'⟩

variable {back : List (SurfaceId × SurfaceId)} {old : List SurfaceId}

/-- The surface that came back last is on top of both shelves. -/
theorem lend_known (h : Mirrored t n shares d e)
    (hroom : d.nextId < (Handle.invalid : SurfaceId).value) (hworks : d.fails .alloc = false)
    (hp : d.pools[i]? = some p) (hq : e.pools[i]? = some q) (hpq : p.Mirrors n.surfaces q)
    (hfree : p.free = a :: (back.map (·.1) ++ old)) (hfree' : q.free = b :: back.map (·.2))
    (hback : (a, b) :: back ⊆ n.surfaces) (hold : ∀ x ∈ old, x ∉ n.surfaces.map (·.1))
    (hmade : p.allocated = q.allocated + old.length) : Lends t n i shares d e := by
  obtain ⟨hnamed, hothers⟩ := List.cons_subset.1 hback
  have hroom' := Nat.lt_of_le_of_lt h.nextId_le hroom
  refine h.lend (.refl n) hnamed
    (Linked.isValid_of_lt (h.lt _ hnamed).1 (Nat.le_of_lt hroom))
    (Linked.isValid_of_lt (h.lt _ hnamed).2 (Nat.le_of_lt hroom'))
    (allocate_of_shelf hworks hp hfree) (allocate_of_shelf (h.fails_eq ▸ hworks) hq hfree')
    hpq.desc_eq (h.pools_modify hp hq ?_) h.leases.nodup h.leases.nodup' ?_ h.lt
  · exact ⟨hpq.desc_eq, hpq.capacity_eq, back, old, rfl, rfl, hothers, hold, hmade⟩
  · rw [madeBy_shelve, madeBy_shelve]
    exact h.numbers

/-- The mirror makes a surface in the place of one that the left pool has in excess. -/
theorem lend_old (h : Mirrored t n shares d e)
    (hroom : d.nextId < (Handle.invalid : SurfaceId).value) (hworks : d.fails .alloc = false)
    (hp : d.pools[i]? = some p) (hq : e.pools[i]? = some q) (hpq : p.Mirrors n.surfaces q)
    (hfree : p.free = a :: old) (hfree' : q.free = [])
    (hold : ∀ x ∈ a :: old, x ∉ n.surfaces.map (·.1))
    (hmade : p.allocated = q.allocated + (a :: old).length) : Lends t n i shares d e := by
  rw [List.length_cons] at hmade
  have hbefore : a.value < d.nextId := by
    refine h.balanced.sound.made a (mem_ids_of_free (List.mem_of_getElem? hp) ?_)
    rw [hfree]
    exact List.mem_cons_self
  have hleft : q.allocated < q.capacity := by
    obtain ⟨-, hle⟩ := h.balanced.tallies i p hp
    have hcapacity := hpq.capacity_eq
    omega
  refine h.lend_unnamed (hold a List.mem_cons_self) (Names.unnamed h.lt).2 hroom
    (allocate_of_shelf hworks hp hfree) (allocate_of_empty (h.fails_eq ▸ hworks) hq hfree' hleft)
    hpq.desc_eq (h.pools_modify hp hq ?_) ?_ ⟨Nat.lt_succ_of_lt hbefore, hbefore⟩
    ⟨Nat.lt_succ_self _, Nat.lt_succ_self _⟩ (Nat.le_refl _) (Nat.le_succ _)
  · refine ⟨hpq.desc_eq, hpq.capacity_eq, [], old, rfl, hfree', List.nil_subset _,
      fun x hx => hold x (List.mem_cons_of_mem _ hx), ?_⟩
    show p.allocated = q.allocated + 1 + old.length
    omega
  · rw [madeBy_succ hq fun _ => rfl, madeBy_shelve]
    have hnumbers := h.numbers
    omega

/-- Both pools make a surface. -/
theorem lend_new (h : Mirrored t n shares d e)
    (hroom : d.nextId < (Handle.invalid : SurfaceId).value) (hworks : d.fails .alloc = false)
    (hp : d.pools[i]? = some p) (hq : e.pools[i]? = some q) (hpq : p.Mirrors n.surfaces q)
    (hfree : p.free = []) (hfree' : q.free = []) (hmade : p.allocated = q.allocated)
    (hleft : p.allocated < p.capacity) : Lends t n i shares d e := by
  have hleft' : q.allocated < q.capacity := by
    have hcapacity := hpq.capacity_eq
    omega
  refine h.lend_unnamed (Names.unnamed h.lt).1 (Names.unnamed h.lt).2 hroom
    (allocate_of_empty hworks hp hfree hleft)
    (allocate_of_empty (h.fails_eq ▸ hworks) hq hfree' hleft') hpq.desc_eq
    (h.pools_modify hp hq ?_) ?_ ⟨Nat.lt_succ_self _, Nat.lt_succ_self _⟩
    ⟨Nat.lt_succ_self _, Nat.lt_succ_self _⟩ (Nat.le_succ _) (Nat.le_succ _)
  · exact ⟨hpq.desc_eq, hpq.capacity_eq, [], [], hfree, hfree', List.nil_subset _, by simp,
      congrArg (· + 1) hmade⟩
  · rw [madeBy_succ hq fun _ => rfl, madeBy_succ hp fun _ => rfl]
    have hnumbers := h.numbers
    omega

end Lending

/-- A surface is to be had on both sides or on neither. -/
theorem allocate (h : Mirrored t n shares d e)
    (hroom : d.nextId < (Handle.invalid : SurfaceId).value) (i : PoolId) :
    (∃ error, Device.allocate i d = (.error error, d) ∧ Device.allocate i e = (.error error, e)) ∨
      Lends t n i shares d e := by
  rcases forall₂_getElem? h.pools i with ⟨hnone, hnone'⟩ | ⟨p, q, hp, hq, hpq⟩
  · refine .inl ⟨_, allocate_of_none hnone, ?_⟩
    rw [allocate_of_none hnone', h.fails_eq]
  cases hfails : d.fails .alloc with
  | true => exact .inl ⟨_, allocate_of_fails hfails, allocate_of_fails (h.fails_eq ▸ hfails)⟩
  | false =>
    obtain ⟨back, old, hfree, hfree', hback, hold, hmade⟩ := hpq.shelved
    cases back with
    | cons first back =>
      exact .inr (h.lend_known hroom hfails hp hq hpq hfree hfree' hback hold hmade)
    | nil =>
      cases old with
      | cons a old => exact .inr (h.lend_old hroom hfails hp hq hpq hfree hfree' hold hmade)
      | nil =>
        by_cases hleft : p.allocated < p.capacity
        · exact .inr (h.lend_new hroom hfails hp hq hpq hfree hfree' hmade hleft)
        · -- both pools are used up
          have hsame : p.allocated = q.allocated := hmade
          have hcapacity := hpq.capacity_eq
          exact .inl ⟨_, allocate_of_exhausted hfails hp hfree hleft,
            allocate_of_exhausted (h.fails_eq ▸ hfails) hq hfree' (by omega)⟩

/-! ## The other calls -/

theorem upload (h : Mirrored t n shares d e) {f g : Frame} (hfg : f.Alike n g) (i j : PoolId)
    (target target' : Surface) :
    (Device.upload j target' g e).1 = (Device.upload i target f d).1 ∧
      Mirrored t n shares (Device.upload i target f d).2 (Device.upload j target' g e).2 := by
  rw [upload_eq, upload_eq, h.fails_eq, uploadable_eq hfg]
  split
  · exact ⟨rfl, h⟩
  · split
    · exact ⟨rfl, h.noted _ _⟩
    · exact ⟨rfl, h⟩

/-- Requests that are alike are rendered on both sides or on neither. -/
theorem submit (h : Mirrored t n shares d e) {filter : BufferId} {rest : List BufferId}
    (hfilters : t.fixtures.filters = filter :: rest) {r r' : RenderRequest}
    (hchain : r.filters = t.fixtures.filters) (hchain' : r'.filters = t.fixtures.filters)
    (hvalid : r.destination.isValid = true) (hvalid' : r'.destination.isValid = true)
    (halike : r.Alike (n.Links t.outer) n r') (flags : DeintFlags) :
    (Rendering.submit t.fixtures.context (some filter) flags r' e).1 =
        (Rendering.submit t.fixtures.context (some filter) flags r d).1 ∧
      Mirrored t n shares (Rendering.submit t.fixtures.context (some filter) flags r d).2
        (Rendering.submit t.fixtures.context (some filter) flags r' e).2 := by
  obtain ⟨hresult, hrendered, hnext⟩ :=
    h.equipped.submit_course t.fixtures.context hfilters hchain hvalid flags
  obtain ⟨hresult', hrendered', hnext'⟩ :=
    h.equipped'.submit_course t.fixtures.context hfilters hchain' hvalid' flags
  rw [h.fails_eq] at hresult' hrendered' hnext'
  refine ⟨hresult'.trans hresult.symm, h.quiet (quiet_submit _ _ _ _ _) (quiet_submit _ _ _ _ _)
    (.submit _ _ _ _ _) (.submit _ _ _ _ _) ?_ (h.equipped.submit _ _ _ _)
    (h.equipped'.submit _ _ _ _) ⟨_, _, hrendered, hrendered', ?_⟩⟩
  · rw [hnext, hnext']
    omega
  · split
    · exact .cons ⟨halike, rfl⟩ .nil
    · exact .nil

/-- A pool is made on both sides, at the same place, or on neither. -/
theorem createPool (h : Mirrored t n shares d e) (desc : PoolDesc) :
    (∃ error, Device.createPool desc d = (.error error, d) ∧
      Device.createPool desc e = (.error error, e)) ∨
    ∃ i d' e', Device.createPool desc d = (.ok i, d') ∧ Device.createPool desc e = (.ok i, e') ∧
      Mirrored t n shares d' e' := by
  cases hfails : d.fails .createSurfaces with
  | true =>
    exact .inl ⟨_, createPool_of_fails hfails desc, createPool_of_fails (h.fails_eq ▸ hfails) desc⟩
  | false =>
    have hd := createPool_of_works hfails desc
    have he := createPool_of_works (h.fails_eq ▸ hfails : e.fails .createSurfaces = false) desc
    have hbalanced := h.balanced.createPool desc
    have hbalanced' := h.balanced'.createPool desc
    rw [hd] at hbalanced
    rw [he] at hbalanced'
    rw [h.pools.length_eq] at hd
    refine .inr ⟨_, _, _, hd, he, { h with
      balanced := hbalanced
      balanced' := hbalanced'
      equipped := ⟨h.equipped.closed, h.equipped.outfit⟩
      equipped' := ⟨h.equipped'.closed, h.equipped'.outfit⟩
      pools := ?_
      numbers := ?_ }⟩
    · refine List.rel_append h.pools (.cons ⟨rfl, h.poolCapacity_eq, ?_⟩ .nil)
      exact ⟨[], [], rfl, rfl, List.nil_subset _, by simp, rfl⟩
    · have hnumbers := h.numbers
      simp only [record, madeBy, List.map_append, List.sum_append] at hnumbers ⊢
      exact hnumbers

end Mirrored

/-! ## The coupling -/

/-- A device and its mirror are coupled as long as the numbers last. Their pools are at the same
places. -/
def mirroring (t : Fork) : Coupling Simulator Simulator where
  left := t.fixtures
  right := t.fixtures
  seen n f g := f.Alike n g ∧ (f.holding? = none → f.surfaceId ∈ t.outer)
  keeps := True
  room _ d _ := d.nextId < (Handle.invalid : SurfaceId).value
  bond n pools shares d e := (∀ x, pools = some x → x.2 = x.1) ∧ Mirrored t n shares d e
  length_eq := rfl
  alike h := h.1
  seen_mono hgrows h := ⟨h.1.mono hgrows, h.2⟩
  seen_lent _ h hlent := ⟨h, fun hnone => absurd hnone hlent⟩
  seen_revise like h := ⟨⟨rfl, h.1.content⟩, h.2⟩
  perm hperm h := ⟨h.1, h.2.perm hperm⟩
  retain hshare h := ⟨h.1, h.2.retain hshare⟩
  release h := by
    refine ⟨⟨h.1, h.2.release⟩, fun hroom => ?_⟩
    rw [nextId_release]
    exact hroom
  queryCaps h := by
    rw [queryCaps_eq, queryCaps_eq, h.2.fails_eq, h.2.caps_eq]
    exact ⟨rfl, ⟨h.1, h.2.noted _ _⟩, id⟩
  allocate h hroom := by
    obtain ⟨hsame, hmirrored⟩ := h
    cases hsame _ rfl
    rcases hmirrored.allocate hroom _ with ⟨error, hd, he⟩ |
      ⟨m, s, s', x, y, d', e', hgrows, hd, he, halike, hx, hy, hafter⟩
    · exact .inl ⟨error, _, _, hd, he, hsame, hmirrored⟩
    · exact .inr ⟨m, s, s', x, y, d', e', hgrows, hd, he, halike, hx, hy, hsame, hafter⟩
  upload _ hfg h := by
    obtain ⟨hresult, hafter⟩ := h.2.upload hfg _ _ _ _
    exact ⟨hresult, h.1, hafter⟩
  submit flags hne hchain hchain' hvalid hvalid' halike h := by
    obtain ⟨filter, rest, hfilters⟩ := List.exists_cons_of_ne_nil hne
    obtain ⟨hresult, hafter⟩ :=
      h.2.submit hfilters hchain hchain' hvalid hvalid' (alike_of_seen halike) flags
    simp only [hfilters, List.head?_cons]
    exact ⟨hresult, h.1, hafter⟩

/-- A device and its mirror give up pools and set up new ones together, whatever is still out. -/
theorem renewsBeside_mirroring (t : Fork) (shares : List (Holding × Holding)) :
    (mirroring t).RenewsBeside shares fun _ => True where
  closePool h := ⟨nofun, h.2.noted _ _⟩
  createPool := by
    intro n desc d e _ h
    rcases h.2.createPool desc with ⟨error, hd, he⟩ | ⟨i, d', e', hd, he, hafter⟩
    · exact .inl ⟨error, d, e, hd, he, h⟩
    · refine .inr ⟨i, i, d', e', hd, he, fun x hx => ?_, hafter⟩
      cases hx
      rfl

end Deinterlace.Simulator
