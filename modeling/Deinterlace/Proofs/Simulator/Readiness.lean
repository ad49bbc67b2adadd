import Deinterlace.Proofs.Simulator.Submission
import Mathlib.Data.List.Nodup

/-!
# A simulated device that is ready

`Simulator.Ready` is what a session relies on while it renders on a simulated device: the device is
at rest, the filters are still there, and the session's pool can hand out a surface. Taking a
surface, giving one back and holding frames of other pools keep a device ready.
-/
namespace Deinterlace

theorem Leases.mem_of_find? {b : Leases} {key : LeaseId} {lease : Lease}
    (h : b.find? key = some lease) : lease ∈ b.live ∧ lease.key = key := by
  unfold Leases.find? at h
  have hkey := List.find?_some h
  exact ⟨List.mem_of_find?_eq_some h, beq_iff_eq.1 hkey⟩

namespace Simulator

/-- What a session has found on a device or made there. -/
structure Setup where
  /-- The session's pool. -/
  pool : PoolId
  desc : PoolDesc
  filters : List BufferId
  caps : PipelineCaps
  /-- The leases that were taken before are below this one. -/
  firstLease : LeaseId

/-- The session's pool when `out` of its surfaces are out. -/
structure Pool.Stocked (p : Pool) (desc : PoolDesc) (out : Nat) : Prop where
  desc_eq : p.desc = desc
  capacity_pos : 0 < p.capacity
  allocated_eq : p.allocated = p.free.length + out
  valid : ∀ id ∈ p.free, id.isValid = true

/-- A device on which a session can render. `held` are the leases from the session's pool and
`rendered` the submissions so far, latest first. -/
structure Ready (d : Simulator) (u : Setup) (held : List Lease) (rendered : List Submission) :
    Prop extends AtRest d where
  caps_eq : d.caps = u.caps
  rendered_eq : d.rendered = rendered
  filter : ∀ id ∈ u.filters, ∃ flags, d.buffers.lookup id = some (.filter flags)
  stocked : ∃ p, d.pools[u.pool]? = some p ∧ p.Stocked u.desc held.length ∧
    -- the number of the first surface is a valid handle
    (p.allocated = 0 → d.nextId < (Handle.invalid : SurfaceId).value)
  held_eq : d.leases.live.filter (·.pool == u.pool) = held
  held_sole : ∀ l ∈ held, l.holders = 1 ∧ l.surface.isValid = true ∧ u.firstLease ≤ l.key
  firstLease_le : u.firstLease ≤ d.leases.nextKey

/-- The device once a lease has ended: its surface is free again. -/
def withoutLease (d : Simulator) (lease : Lease) : Simulator :=
  modifyPool { d with
      leases := { d.leases with live := d.leases.live.filter (·.key != lease.key) } }
    lease.pool fun p => { p with free := lease.surface :: p.free }

theorem AtRest.withoutLease {d : Simulator} (h : d.AtRest) (lease : Lease) :
    (d.withoutLease lease).AtRest where
  failing := h.failing
  openPicture := h.openPicture
  buffer_lt := h.buffer_lt
  lease_lt l hl := h.lease_lt l (List.mem_filter.1 hl).1
  pool_lt l hl := by
    have hlt := h.pool_lt l (List.mem_filter.1 hl).1
    simpa [Simulator.withoutLease, modifyPool] using hlt
  distinct := h.distinct.sublist (List.filter_sublist.map _)

namespace Ready

variable {d : Simulator} {u : Setup} {held : List Lease} {rendered : List Submission}

theorem mem_live (h : d.Ready u held rendered) {l : Lease} (hl : l ∈ held) :
    l ∈ d.leases.live ∧ l.pool = u.pool := by
  rw [← h.held_eq, List.mem_filter, beq_iff_eq] at hl
  exact hl

/-- The holders of a lease may change that is not on the session's pool. -/
theorem mapHolders (h : d.Ready u held rendered) {key : LeaseId}
    (hkey : ∀ l ∈ held, l.key ≠ key) (change : Nat → Nat) :
    Ready { d with leases := { d.leases with live := d.leases.live.map fun l =>
      if l.key = key then { l with holders := change l.holders } else l } } u held rendered := by
  obtain ⟨f, hf⟩ : ∃ f : Lease → Lease, f = fun l =>
    if l.key = key then { l with holders := change l.holders } else l := ⟨_, rfl⟩
  have hsame : ∀ l, (f l).key = l.key ∧ (f l).pool = l.pool := by
    intro l
    rw [hf]
    dsimp only
    split <;> exact ⟨rfl, rfl⟩
  have hheld : ∀ l ∈ held, f l = l := by
    intro l hl
    rw [hf]
    exact if_neg (hkey l hl)
  rw [← hf]
  refine ⟨⟨h.failing, h.openPicture, h.buffer_lt, ?_, ?_, ?_⟩, h.caps_eq, h.rendered_eq, h.filter,
    h.stocked, ?_, h.held_sole, h.firstLease_le⟩
  · intro l hl
    obtain ⟨before, hbefore, rfl⟩ := List.mem_map.1 hl
    rw [(hsame before).1]
    exact h.lease_lt before hbefore
  · intro l hl
    obtain ⟨before, hbefore, rfl⟩ := List.mem_map.1 hl
    rw [(hsame before).2]
    exact h.pool_lt before hbefore
  · have hkeys : (d.leases.live.map f).map (·.key) = d.leases.live.map (·.key) := by
      rw [List.map_map]
      exact List.map_congr_left fun l _ => (hsame l).1
    exact hkeys ▸ h.distinct
  · have hfilter : (fun l => l.pool == u.pool) ∘ f = fun l => l.pool == u.pool := by
      funext l
      simp [(hsame l).2]
    show (d.leases.live.map f).filter _ = held
    rw [List.filter_map, hfilter, h.held_eq]
    exact List.map_congr_left hheld |>.trans (List.map_id held)

/-- A lease that is not on the session's pool may end. -/
theorem withoutLease (h : d.Ready u held rendered) {lease : Lease} (hlease : lease ∈ d.leases.live)
    (hheld : ∀ l ∈ held, l.key ≠ lease.key) : (d.withoutLease lease).Ready u held rendered := by
  refine ⟨h.toAtRest.withoutLease lease, h.caps_eq, h.rendered_eq, h.filter, ?_, ?_, h.held_sole,
    h.firstLease_le⟩
  · obtain ⟨p, hp, hstocked⟩ := h.stocked
    refine ⟨p, ?_, hstocked⟩
    -- the lease would be one of those held
    have hne : lease.pool ≠ u.pool := by
      intro heq
      have hmem : lease ∈ held := by
        rw [← h.held_eq, List.mem_filter, beq_iff_eq]
        exact ⟨hlease, heq⟩
      exact hheld lease hmem rfl
    simpa [Simulator.withoutLease, modifyPool, hne] using hp
  · show (d.leases.live.filter (·.key != lease.key)).filter (·.pool == u.pool) = held
    rw [List.filter_comm, h.held_eq, List.filter_eq_self]
    intro l hl
    exact bne_iff_ne.2 (hheld l hl)

/-- The device can always say what the filters need. -/
theorem queryCaps (h : d.Ready u held rendered) (context : ContextId) (filters : List BufferId) :
    ∃ later, Device.queryCaps context filters d = (.ok u.caps, later) ∧
      later.Ready u held rendered := by
  refine ⟨d.record (.queryCaps filters), ?_, { h with }⟩
  show Simulator.queryCaps filters d = _
  simp [Simulator.queryCaps, fails, record, h.failing, h.caps_eq]

/-! ## Leases of other pools -/

theorem retain (h : d.Ready u held rendered) {key : LeaseId} (hkey : ∀ l ∈ held, l.key ≠ key) :
    Ready (Device.retain key d) u held rendered :=
  h.mapHolders hkey (· + 1)

theorem release (h : d.Ready u held rendered) {key : LeaseId} (hkey : ∀ l ∈ held, l.key ≠ key) :
    Ready (Device.release key d) u held rendered := by
  show Ready (Simulator.release key d) u held rendered
  unfold Simulator.release Leases.release?
  cases hfind : d.leases.find? key with
  | none => exact h
  | some lease =>
    obtain ⟨hlive, hlease⟩ := Leases.mem_of_find? hfind
    by_cases hlast : lease.holders ≤ 1
    · subst hlease
      simp only [hlast, if_true]
      exact h.withoutLease hlive hkey
    · simp only [hlast, if_false]
      exact h.mapHolders hkey (· - 1)

/-- A frame that was there before the session's pool. -/
def Earlier (u : Setup) (frame : Frame) : Prop :=
  ∀ key, frame.lease? = some key → key < u.firstLease

theorem key_ne (h : d.Ready u held rendered) {key : LeaseId} (hkey : key < u.firstLease) :
    ∀ l ∈ held, l.key ≠ key := by
  intro l hl heq
  have hle := (h.held_sole l hl).2.2
  rw [heq] at hle
  exact Nat.lt_irrefl _ (Nat.lt_of_lt_of_le hkey hle)

theorem retainFrame (h : d.Ready u held rendered) {frame : Frame} (hframe : Earlier u frame) :
    Ready (Device.retainFrame frame d) u held rendered := by
  unfold Device.retainFrame
  split
  · rename_i key hkey
    exact h.retain (h.key_ne (hframe key hkey))
  · exact h

theorem releaseFrame (h : d.Ready u held rendered) {frame : Frame} (hframe : Earlier u frame) :
    Ready (Device.releaseFrame frame d) u held rendered := by
  unfold Device.releaseFrame
  split
  · rename_i key hkey
    exact h.release (h.key_ne (hframe key hkey))
  · exact h

theorem releaseFrames (h : d.Ready u held rendered) {frames : List Frame}
    (hframes : ∀ frame ∈ frames, Earlier u frame) :
    Ready (Device.releaseFrames frames d) u held rendered :=
  List.foldlRecOn (motive := fun d => Ready d u held rendered) frames _ h
    fun _ hd frame hframe => hd.releaseFrame (hframes frame hframe)

/-! ## Surfaces of the session's pool -/

/-- Giving back the one surface that is out. -/
theorem release_held {lease : Lease} (h : d.Ready u [lease] rendered) :
    Ready (Device.release lease.key d) u [] rendered := by
  obtain ⟨hlive, hpool⟩ := h.mem_live (List.mem_singleton.2 rfl)
  obtain ⟨hone, hvalid, -⟩ := h.held_sole lease (List.mem_singleton.2 rfl)
  obtain ⟨p, hp, hstocked, hroom⟩ := h.stocked
  have hfind : d.leases.find? lease.key = some lease := by
    cases hfind : d.leases.find? lease.key with
    | none =>
      have hnone := List.find?_eq_none.1 hfind lease hlive
      simp at hnone
    | some found =>
      obtain ⟨hfound, hkey⟩ := Leases.mem_of_find? hfind
      rw [List.inj_on_of_nodup_map h.distinct hfound hlive hkey]
  have heq : Device.release lease.key d = d.withoutLease lease := by
    show Simulator.release lease.key d = _
    simp [Simulator.release, Leases.release?, hfind, hone, Simulator.withoutLease]
  rw [heq]
  refine ⟨h.toAtRest.withoutLease lease, h.caps_eq, h.rendered_eq, h.filter, ?_, ?_, ?_,
    h.firstLease_le⟩
  · refine ⟨{ p with free := lease.surface :: p.free },
      by simp [Simulator.withoutLease, modifyPool, hp, hpool], ?_, hroom⟩
    refine ⟨hstocked.desc_eq, hstocked.capacity_pos, ?_, ?_⟩
    · simpa using hstocked.allocated_eq
    · intro id hid
      rcases List.mem_cons.1 hid with rfl | hid
      · exact hvalid
      · exact hstocked.valid id hid
  · show (d.leases.live.filter (·.key != lease.key)).filter (·.pool == u.pool) = []
    rw [List.filter_comm, h.held_eq]
    simp
  · intro l hl
    cases hl

/-- The lease on a surface that is taken from the session's pool. -/
def leaseOf (d : Simulator) (u : Setup) (id : SurfaceId) : Lease :=
  ⟨d.leases.nextKey, u.pool, id, 1⟩

/-- A device that has lent a surface. -/
theorem lend (h : d.Ready u [] rendered) (pools : List Pool) (next : Nat) {p : Pool}
    {id : SurfaceId} (hlen : pools.length = d.pools.length) (hp : pools[u.pool]? = some p)
    (hstocked : p.Stocked u.desc 1) (hvalid : id.isValid = true) (hnext : d.nextId ≤ next)
    (hroom : p.allocated ≠ 0) :
    Ready (Simulator.lend { d with pools := pools, nextId := next } u.pool p.desc id).2 u
      [leaseOf d u id] rendered := by
  have hpool : u.pool < d.pools.length := by
    rw [← hlen]
    exact (List.getElem?_eq_some_iff.1 hp).1
  refine ⟨⟨h.failing, h.openPicture, ?_, ?_, ?_, ?_⟩, h.caps_eq, h.rendered_eq, h.filter, ?_, ?_,
    ?_, ?_⟩
  · intro entry hentry
    exact Nat.lt_of_lt_of_le (h.buffer_lt entry hentry) hnext
  · intro l hl
    rcases Leases.mem_live_grant.1 hl with rfl | hl
    · exact Nat.lt_succ_self _
    · exact Nat.lt_succ_of_lt (h.lease_lt l hl)
  · intro l hl
    show l.pool < pools.length
    rw [hlen]
    rcases Leases.mem_live_grant.1 hl with rfl | hl
    · exact hpool
    · exact h.pool_lt l hl
  · show ((leaseOf d u id :: d.leases.live).map (·.key)).Nodup
    rw [List.map_cons, List.nodup_cons]
    refine ⟨?_, h.distinct⟩
    intro hmem
    obtain ⟨l, hl, hkey⟩ := List.mem_map.1 hmem
    have hlt := h.lease_lt l hl
    rw [hkey] at hlt
    exact Nat.lt_irrefl _ hlt
  · exact ⟨p, hp, hstocked, fun hzero => absurd hzero hroom⟩
  · show (leaseOf d u id :: d.leases.live).filter (·.pool == u.pool) = _
    rw [List.filter_cons, h.held_eq, leaseOf, beq_self_eq_true, if_pos rfl]
  · intro l hl
    rw [List.mem_singleton.1 hl]
    exact ⟨rfl, hvalid, h.firstLease_le⟩
  · exact Nat.le_succ_of_le h.firstLease_le

/-- Taking a surface from the session's pool while none is out. -/
theorem allocate (h : d.Ready u [] rendered) :
    ∃ id later, Device.allocate u.pool d =
        (.ok ⟨id, u.desc.width, u.desc.height, some d.leases.nextKey⟩, later) ∧
      id.isValid = true ∧ Ready later u [leaseOf d u id] rendered := by
  obtain ⟨p, hp, hstocked, hroom⟩ := h.stocked
  have hfails := fails_eq_false h.failing .alloc
  cases hfree : p.free with
  | nil =>
    have hzero : p.allocated = 0 := by simpa [hfree] using hstocked.allocated_eq
    have hvalid : (⟨d.nextId⟩ : SurfaceId).isValid = true := by
      rw [Handle.isValid_iff]
      intro heq
      have hlt := hroom hzero
      rw [← heq] at hlt
      exact Nat.lt_irrefl _ hlt
    have heq : Device.allocate u.pool d = Simulator.lend { d with
        pools := d.pools.modify u.pool fun p => { p with allocated := p.allocated + 1 }
        nextId := d.nextId + 1 } u.pool p.desc ⟨d.nextId⟩ := by
      show Simulator.allocate u.pool d = _
      have hlt : p.allocated < p.capacity := hzero ▸ hstocked.capacity_pos
      simp [Simulator.allocate, hfails, hp, hfree, hlt, bump, modifyPool]
    have hlent := h.lend (d.pools.modify u.pool fun p => { p with allocated := p.allocated + 1 })
      (d.nextId + 1) (p := { p with allocated := p.allocated + 1 }) (by simp) (by simp [hp])
      ⟨hstocked.desc_eq, hstocked.capacity_pos, by simp [hfree, hzero], hstocked.valid⟩ hvalid
      (Nat.le_succ _) (Nat.succ_ne_zero _)
    refine ⟨⟨d.nextId⟩, _, ?_, hvalid, hlent⟩
    rw [heq, ← hstocked.desc_eq]
    rfl
  | cons id free =>
    have hvalid : id.isValid = true := hstocked.valid id (by simp [hfree])
    have heq : Device.allocate u.pool d = Simulator.lend { d with
        pools := d.pools.modify u.pool fun p => { p with free := free } } u.pool p.desc id := by
      show Simulator.allocate u.pool d = _
      simp [Simulator.allocate, hfails, hp, hfree, modifyPool]
    have hallocated : p.allocated = free.length + 1 := by
      simpa [hfree] using hstocked.allocated_eq
    have hlent := h.lend (d.pools.modify u.pool fun p => { p with free := free }) d.nextId
      (p := { p with free := free }) (by simp) (by simp [hp])
      ⟨hstocked.desc_eq, hstocked.capacity_pos, hallocated,
        fun id hid => hstocked.valid id (by simp [hfree, hid])⟩
      hvalid (Nat.le_refl _) (by simp [hallocated])
    refine ⟨id, _, ?_, hvalid, hlent⟩
    rw [heq, ← hstocked.desc_eq]
    rfl

/-! ## Rendering -/

/-- A device that has rendered a request. -/
theorem submitted {lease : Lease} (h : d.Ready u [lease] rendered) (filter : BufferId)
    (flags : DeintFlags) (submission : Submission) (history : List Call) :
    Ready { d with
      buffers := replaceBuffer d.buffers filter (.filter flags)
      nextId := d.nextId + 1
      history := history
      rendered := submission :: d.rendered } u [lease] (submission :: rendered) where
  failing := h.failing
  openPicture := h.openPicture
  buffer_lt entry hentry := by
    obtain ⟨before, hbefore, hsame⟩ := mem_replaceBuffer hentry
    rw [← hsame]
    exact Nat.lt_succ_of_lt (h.buffer_lt before hbefore)
  lease_lt := h.lease_lt
  pool_lt := h.pool_lt
  caps_eq := h.caps_eq
  rendered_eq := congrArg (submission :: ·) h.rendered_eq
  filter id hid := by
    obtain ⟨before, hbefore⟩ := h.filter id hid
    by_cases heq : id = filter
    · subst heq
      exact ⟨flags, lookup_replaceBuffer_self hbefore _⟩
    · exact ⟨before, (lookup_replaceBuffer_ne heq _).trans hbefore⟩
  stocked := by
    obtain ⟨p, hp, hstocked, -⟩ := h.stocked
    refine ⟨p, hp, hstocked, fun hzero => ?_⟩
    have hallocated := hstocked.allocated_eq
    rw [hzero] at hallocated
    cases hallocated
  distinct := h.distinct
  held_eq := h.held_eq
  held_sole := h.held_sole
  firstLease_le := h.firstLease_le

/-- **Rendering on a device that is ready.** The field that the window is on is rendered onto a
surface of the session's pool, and the one lease on it goes with the picture. -/
theorem render (h : d.Ready u [] rendered) (context : ContextId) {c : Chain} {w : Window}
    {current : Frame} {filter : BufferId} {rest : List BufferId}
    (hfilters : u.filters = filter :: rest)
    (hactive : c.active = u.filters) (hbuffer : c.deinterlaceBuffer? = some filter)
    (hcurrent : current.surfaceId.isValid = true) :
    ∃ id later, Rendering.render context c w (some u.pool) current d =
        (.ok (Rendering.pictureOf w current
          ⟨id, u.desc.width, u.desc.height, some d.leases.nextKey⟩), later) ∧
      Ready later u [leaseOf d u id]
        (⟨Rendering.buildRequest c w current id,
          some (.ofField (Rendering.fieldOf w) w.topFieldFirst)⟩ :: rendered) := by
  obtain ⟨id, lent, hallocate, hvalid, hlent⟩ := h.allocate
  obtain ⟨before, hfilter⟩ := hlent.filter filter (by simp [hfilters])
  have hchain : (Rendering.buildRequest c w current id).filters = filter :: rest :=
    hactive.trans hfilters
  have hsubmit := submit_eq hlent.toAtRest context hvalid hchain hfilter
    (.ofField (Rendering.fieldOf w) w.topFieldFirst)
  rw [← hbuffer] at hsubmit
  exact ⟨id, _, Rendering.render_of_ok hcurrent hallocate hvalid hsubmit,
    hlent.submitted filter _ _ _⟩

end Ready

end Simulator

end Deinterlace
