import Deinterlace.Proofs.Device.Pairing
import Deinterlace.Proofs.Session.Coupling
import Deinterlace.Proofs.Session.Exclusive
import Deinterlace.Proofs.Simulator.Verdict

/-!
# Two simulated devices side by side

Two sessions on simulated devices with the same settings set up pools that are alike, each with a
past of its own. From then on the devices can be `Simulator.Linked`: what they lend, what they
render and what they report is the same up to names, provided that the left pool does not run out
before the right one, and that no handle is the invalid one. This makes a coupling
(`Simulator.linkage`).
-/
namespace Deinterlace

/-! ## Submissions that are alike -/

/-- Surfaces that stand for each other: two of pools, or one of those from outside. -/
def Names.Links (n : Names) (outer : List SurfaceId) (a b : SurfaceId) : Prop :=
  (a, b) ∈ n.surfaces ∨ a = b ∧ a ∈ outer

variable {n m : Names} {outer : List SurfaceId}

/-- Surfaces with the next numbers have no names as long as all that have are below. -/
theorem Names.unnamed {next next' : Nat}
    (h : ∀ x ∈ n.surfaces, x.1.value < next ∧ x.2.value < next') :
    (⟨next⟩ : SurfaceId) ∉ n.surfaces.map (·.1) ∧ (⟨next'⟩ : SurfaceId) ∉ n.surfaces.map (·.2) := by
  constructor <;> intro hmem <;> obtain ⟨x, hx, heq⟩ := List.mem_map.1 hmem
  · exact Nat.ne_of_lt (h x hx).1 (congrArg (·.value) heq)
  · exact Nat.ne_of_lt (h x hx).2 (congrArg (·.value) heq)

theorem Names.Links.mono (h : n.Grows m) {a b : SurfaceId} (hab : n.Links outer a b) :
    m.Links outer a b :=
  hab.imp_left fun hnamed => h.surfaces hnamed

theorem RenderRequest.Alike.mono {links links' : SurfaceId → SurfaceId → Prop}
    {r r' : RenderRequest} (h : n.Grows m) (hlinks : ∀ a b, links a b → links' a b)
    (hr : r.Alike links n r') : r.Alike links' m r' :=
  { hr with
    source := hlinks _ _ hr.source
    destination := h.surfaces hr.destination
    filters := by
      rw [h.buffers]
      exact hr.filters
    forward := hr.forward.imp hlinks
    backward := hr.backward.imp hlinks }

namespace Simulator

/-- Submissions that are equal up to names, with the same flags. -/
structure Submission.Alike (links : SurfaceId → SurfaceId → Prop) (n : Names) (x y : Submission) :
    Prop where
  request : x.request.Alike links n y.request
  flags_eq : y.flags = x.flags

theorem Submission.Alike.mono {links links' : SurfaceId → SurfaceId → Prop} {x y : Submission}
    (h : n.Grows m) (hlinks : ∀ a b, links a b → links' a b) (hxy : x.Alike links n y) :
    x.Alike links' m y :=
  ⟨hxy.request.mono h hlinks, hxy.flags_eq⟩

/-! ## Single calls on both sides -/

/-- All surfaces of a pool are out. -/
def Exhausted (d : Simulator) (i : PoolId) : Prop :=
  ∃ p, d.pools[i]? = some p ∧ p.inUse = p.capacity

instance (d : Simulator) (i : PoolId) : Decidable (d.Exhausted i) :=
  decidable_of_iff (∃ p ∈ d.pools[i]?, p.inUse = p.capacity) Iff.rfl

section Calls

variable {d : Simulator} {i : PoolId} {p : Pool}

theorem getElem?_modifyPool (hp : d.pools[i]? = some p)
    (change : Pool → Pool) : (d.pools.modify i change)[i]? = some (change p) := by
  rw [List.getElem?_modify, hp]
  simp

theorem allocate_eq (hp : d.pools[i]? = some p) :
    Device.allocate i d =
      if d.fails .alloc then (.error (injected .alloc), d)
      else
        match p.free with
        | id :: free => (d.modifyPool i fun p => { p with free := free }).lend i p.desc id
        | [] =>
          if p.allocated < p.capacity then
            (d.modifyPool i fun p => { p with allocated := p.allocated + 1 }).bump.lend i p.desc
              ⟨d.nextId⟩
          else (.error ⟨EntryPoint.alloc.name, 2, "pool exhausted"⟩, d) := by
  show allocate i d = _
  unfold allocate
  generalize d.pools[i]? = found at hp
  subst hp
  rfl

theorem allocate_of_none (hnone : d.pools[i]? = none) :
    Device.allocate i d = (.error (if d.fails .alloc then injected .alloc
      else ⟨EntryPoint.alloc.name, 2, "pool exhausted"⟩), d) := by
  show Simulator.allocate i d = _
  unfold Simulator.allocate
  rw [hnone]
  cases d.fails .alloc <;> rfl

theorem allocate_of_shelf (hworks : d.fails .alloc = false) (hp : d.pools[i]? = some p)
    {a : SurfaceId} {rest : List SurfaceId} (hfree : p.free = a :: rest) :
    Device.allocate i d = ({ d with
      pools := d.pools.modify i fun p => { p with free := rest }, nextId := d.nextId }).lend i
        p.desc a := by
  rw [allocate_eq hp, hworks, if_neg Bool.false_ne_true, hfree]
  rfl

theorem allocate_of_empty (hworks : d.fails .alloc = false) (hp : d.pools[i]? = some p)
    (hfree : p.free = []) (hleft : p.allocated < p.capacity) :
    Device.allocate i d = ({ d with
      pools := d.pools.modify i fun p => { p with allocated := p.allocated + 1 },
      nextId := d.nextId + 1 }).lend i p.desc ⟨d.nextId⟩ := by
  rw [allocate_eq hp, hworks, if_neg Bool.false_ne_true, hfree]
  exact if_pos hleft

theorem allocate_of_exhausted (hworks : d.fails .alloc = false) (hp : d.pools[i]? = some p)
    (hfree : p.free = []) (hfull : ¬ p.allocated < p.capacity) :
    Device.allocate i d = (.error ⟨EntryPoint.alloc.name, 2, "pool exhausted"⟩, d) := by
  rw [allocate_eq hp, hworks, if_neg Bool.false_ne_true, hfree]
  exact if_neg hfull

theorem allocate_of_fails (hfails : d.fails .alloc = true) :
    Device.allocate i d = (.error (injected .alloc), d) := by
  show Simulator.allocate i d = _
  unfold Simulator.allocate
  rw [hfails]
  rfl

theorem createPool_of_fails (hfails : d.fails .createSurfaces = true) (desc : PoolDesc) :
    Device.createPool desc d = (.error (injected .createSurfaces), d) := by
  show Simulator.createPool desc d = _
  unfold Simulator.createPool
  exact if_pos hfails

theorem createPool_of_works (hworks : d.fails .createSurfaces = false) (desc : PoolDesc) :
    Device.createPool desc d = (.ok d.pools.length, record (.createPool desc)
      { d with pools := d.pools ++ [{ desc := desc, capacity := d.poolCapacity }] }) := by
  show Simulator.createPool desc d = _
  unfold Simulator.createPool
  exact if_neg (Bool.eq_false_iff.1 hworks)

@[simp] theorem nextId_release (key : LeaseId) (d : Simulator) :
    (Device.release key d).nextId = d.nextId := by
  show (Simulator.release key d).nextId = d.nextId
  unfold Simulator.release
  rcases d.leases.release? key with ⟨_ | lease, leases⟩ <;> rfl

theorem upload_eq (d : Simulator) (i : PoolId) (target : Surface) (frame : Frame) :
    Device.upload i target frame d =
      if d.fails .upload then (.error (injected .upload), d)
      else if uploadable frame then (.ok (), d.record (.upload target.id))
      else (.error ⟨EntryPoint.upload.name, 0x16, "not an uploadable software frame"⟩, d) :=
  rfl

theorem uploadable_eq {f g : Frame} (h : f.Alike n g) : uploadable g = uploadable f := by
  unfold uploadable Frame.image?
  have hcontent := h.content
  generalize f.content = content at hcontent ⊢
  generalize g.content = content' at hcontent ⊢
  cases hcontent <;> rfl

end Calls

/-! ## Linked devices -/

/-- Two sessions on simulated devices that are put side by side. -/
structure Ties where
  left : Fixtures
  right : Fixtures
  pool : PoolId
  pool' : PoolId
  /-- The surfaces of the frames that are handed in from outside. -/
  outer : List SurfaceId
  /-- The shares that are out from before. -/
  kept : List Holding
  kept' : List Holding
  /-- How many surfaces of the left pool are out from before. -/
  spare : Nat
  /-- What was rendered before, latest first. -/
  before : List Submission
  before' : List Submission

/-- The numbers last, and the left pool does not run out before the right one. -/
def Ties.Room (t : Ties) (d e : Simulator) : Prop :=
  d.nextId < (Handle.invalid : SurfaceId).value ∧ e.nextId < (Handle.invalid : SurfaceId).value ∧
    (d.Exhausted t.pool → e.Exhausted t.pool')

/-- What two pools have in common. -/
structure Pool.Beside (spare : Nat) (p q : Pool) : Prop where
  desc_eq : q.desc = p.desc
  capacity_eq : q.capacity = p.capacity
  inUse_eq : p.inUse = q.inUse + spare

/-- The devices give the same answers up to names, while the shares `shares` are out on both sides
besides those from before. -/
structure Linked (t : Ties) (n : Names) (shares : List (Holding × Holding)) (d e : Simulator) :
    Prop where
  balanced : d.Balanced (shares.map (·.1) ++ t.kept)
  balanced' : e.Balanced (shares.map (·.2) ++ t.kept')
  equipped : d.Equipped t.left
  equipped' : e.Equipped t.right
  caps_eq : e.caps = d.caps
  failing_eq : e.failing = d.failing
  pools : ∃ p q, d.pools[t.pool]? = some p ∧ e.pools[t.pool']? = some q ∧ p.Beside t.spare q ∧
    Leases.Paired t.pool t.pool' t.kept t.kept' n.surfaces shares d.leases e.leases p.free q.free
  lt : ∀ x ∈ n.surfaces, x.1.value < d.nextId ∧ x.2.value < e.nextId
  rendered : ∃ since since', d.rendered = since ++ t.before ∧ e.rendered = since' ++ t.before' ∧
    List.Forall₂ (Submission.Alike (n.Links t.outer) n) since since'

namespace Linked

variable {t : Ties} {shares : List (Holding × Holding)} {share : Holding × Holding}
variable {d e : Simulator}

theorem fails_eq (h : Linked t n shares d e) : e.fails = d.fails := by
  unfold fails
  rw [h.failing_eq]

/-- No surface has two names, and no filter. -/
theorem oneToOne (h : Linked t n shares d e)
    (hlength : t.right.filters.length = t.left.filters.length)
    (hnamed : n.buffers = t.left.filters.zip t.right.filters) : n.OneToOne := by
  obtain ⟨p, q, -, -, -, hpaired⟩ := h.pools
  exact .of_zip hlength hnamed h.equipped.outfit.nodup h.equipped'.outfit.nodup hpaired.nodup
    hpaired.nodup'

/-- When no surface is out from before, the pools run out together. -/
theorem exhausted (h : Linked t n shares d e) (hspare : t.spare = 0)
    (hfull : d.Exhausted t.pool) : e.Exhausted t.pool' := by
  obtain ⟨p, q, hp, hq, hbeside, -⟩ := h.pools
  obtain ⟨p', hp', hinUse⟩ := hfull
  cases hp.symm.trans hp'
  refine ⟨q, hq, ?_⟩
  have hsame := hbeside.inUse_eq
  rw [hspare] at hsame
  rw [hbeside.capacity_eq]
  omega

/-- Calls that leave pools, leases and pictures alone. -/
theorem quiet (h : Linked t n shares d e) {d' e' : Simulator} (hd : Quiet d d') (he : Quiet e e')
    (hequipped : d'.Equipped t.left) (hequipped' : e'.Equipped t.right)
    (hrendered : ∃ new new', d'.rendered = new ++ d.rendered ∧ e'.rendered = new' ++ e.rendered ∧
      List.Forall₂ (Submission.Alike (n.Links t.outer) n) new new') :
    Linked t n shares d' e' where
  balanced := h.balanced.quiet hd
  balanced' := h.balanced'.quiet he
  equipped := hequipped
  equipped' := hequipped'
  caps_eq := by rw [hd.caps_eq, he.caps_eq, h.caps_eq]
  failing_eq := by rw [hd.failing_eq, he.failing_eq, h.failing_eq]
  pools := by
    rw [hd.pools_eq, he.pools_eq, hd.leases_eq, he.leases_eq]
    exact h.pools
  lt x hx := ⟨Nat.lt_of_lt_of_le (h.lt x hx).1 hd.nextId_le,
    Nat.lt_of_lt_of_le (h.lt x hx).2 he.nextId_le⟩
  rendered := by
    obtain ⟨since, since', heq, heq', halike⟩ := h.rendered
    obtain ⟨new, new', hnew, hnew', hadded⟩ := hrendered
    refine ⟨new ++ since, new' ++ since', ?_, ?_, List.rel_append hadded halike⟩
    · rw [hnew, heq, List.append_assoc]
    · rw [hnew', heq', List.append_assoc]

theorem noted (h : Linked t n shares d e) (call call' : Call) :
    Linked t n shares (d.record call) (e.record call') :=
  h.quiet (.record _ _) (.record _ _) ⟨h.equipped.closed, h.equipped.outfit⟩
    ⟨h.equipped'.closed, h.equipped'.outfit⟩ ⟨[], [], rfl, rfl, .nil⟩

theorem perm (h : Linked t n shares d e) {later : List (Holding × Holding)}
    (hperm : shares.Perm later) : Linked t n later d e :=
  { h with
    balanced := h.balanced.perm ((hperm.map _).append_right _)
    balanced' := h.balanced'.perm ((hperm.map _).append_right _)
    pools := by
      obtain ⟨p, q, hp, hq, hbeside, hpaired⟩ := h.pools
      exact ⟨p, q, hp, hq, hbeside, hpaired.mono fun x hx => hperm.mem_iff.2 hx⟩ }

theorem retain (h : Linked t n shares d e) (hshare : share ∈ shares) :
    Linked t n (share :: shares) (Device.retain share.1.lease d)
      (Device.retain share.2.lease e) :=
  { h with
    balanced := h.balanced.retain (List.mem_append_left _ (List.mem_map_of_mem hshare))
    balanced' := h.balanced'.retain (List.mem_append_left _ (List.mem_map_of_mem hshare))
    equipped := ⟨h.equipped.closed, h.equipped.outfit⟩
    equipped' := ⟨h.equipped'.closed, h.equipped'.outfit⟩
    pools := by
      obtain ⟨p, q, hp, hq, hbeside, hpaired⟩ := h.pools
      exact ⟨p, q, hp, hq, hbeside, hpaired.retain hshare⟩ }

/-- A surface that goes back frees a place on both sides, or on neither. -/
theorem release (h : Linked t n (share :: shares) d e) :
    Linked t n shares (Device.release share.1.lease d) (Device.release share.2.lease e) ∧
      ((d.Exhausted t.pool → e.Exhausted t.pool') →
        (Device.release share.1.lease d).Exhausted t.pool →
          (Device.release share.2.lease e).Exhausted t.pool') := by
  obtain ⟨p, q, hp, hq, hbeside, hpaired⟩ := h.pools
  have hafter := h.balanced.release
  have hafter' := h.balanced'.release
  have hequipped := h.equipped.release share.1.lease
  have hequipped' := h.equipped'.release share.2.lease
  rcases hpaired.release h.balanced.sound.accounts h.balanced'.sound.accounts with
    ⟨l, hl, l', hl', hpool, hpool', hkey, hkey', heq, heq', hpaired'⟩ | ⟨heq, heq', hpaired'⟩
  · have hrelease := release_of_last hkey heq
    have hrelease' := release_of_last hkey' heq'
    rw [hrelease] at hafter hequipped ⊢
    rw [hrelease'] at hafter' hequipped' ⊢
    have hp' : (d.withoutLease l).pools[t.pool]? = some { p with free := l.surface :: p.free } :=
      hpool ▸ getElem?_modifyPool (hpool ▸ hp) _
    have hq' : (e.withoutLease l').pools[t.pool']? =
        some { q with free := l'.surface :: q.free } :=
      hpool' ▸ getElem?_modifyPool (hpool' ▸ hq) _
    obtain ⟨hmade, hle⟩ := hafter.tallies t.pool _ hp'
    obtain ⟨hmade', -⟩ := hafter'.tallies t.pool' _ hq'
    simp only [List.length_cons] at hmade hmade' hle
    have hinUse := hbeside.inUse_eq
    unfold Pool.inUse at hinUse
    refine ⟨{ h with
      balanced := hafter
      balanced' := hafter'
      equipped := hequipped
      equipped' := hequipped'
      pools := ⟨_, _, hp', hq', ⟨hbeside.desc_eq, hbeside.capacity_eq, ?_⟩, ?_⟩ }, ?_⟩
    · simp only [Pool.inUse, List.length_cons]
      omega
    · simp only [withoutLease, modifyPool, Leases.without, ← hkey, ← hkey'] at hpaired' ⊢
      exact hpaired'
    · -- now one surface more is free
      rintro - ⟨p', hfull, hfull'⟩
      cases hp'.symm.trans hfull
      simp only [Pool.inUse, List.length_cons] at hfull'
      omega
  · have hrelease := release_of_others heq
    have hrelease' := release_of_others heq'
    rw [hrelease] at hafter hequipped ⊢
    rw [hrelease'] at hafter' hequipped' ⊢
    exact ⟨{ h with
      balanced := hafter
      balanced' := hafter'
      equipped := hequipped
      equipped' := hequipped'
      pools := ⟨p, q, hp, hq, hbeside, hpaired'⟩ }, id⟩

/-- Both devices lend a surface, and the two stand for each other. -/
def Lends (t : Ties) (n : Names) (shares : List (Holding × Holding)) (d e : Simulator) : Prop :=
  ∃ m s s' x y d' e', n.Grows m ∧ Device.allocate t.pool d = (.ok s, d') ∧
    Device.allocate t.pool' e = (.ok s', e') ∧ s.Alike m s' ∧ s.holding? = some x ∧
      s'.holding? = some y ∧ Linked t m ((x, y) :: shares) d' e'

section Lending

variable {p q : Pool} {a b : SurfaceId}

theorem lend (h : Linked t n shares d e) (hp : d.pools[t.pool]? = some p)
    (hq : e.pools[t.pool']? = some q) (change change' : Pool → Pool) {next next' : Nat}
    (hgrows : n.Grows m) (hnamed : (a, b) ∈ m.surfaces) (hvalid : a.isValid = true)
    (hvalid' : b.isValid = true)
    (hd : Device.allocate t.pool d = ({ d with
      pools := d.pools.modify t.pool change, nextId := next }).lend t.pool p.desc a)
    (he : Device.allocate t.pool' e = ({ e with
      pools := e.pools.modify t.pool' change', nextId := next' }).lend t.pool' q.desc b)
    (hdesc : q.desc = p.desc) (hbeside : (change p).Beside t.spare (change' q))
    (hpaired : Leases.Paired t.pool t.pool' t.kept t.kept' m.surfaces
      ((⟨d.leases.nextKey, a⟩, ⟨e.leases.nextKey, b⟩) :: shares) (d.leases.grant t.pool a).2
      (e.leases.grant t.pool' b).2 (change p).free (change' q).free)
    (hlt : ∀ x ∈ m.surfaces, x.1.value < next ∧ x.2.value < next') : Lends t n shares d e := by
  have hbalanced := h.balanced.allocate t.pool
  have hbalanced' := h.balanced'.allocate t.pool'
  have hequipped := h.equipped.allocate t.pool
  have hequipped' := h.equipped'.allocate t.pool'
  rw [hd] at hbalanced hequipped
  rw [he] at hbalanced' hequipped'
  refine ⟨m, _, _, _, _, _, _, hgrows, hd, he,
    ⟨hnamed, ?_, ?_, hvalid, hvalid', _, _, rfl, rfl⟩, rfl, rfl, hbalanced, hbalanced', hequipped,
    hequipped', h.caps_eq, h.failing_eq,
    ⟨_, _, getElem?_modifyPool hp change, getElem?_modifyPool hq change', hbeside, hpaired⟩, hlt,
    ?_⟩
  · exact congrArg (·.width) hdesc
  · exact congrArg (·.height) hdesc
  · obtain ⟨since, since', heq, heq', halike⟩ := h.rendered
    exact ⟨since, since', heq, heq',
      halike.imp fun x y => Submission.Alike.mono hgrows fun a b => Names.Links.mono hgrows⟩

/-- Surfaces that have been made are not the invalid one while the numbers last. -/
theorem isValid_of_lt {id : SurfaceId} {next : Nat} (h : id.value < next)
    (hnext : next ≤ (Handle.invalid : SurfaceId).value) : id.isValid = true := by
  refine Handle.isValid_iff.2 fun heq => ?_
  rw [heq] at h
  omega

/-- The surface of the right pool has been lent before, and so has that of the left one. -/
theorem lend_known (h : Linked t n shares d e) (hroom : t.Room d e)
    (hworks : d.fails .alloc = false) (hp : d.pools[t.pool]? = some p)
    (hq : e.pools[t.pool']? = some q) (hbeside : p.Beside t.spare q)
    (hpaired : Leases.Paired t.pool t.pool' t.kept t.kept' n.surfaces shares d.leases e.leases
      p.free q.free) {rest' : List SurfaceId} (hfree' : q.free = b :: rest') :
    Lends t n shares d e := by
  obtain ⟨hnext, hnext', -⟩ := hroom
  obtain ⟨hdesc, hcapacity, hinUse⟩ := hbeside
  rw [hfree'] at hpaired
  obtain ⟨a, rest, hfree, hnamed, hpaired'⟩ :=
    hpaired.lendKnown h.balanced.sound.accounts h.balanced'.sound.accounts
  obtain ⟨hmade, -⟩ := h.balanced.tallies t.pool p hp
  obtain ⟨hmade', -⟩ := h.balanced'.tallies t.pool' q hq
  have hcount : p.allocated - rest.length = q.allocated - rest'.length + t.spare := by
    simp only [Pool.inUse, hfree, hfree', List.length_cons] at hmade hmade' hinUse
    omega
  exact h.lend hp hq (fun p => { p with free := rest }) (fun q => { q with free := rest' })
    (.refl n) hnamed (isValid_of_lt (h.lt _ hnamed).1 (Nat.le_of_lt hnext))
    (isValid_of_lt (h.lt _ hnamed).2 (Nat.le_of_lt hnext')) (allocate_of_shelf hworks hp hfree)
    (allocate_of_shelf (h.fails_eq ▸ hworks) hq hfree') hdesc ⟨hdesc, hcapacity, hcount⟩ hpaired'
    h.lt

/-- The right pool makes a surface, and the left one has one left from before. -/
theorem lend_old (h : Linked t n shares d e) (hroom : t.Room d e)
    (hworks : d.fails .alloc = false) (hp : d.pools[t.pool]? = some p)
    (hq : e.pools[t.pool']? = some q) (hbeside : p.Beside t.spare q)
    (hpaired : Leases.Paired t.pool t.pool' t.kept t.kept' n.surfaces shares d.leases e.leases
      p.free q.free) (hfree' : q.free = []) (hleft' : q.allocated < q.capacity)
    {rest : List SurfaceId} (hfree : p.free = a :: rest) : Lends t n shares d e := by
  obtain ⟨hnext, hnext', -⟩ := hroom
  obtain ⟨hdesc, hcapacity, hinUse⟩ := hbeside
  have hapart := (h.balanced.right hp).apart
  have hold : a.value < d.nextId := by
    refine h.balanced.sound.made a (mem_ids_of_free (List.mem_of_getElem? hp) ?_)
    rw [hfree]
    exact List.mem_cons_self
  rw [hfree, List.nodup_cons] at hapart
  rw [hfree, hfree'] at hpaired
  have hpaired' := hpaired.lendNew h.balanced.sound.accounts h.balanced'.sound.accounts
    (hpaired.unnamed List.mem_cons_self) (Names.unnamed h.lt).2
    fun x (hx : x ∈ rest) => ⟨List.mem_cons_of_mem _ hx, fun heq => hapart.1 (heq ▸ hx)⟩
  obtain ⟨hmade, -⟩ := h.balanced.tallies t.pool p hp
  obtain ⟨hmade', -⟩ := h.balanced'.tallies t.pool' q hq
  have hcount : p.allocated - rest.length = q.allocated + 1 - q.free.length + t.spare := by
    simp only [Pool.inUse, hfree, hfree', List.length_cons, List.length_nil]
      at hmade hmade' hinUse ⊢
    omega
  refine h.lend hp hq (fun p => { p with free := rest })
    (fun q => { q with allocated := q.allocated + 1 })
    (m := { n with surfaces := (a, ⟨e.nextId⟩) :: n.surfaces })
    ⟨List.subset_cons_self _ _, rfl⟩ List.mem_cons_self (isValid_of_lt hold (Nat.le_of_lt hnext))
    (isValid_of_lt (Nat.lt_succ_self _) hnext') (allocate_of_shelf hworks hp hfree)
    (allocate_of_empty (h.fails_eq ▸ hworks) hq hfree' hleft') hdesc ⟨hdesc, hcapacity, hcount⟩
    (hfree'.symm ▸ hpaired') ?_
  intro x hx
  rcases List.mem_cons.1 hx with rfl | hx
  · exact ⟨hold, Nat.lt_succ_self _⟩
  · exact ⟨(h.lt x hx).1, Nat.lt_succ_of_lt (h.lt x hx).2⟩

/-- Both pools make a surface. -/
theorem lend_new (h : Linked t n shares d e) (hroom : t.Room d e)
    (hworks : d.fails .alloc = false) (hp : d.pools[t.pool]? = some p)
    (hq : e.pools[t.pool']? = some q) (hbeside : p.Beside t.spare q)
    (hpaired : Leases.Paired t.pool t.pool' t.kept t.kept' n.surfaces shares d.leases e.leases
      p.free q.free) (hfree' : q.free = []) (hleft' : q.allocated < q.capacity)
    (hfree : p.free = []) (hleft : p.allocated < p.capacity) : Lends t n shares d e := by
  obtain ⟨hnext, hnext', -⟩ := hroom
  obtain ⟨hdesc, hcapacity, hinUse⟩ := hbeside
  rw [hfree, hfree'] at hpaired
  have hpaired' := hpaired.lendNew h.balanced.sound.accounts h.balanced'.sound.accounts
    (Names.unnamed h.lt).1 (Names.unnamed h.lt).2
    fun x (hx : x ∈ []) => by cases hx
  have hcount : p.allocated + 1 - p.free.length = q.allocated + 1 - q.free.length + t.spare := by
    simp only [Pool.inUse, hfree, hfree', List.length_nil] at hinUse ⊢
    omega
  refine h.lend hp hq (fun p => { p with allocated := p.allocated + 1 })
    (fun q => { q with allocated := q.allocated + 1 })
    (m := { n with surfaces := (⟨d.nextId⟩, ⟨e.nextId⟩) :: n.surfaces })
    ⟨List.subset_cons_self _ _, rfl⟩ List.mem_cons_self (isValid_of_lt (Nat.lt_succ_self _) hnext)
    (isValid_of_lt (Nat.lt_succ_self _) hnext') (allocate_of_empty hworks hp hfree hleft)
    (allocate_of_empty (h.fails_eq ▸ hworks) hq hfree' hleft') hdesc ⟨hdesc, hcapacity, hcount⟩
    (hfree.symm ▸ hfree'.symm ▸ hpaired') ?_
  intro x hx
  rcases List.mem_cons.1 hx with rfl | hx
  · exact ⟨Nat.lt_succ_self _, Nat.lt_succ_self _⟩
  · exact ⟨Nat.lt_succ_of_lt (h.lt x hx).1, Nat.lt_succ_of_lt (h.lt x hx).2⟩

end Lending

/-- A surface is to be had on both sides or on neither. -/
theorem allocate (h : Linked t n shares d e) (hroom : t.Room d e) :
    (∃ error, Device.allocate t.pool d = (.error error, d) ∧
      Device.allocate t.pool' e = (.error error, e)) ∨ Lends t n shares d e := by
  obtain ⟨p, q, hp, hq, hbeside, hpaired⟩ := h.pools
  cases hfails : d.fails .alloc with
  | true => exact .inl ⟨_, allocate_of_fails hfails, allocate_of_fails (h.fails_eq ▸ hfails)⟩
  | false =>
    obtain ⟨hmade, hle⟩ := h.balanced.tallies t.pool p hp
    obtain ⟨hmade', -⟩ := h.balanced'.tallies t.pool' q hq
    have hinUse := hbeside.inUse_eq
    have hcapacity := hbeside.capacity_eq
    unfold Pool.inUse at hinUse
    cases hfree' : q.free with
    | cons b rest' => exact .inr (h.lend_known hroom hfails hp hq hbeside hpaired hfree')
    | nil =>
      rw [hfree', List.length_nil] at hmade' hinUse
      by_cases hleft' : q.allocated < q.capacity
      · cases hfree : p.free with
        | cons a rest =>
          exact .inr (h.lend_old hroom hfails hp hq hbeside hpaired hfree' hleft' hfree)
        | nil =>
          refine .inr (h.lend_new hroom hfails hp hq hbeside hpaired hfree' hleft' hfree ?_)
          by_contra hfull
          have hexhausted : p.inUse = p.capacity := by
            rw [Pool.inUse, hfree, List.length_nil]
            omega
          obtain ⟨q', hq', hfull'⟩ := hroom.2.2 ⟨p, hp, hexhausted⟩
          cases hq.symm.trans hq'
          rw [Pool.inUse, hfree', List.length_nil] at hfull'
          omega
      · -- the right pool is used up, and so is the left one
        have hnone : p.free.length = 0 := by omega
        have hfull : ¬ p.allocated < p.capacity := by omega
        exact .inl ⟨_, allocate_of_exhausted hfails hp (List.length_eq_zero_iff.1 hnone) hfull,
          allocate_of_exhausted (h.fails_eq ▸ hfails) hq hfree' hleft'⟩

theorem upload (h : Linked t n shares d e) {f g : Frame} (hfg : f.Alike n g) (i j : PoolId)
    (target target' : Surface) :
    (Device.upload j target' g e).1 = (Device.upload i target f d).1 ∧
      Linked t n shares (Device.upload i target f d).2 (Device.upload j target' g e).2 := by
  rw [upload_eq, upload_eq, h.fails_eq, uploadable_eq hfg]
  split
  · exact ⟨rfl, h⟩
  · split
    · exact ⟨rfl, h.noted _ _⟩
    · exact ⟨rfl, h⟩

/-- Requests that are alike are rendered on both sides or on neither. -/
theorem submit (h : Linked t n shares d e) {filter filter' : BufferId} {rest rest' : List BufferId}
    (hleft : t.left.filters = filter :: rest) (hright : t.right.filters = filter' :: rest')
    {r r' : RenderRequest} (hchain : r.filters = t.left.filters)
    (hchain' : r'.filters = t.right.filters) (hvalid : r.destination.isValid = true)
    (hvalid' : r'.destination.isValid = true) (halike : r.Alike (n.Links t.outer) n r')
    (flags : DeintFlags) :
    (Rendering.submit t.right.context (some filter') flags r' e).1 =
        (Rendering.submit t.left.context (some filter) flags r d).1 ∧
      Linked t n shares (Rendering.submit t.left.context (some filter) flags r d).2
        (Rendering.submit t.right.context (some filter') flags r' e).2 := by
  obtain ⟨hresult, hrendered⟩ := h.equipped.submit_verdict t.left.context hleft hchain hvalid flags
  obtain ⟨hresult', hrendered'⟩ :=
    h.equipped'.submit_verdict t.right.context hright hchain' hvalid' flags
  rw [h.fails_eq] at hresult' hrendered'
  refine ⟨hresult'.trans hresult.symm, h.quiet (quiet_submit _ _ _ _ _) (quiet_submit _ _ _ _ _)
    (h.equipped.submit _ _ _ _) (h.equipped'.submit _ _ _ _) ⟨_, _, hrendered, hrendered', ?_⟩⟩
  split
  · exact .cons ⟨halike, rfl⟩ .nil
  · exact .nil

end Linked

/-! ## The coupling -/

/-- If one of two sessions with as many filters has a first filter, both have. -/
theorem exists_firsts {left right : List BufferId} (hlength : right.length = left.length)
    (hne : left ≠ []) :
    ∃ filter rest filter' rest', left = filter :: rest ∧ right = filter' :: rest' := by
  cases left with
  | nil => exact absurd rfl hne
  | cons filter rest =>
    cases right with
    | nil => cases hlength
    | cons filter' rest' => exact ⟨filter, rest, filter', rest', rfl, rfl⟩

theorem links_of_seen {f g : Frame} (halike : f.Alike n g)
    (houter : f.holding? = none → f.surfaceId ∈ outer) :
    n.Links outer f.surfaceId g.surfaceId := by
  have hcontent := halike.content
  unfold Frame.holding? Frame.surface? at houter
  unfold Frame.surfaceId at houter ⊢
  generalize f.content = content at hcontent houter ⊢
  generalize g.content = content' at hcontent ⊢
  cases hcontent with
  | same hfree =>
    refine .inr ⟨rfl, houter ?_⟩
    cases content with
    | image => rfl
    | surface s => simp [Surface.holding?, hfree s rfl]
  | lent hst => exact .inl hst.named

theorem alike_of_seen {r r' : RenderRequest}
    (h : r.Alike (fun a b => ∃ f g : Frame, (f.Alike n g ∧
      (f.holding? = none → f.surfaceId ∈ outer)) ∧ f.surfaceId = a ∧ g.surfaceId = b) n r') :
    r.Alike (n.Links outer) n r' := by
  refine h.mono (.refl n) ?_
  rintro a b ⟨f, g, hseen, rfl, rfl⟩
  exact links_of_seen hseen.1 hseen.2

/-- Linked devices are coupled as long as the numbers last and the left pool does not run out before
the right one. -/
def linkage (t : Ties) (hlength : t.right.filters.length = t.left.filters.length) :
    Coupling Simulator Simulator where
  left := t.left
  right := t.right
  seen n f g := f.Alike n g ∧ (f.holding? = none → f.surfaceId ∈ t.outer)
  keeps := True
  room _ := t.Room
  bond n pools shares d e := pools = some (t.pool, t.pool') ∧ Linked t n shares d e
  length_eq := hlength
  alike h := h.1
  seen_mono hgrows h := ⟨h.1.mono hgrows, h.2⟩
  seen_lent _ h hlent := ⟨h, fun hnone => absurd hnone hlent⟩
  seen_revise like h := ⟨⟨rfl, h.1.content⟩, h.2⟩
  perm hperm h := ⟨h.1, h.2.perm hperm⟩
  retain hshare h := ⟨h.1, h.2.retain hshare⟩
  release h := by
    obtain ⟨hafter, hroom⟩ := h.2.release
    refine ⟨⟨h.1, hafter⟩, fun ⟨hnext, hnext', hbefore⟩ => ⟨?_, ?_, hroom hbefore⟩⟩
    · rw [nextId_release]
      exact hnext
    · rw [nextId_release]
      exact hnext'
  queryCaps h := by
    rw [queryCaps_eq, queryCaps_eq, h.2.fails_eq, h.2.caps_eq]
    refine ⟨rfl, ⟨h.1, h.2.noted _ _⟩, id⟩
  allocate h hroom := by
    obtain ⟨hpools, hlinked⟩ := h
    cases hpools
    rcases hlinked.allocate hroom with ⟨error, hd, he⟩ |
      ⟨m, s, s', x, y, d', e', hgrows, hd, he, halike, hx, hy, hafter⟩
    · exact .inl ⟨error, _, _, hd, he, rfl, hlinked⟩
    · exact .inr ⟨m, s, s', x, y, d', e', hgrows, hd, he, halike, hx, hy, rfl, hafter⟩
  upload _ hfg h := by
    obtain ⟨hresult, hafter⟩ := h.2.upload hfg _ _ _ _
    exact ⟨hresult, h.1, hafter⟩
  submit flags hne hchain hchain' hvalid hvalid' halike h := by
    obtain ⟨filter, rest, filter', rest', hleft, hright⟩ := exists_firsts hlength hne
    obtain ⟨hresult, hafter⟩ :=
      h.2.submit hleft hright hchain hchain' hvalid hvalid' (alike_of_seen halike) flags
    simp only [hleft, hright, List.head?_cons]
    exact ⟨hresult, h.1, hafter⟩

end Simulator

end Deinterlace
