import Deinterlace.Proofs.Simulator.Linked
import Deinterlace.Proofs.Simulator.Settings
import Deinterlace.Proofs.Va.Compliant
import Deinterlace.Proofs.Va.Housing

/-!
# A VA device beside a simulated one

A session on a VA device with a compliant driver does what a session with the same filters does on a
simulated device: the devices lend surfaces at the same times, and what the driver is told is what
the simulated device has rendered, up to names (`Display.Follows`). This holds as long as every
surface has come back before the next one is taken, and makes a coupling (`Display.following`). The
driver may give the number of a surface again, and so a surface of the simulated device stands for
one number, but a number may stand for several surfaces, one after the other.
-/
namespace Deinterlace

/-! ## The simulated device -/

namespace Simulator

/-- Nothing has been rendered, and the settings are the same. -/
structure Rests (d later : Simulator) : Prop where
  failing_eq : later.failing = d.failing
  caps_eq : later.caps = d.caps
  capacity_eq : later.poolCapacity = d.poolCapacity
  rendered_eq : later.rendered = d.rendered
  nextId_le : d.nextId ≤ later.nextId

namespace Rests

theorem refl (d : Simulator) : d.Rests d := ⟨rfl, rfl, rfl, rfl, Nat.le_refl _⟩

theorem record (call : Call) (d : Simulator) : d.Rests (d.record call) :=
  ⟨rfl, rfl, rfl, rfl, Nat.le_refl _⟩

theorem release (key : LeaseId) (d : Simulator) : d.Rests (Device.release key d) := by
  simp only [Device.release, Simulator.release]
  rcases d.leases.release? key with ⟨_ | lease, leases⟩ <;>
    exact ⟨rfl, rfl, rfl, rfl, Nat.le_refl _⟩

theorem allocate (pool : PoolId) (d : Simulator) : d.Rests (Device.allocate pool d).2 := by
  rcases allocate_cases d pool with ⟨e, heq, -⟩ | ⟨p, id, rest, -, -, -, heq⟩ |
    ⟨p, -, -, -, -, heq⟩ <;> rw [heq]
  · exact refl d
  · exact ⟨rfl, rfl, rfl, rfl, Nat.le_refl _⟩
  · exact ⟨rfl, rfl, rfl, rfl, Nat.le_succ _⟩

end Rests

theorem createPool_eq {d : Simulator} (h : d.failing = []) (desc : PoolDesc) :
    Device.createPool desc d = (.ok d.pools.length, record (.createPool desc)
      { d with pools := d.pools ++ [{ desc := desc, capacity := d.poolCapacity }] }) := by
  simp only [Device.createPool, createPool, fails_eq_false h, Bool.false_eq_true, if_false]

end Simulator

namespace Va

open Simulator (Submission)

variable {n m : Names}

/-- The picture that a driver is asked for is the one that was submitted, up to names of filters and
targets. -/
def AsksFor (n : Names) (x : Submission) (picture : Option Submission) : Prop :=
  ∃ y, picture = some y ∧ x.Alike Eq n y

theorem AsksFor.mono (hgrows : n.Grows m) {x : Submission} {picture : Option Submission}
    (h : AsksFor n x picture) : AsksFor m x picture := by
  obtain ⟨y, heq, halike⟩ := h
  exact ⟨y, heq, halike.mono hgrows fun _ _ => id⟩

/-- A pool that is open and has made as many surfaces as the one it is compared to, of which as many
are left. -/
structure Pool.Follows (q : Pool) (p : Simulator.Pool) : Prop where
  desc_eq : q.desc = p.desc
  made_eq : q.made.length = p.allocated
  free_eq : q.free.length = p.free.length
  isOpen : q.isOpen = true
  capacity_pos : 0 < p.capacity

/-- Two sessions with as many filters, what the driver of the right one has to offer, and what was
rendered on the device of the left one before. -/
structure Pairing where
  left : Fixtures
  right : Fixtures
  offer : Offer
  before : List Submission
  length_eq : right.filters.length = left.filters.length
  few : right.filters.length < noObject

/-- Names of which the surfaces on the right are those that a driver has made, latest first. No
handle on the left has two names, and no filter on the right. -/
structure Naming (n : Names) (log : List Event) : Prop where
  surfaces_left : (n.surfaces.map (·.1)).Nodup
  surfaces_right : n.surfaces.map (·.2.value) = created log
  buffers_left : (n.buffers.map (·.1)).Nodup
  buffers_right : (n.buffers.map (·.2)).Nodup

/-- If the driver has given no number twice, no surface on the right has two names either. -/
theorem Naming.oneToOne {log : List Event} (h : Naming n log) (hnodup : (created log).Nodup) :
    n.OneToOne where
  surfaces_left := h.surfaces_left
  surfaces_right := by
    rw [← h.surfaces_right] at hnodup
    refine List.Nodup.of_map (·.value) ?_
    rw [List.map_map]
    exact hnodup
  buffers_left := h.buffers_left
  buffers_right := h.buffers_right

variable {δ : Type} [Library δ]

namespace Display

theorem upkeep_complies (offer : Offer) :
    Upkeep fun d : Display (Logged δ) => Complies offer d.driver where
  leases _ h := h
  modify _ _ _ _ h := h
  leave := by
    intro d i p _ _ h
    obtain ⟨-, -, -, -, -, hdriver⟩ := vacate_eq d i p
    refine Complies.leads ?_ (leads_reclaim (d.vacate i p))
    rw [hdriver]
    split
    · exact h
    · exact h.leads (Leads.one (.destroySurfaces p.made) trivial : Leads Call.Mute _ _)
  hears hhears h := h.leads hhears.1
  submit context buffer flags request h := h.leads (Spares.submit context buffer flags request _).1
  addPool _ h := h
  create := by
    intro d i p id driver _ _ _ hcall h
    have hmade : Leads (fun _ _ => True) d.driver (Library.call (makes p.desc) d.driver).2.2 :=
      .one _ trivial
    rw [hcall] at hmade
    exact h.leads hmade

/-- The driver has been told what the simulated device has rendered, while the shares `shares` are
out on both sides. -/
structure Follows (t : Pairing) (n : Names) (pools : Option (PoolId × PoolId))
    (shares : List (Holding × Holding)) (d : Simulator) (e : Display (Logged δ)) : Prop where
  balanced : d.Balanced (shares.map (·.1))
  housed : e.Housed (pools.map (·.2)) none (shares.map (·.2))
  equipped : d.Equipped t.left
  fitted : Fitted t.right.filters e.driver.log
  complies : Complies t.offer e.driver
  failing : d.failing = []
  references : d.caps.references = (t.offer.forward, t.offer.backward)
  capacity : 0 < d.poolCapacity
  lt : ∀ x ∈ n.surfaces, x.1.value < d.nextId
  naming : Naming n e.driver.log
  told : ∃ since, d.rendered = since ++ t.before ∧
    List.Forall₂ (AsksFor n) since (reading e.driver.log).pictures

/-- The pools follow each other; without pools nothing is out. The surfaces of the right pool have
names of their own. -/
def Pooled (n : Names) (shares : List (Holding × Holding)) (d : Simulator)
    (e : Display (Logged δ)) : Option (PoolId × PoolId) → Prop
  | none => shares = []
  | some (i, j) => ∃ p q own, d.pools[i]? = some p ∧ e.pools[j]? = some q ∧ q.Follows p ∧
      own ⊆ n.surfaces ∧ (∀ x ∈ own, x.2.isValid = true ∧ x.2.value ∈ q.made) ∧
      Leases.Paired i j [] [] own shares d.leases e.leases p.free q.free

/-- As long as nothing is out and the numbers last, a surface is to be had on both sides. -/
def Room (d : Simulator) : Prop :=
  d.leases.live = [] ∧ d.nextId < (Handle.invalid : SurfaceId).value

variable {t : Pairing} {shares later : List (Holding × Holding)} {share : Holding × Holding}
variable {d d' : Simulator} {e e' : Display (Logged δ)} {i j : PoolId}
variable {pools pools' : Option (PoolId × PoolId)}

namespace Follows

/-- How both devices go on when no picture is rendered. -/
theorem advance (h : Follows t n pools shares d e) (hgrows : n.Grows m)
    (hbalanced : d'.Balanced (later.map (·.1)))
    (hhoused : e'.Housed (pools'.map (·.2)) none (later.map (·.2)))
    (hequipped : d'.Equipped t.left) (hd : d.Rests d') (hcomplies : Complies t.offer e'.driver)
    (hbuffers : buffers e'.driver.log = buffers e.driver.log)
    (hpictures : (reading e'.driver.log).pictures = (reading e.driver.log).pictures)
    (hlt : ∀ x ∈ m.surfaces, x.1.value < d'.nextId) (hnaming : Naming m e'.driver.log) :
    Follows t m pools' later d' e' where
  balanced := hbalanced
  housed := hhoused
  equipped := hequipped
  fitted := h.fitted.congr hbuffers
  complies := hcomplies
  failing := hd.failing_eq.trans h.failing
  references := by
    rw [hd.caps_eq]
    exact h.references
  capacity := hd.capacity_eq ▸ h.capacity
  lt := hlt
  naming := hnaming
  told := by
    obtain ⟨since, heq, hasks⟩ := h.told
    rw [hd.rendered_eq, hpictures]
    exact ⟨since, heq, hasks.imp fun _ _ => AsksFor.mono hgrows⟩

/-- Nothing has happened that the driver is told about. -/
theorem rest (h : Follows t n pools shares d e) (hbalanced : d'.Balanced (later.map (·.1)))
    (hhoused : e'.Housed (pools'.map (·.2)) none (later.map (·.2)))
    (hequipped : d'.Equipped t.left) (hd : d.Rests d')
    (he : Leads Call.Mute e.driver e'.driver) : Follows t n pools' later d' e' :=
  h.advance (.refl n) hbalanced hhoused hequipped hd (h.complies.leads he) he.buffers_eq
    he.pictures_eq (fun x hx => Nat.lt_of_lt_of_le (h.lt x hx) hd.nextId_le)
    { h.naming with
      surfaces_right := h.naming.surfaces_right.trans he.created_eq_of_mute.symm }

/-- What is out on either side, when nothing is kept besides. -/
theorem accounts (h : Follows t n pools shares d e) :
    d.leases.Accounts (shares.map (·.1) ++ []) ∧ e.leases.Accounts (shares.map (·.2) ++ []) := by
  rw [List.append_nil, List.append_nil]
  exact ⟨h.balanced.sound.accounts, h.housed.accounts⟩

theorem perm (h : Follows t n pools shares d e) (hperm : shares.Perm later) :
    Follows t n pools later d e :=
  h.rest (h.balanced.perm (hperm.map _)) (h.housed.perm (hperm.map _)) h.equipped (.refl _) .refl

theorem retain (h : Follows t n pools shares d e) (hshare : share ∈ shares) :
    Follows t n pools (share :: shares) (Device.retain share.1.lease d)
      (Device.retain share.2.lease e) :=
  h.rest (h.balanced.retain (List.mem_map_of_mem hshare))
    ((upkeep_complies t.offer).retain (List.mem_map_of_mem hshare) ⟨h.housed, h.complies⟩).1
    ⟨h.equipped.closed, h.equipped.outfit⟩ ⟨rfl, rfl, rfl, rfl, Nat.le_refl _⟩ .refl

end Follows

namespace Pooled

omit [Library δ] in
theorem perm (hperm : shares.Perm later) (h : Pooled n shares d e pools) :
    Pooled n later d e pools := by
  cases pools with
  | none => exact List.perm_nil.1 (h ▸ hperm.symm)
  | some ids =>
    obtain ⟨p, q, own, hp, hq, hfollows, hown, hmade, hpaired⟩ := h
    exact ⟨p, q, own, hp, hq, hfollows, hown, hmade,
      hpaired.mono fun x hx => hperm.mem_iff.2 hx⟩

theorem retain (hshare : share ∈ shares) (h : Pooled n shares d e pools) :
    Pooled n (share :: shares) (Device.retain share.1.lease d) (Device.retain share.2.lease e)
      pools := by
  cases pools with
  | none =>
    have hnone : shares = [] := h
    rw [hnone] at hshare
    cases hshare
  | some ids =>
    obtain ⟨p, q, own, hp, hq, hfollows, hown, hmade, hpaired⟩ := h
    exact ⟨p, q, own, hp, hq, hfollows, hown, hmade, hpaired.retain hshare⟩

end Pooled

/-! ## Single calls on both sides -/

section Calls

variable {p : Simulator.Pool} {q : Pool} {own : List (SurfaceId × SurfaceId)} {a b : SurfaceId}

omit [Library δ] in
theorem getElem?_modifyPool (hq : e.pools[j]? = some q) (change : Pool → Pool) :
    (e.pools.modify j change)[j]? = some (change q) := by
  rw [List.getElem?_modify, hq]
  simp

/-- Both devices want to look at as many frames. -/
theorem Follows.queryCaps (h : Follows t n pools shares d e) (hpools : Pooled n shares d e pools)
    (context context' : ContextId) (filters filters' : List BufferId) :
    (Device.queryCaps context' filters' e).1.toOption.map (·.references) =
        (Device.queryCaps context filters d).1.toOption.map (·.references) ∧
      (Follows t n pools shares (Device.queryCaps context filters d).2
          (Device.queryCaps context' filters' e).2 ∧
        Pooled n shares (Device.queryCaps context filters d).2
          (Device.queryCaps context' filters' e).2 pools) ∧
      (Room d → Room (Device.queryCaps context filters d).2) := by
  obtain ⟨caps, driver, heq, hforward, hbackward, hleads⟩ :=
    h.complies.exists_queryCaps context' filters'
  have hhoused := h.housed.hears (.queryCaps context' filters' e)
  rw [heq] at hhoused
  rw [Simulator.queryCaps_eq, heq, Simulator.fails_eq_false h.failing]
  have hsame : caps.references = d.caps.references := by
    rw [h.references, PipelineCaps.references, hforward, hbackward]
  refine ⟨congrArg some hsame, ⟨h.rest (h.balanced.quiet (.record _ _)) hhoused
    ⟨h.equipped.closed, h.equipped.outfit⟩ (.record _ d) hleads, ?_⟩, id⟩
  cases pools with
  | none => exact hpools
  | some ids => exact hpools

/-- A surface comes back on both sides, or a lease goes on with a holder less. -/
theorem Follows.release (h : Follows t n pools (share :: shares) d e)
    (hpools : Pooled n (share :: shares) d e pools) :
    Follows t n pools shares (Device.release share.1.lease d) (Device.release share.2.lease e) ∧
      Pooled n shares (Device.release share.1.lease d) (Device.release share.2.lease e) pools := by
  have hhoused : Housed (pools.map (·.2)) none (shares.map (·.2))
      (Device.release share.2.lease e) :=
    ((upkeep_complies t.offer).release ⟨h.housed, h.complies⟩).1
  refine ⟨h.rest h.balanced.release hhoused (h.equipped.release share.1.lease)
    (.release share.1.lease d) (leads_release e share.2.lease), ?_⟩
  cases pools with
  | none => exact absurd hpools (List.cons_ne_nil _ _)
  | some ids =>
    obtain ⟨i, j⟩ := ids
    obtain ⟨p, q, own, hp, hq, hfollows, hown, hmade, hpaired⟩ := hpools
    rcases hpaired.release h.accounts.1 h.accounts.2 with
      ⟨l, hl, l', hl', hpool, hpool', hkey, hkey', heq, heq', hpaired'⟩ | ⟨heq, heq', hpaired'⟩
    · have hp' : (d.withoutLease l).pools[i]? = some { p with free := l.surface :: p.free } :=
        hpool ▸ Simulator.getElem?_modifyPool (hpool ▸ hp) _
      have hq' := getElem?_modifyPool hq fun q => { q with free := l'.surface :: q.free }
      have hrelease' : Device.release share.2.lease e = { e with
          pools := e.pools.modify j fun q => { q with free := l'.surface :: q.free }
          leases := e.leases.without share.2.lease } := by
        rw [release_of_last heq', hpool']
        exact reclaimPool_of_open hq' hfollows.isOpen
      rw [Simulator.release_of_last hkey heq, hrelease']
      refine ⟨_, _, own, hp', hq', ⟨hfollows.desc_eq, hfollows.made_eq, ?_, hfollows.isOpen,
        hfollows.capacity_pos⟩, hown, hmade, ?_⟩
      · simp only [List.length_cons, hfollows.free_eq]
      · simp only [Simulator.withoutLease, Simulator.modifyPool, Leases.without,
          ← hkey] at hpaired' ⊢
        exact hpaired'
    · rw [Simulator.release_of_others heq, release_of_others heq']
      exact ⟨p, q, own, hp, hq, hfollows, hown, hmade, hpaired'⟩

/-- Both devices lend a surface, and the two stand for each other. -/
def Lends (t : Pairing) (n : Names) (shares : List (Holding × Holding)) (i j : PoolId)
    (d : Simulator) (e : Display (Logged δ)) : Prop :=
  ∃ m s s' x y d' e', n.Grows m ∧ Device.allocate i d = (.ok s, d') ∧
    Device.allocate j e = (.ok s', e') ∧ s.Alike m s' ∧ s.holding? = some x ∧
      s'.holding? = some y ∧ Follows t m (some (i, j)) ((x, y) :: shares) d' e' ∧
        Pooled m ((x, y) :: shares) d' e' (some (i, j))

theorem Follows.lend (h : Follows t n (some (i, j)) shares d e) (hp : d.pools[i]? = some p)
    (hq : e.pools[j]? = some q) (hdesc : q.desc = p.desc)
    (change : Simulator.Pool → Simulator.Pool) (change' : Pool → Pool) {next : Nat}
    {driver : Logged δ} (hd : Device.allocate i d = ({ d with
      pools := d.pools.modify i change, nextId := next }).lend i p.desc a)
    (he : Device.allocate j e = ({ e with
      pools := e.pools.modify j change', driver }).lend j q.desc b)
    (hgrows : n.Grows m) (hown : own ⊆ m.surfaces) (hnamed : (a, b) ∈ own)
    (hmade : ∀ x ∈ own, x.2.isValid = true ∧ x.2.value ∈ (change' q).made)
    (hvalid : a.isValid = true) (hfollows : (change' q).Follows (change p))
    (hpaired : Leases.Paired i j [] [] own
      ((⟨d.leases.nextKey, a⟩, ⟨e.leases.nextKey, b⟩) :: shares) (d.leases.grant i a).2
      (e.leases.grant j b).2 (change p).free (change' q).free)
    (hbuffers : buffers driver.log = buffers e.driver.log)
    (hpictures : (reading driver.log).pictures = (reading e.driver.log).pictures)
    (hlt : ∀ x ∈ m.surfaces, x.1.value < next) (hnaming : Naming m driver.log) :
    Lends t n shares i j d e := by
  have hbalanced := h.balanced.allocate i
  obtain ⟨hhoused, hcomplies⟩ := (upkeep_complies t.offer).allocate ⟨h.housed, h.complies⟩
  have hequipped := h.equipped.allocate i
  have hrests := Simulator.Rests.allocate i d
  rw [hd] at hbalanced hequipped hrests
  rw [he] at hhoused hcomplies
  refine ⟨m, _, _, _, _, _, _, hgrows, hd, he, ⟨hown hnamed, ?_, ?_, hvalid, (hmade _ hnamed).1,
    _, _, rfl, rfl⟩, rfl, rfl, h.advance hgrows hbalanced hhoused hequipped hrests hcomplies
      hbuffers hpictures hlt hnaming, _, _, own, Simulator.getElem?_modifyPool hp change,
    getElem?_modifyPool hq change', hfollows, hown, hmade, hpaired⟩
  · exact congrArg (·.width) hdesc
  · exact congrArg (·.height) hdesc

/-- A surface that has been lent before. -/
theorem Follows.lend_known (h : Follows t n (some (i, j)) shares d e) (hroom : Room d)
    (hp : d.pools[i]? = some p) (hq : e.pools[j]? = some q) (hfollows : q.Follows p)
    (hown : own ⊆ n.surfaces) (hmade : ∀ x ∈ own, x.2.isValid = true ∧ x.2.value ∈ q.made)
    (hpaired : Leases.Paired i j [] [] own shares d.leases e.leases p.free q.free)
    {rest' : List SurfaceId} (hfree' : q.free = b :: rest') : Lends t n shares i j d e := by
  obtain ⟨-, hnext⟩ := hroom
  have hfree_eq := hfollows.free_eq
  rw [hfree'] at hpaired hfree_eq
  obtain ⟨a, rest, hfree, hnamed, hpaired'⟩ := hpaired.lendKnown h.accounts.1 h.accounts.2
  rw [hfree, List.length_cons, List.length_cons] at hfree_eq
  have hd := Simulator.allocate_of_shelf (Simulator.fails_eq_false h.failing .alloc) hp hfree
  have he : Device.allocate j e =
      (e.modifyPool j fun q => { q with free := rest' }).lend j q.desc b := by
    simp only [Device.allocate, Display.allocate, hq, hfree']
  exact h.lend hp hq hfollows.desc_eq (fun p => { p with free := rest })
    (fun q => { q with free := rest' }) hd he (.refl n) hown hnamed hmade
    (Simulator.Linked.isValid_of_lt (h.lt _ (hown hnamed)) (Nat.le_of_lt hnext))
    ⟨hfollows.desc_eq, hfollows.made_eq, Nat.succ.inj hfree_eq, hfollows.isOpen,
      hfollows.capacity_pos⟩ hpaired' rfl rfl h.lt h.naming

/-- With nothing out and nothing on the shelves, no surface has been made. -/
theorem Follows.unmade (h : Follows t n (some (i, j)) shares d e) (hlive : d.leases.live = [])
    (hp : d.pools[i]? = some p) (hfollows : q.Follows p)
    (hmade : ∀ x ∈ own, x.2.isValid = true ∧ x.2.value ∈ q.made) (hfree' : q.free = []) :
    p.free = [] ∧ p.allocated = 0 ∧ q.made = [] ∧ own = [] := by
  have hfree : p.free = [] := by
    rw [← List.length_eq_zero_iff, ← hfollows.free_eq, hfree', List.length_nil]
  have hnone : p.allocated = 0 := by
    rw [(h.balanced.tallies i p hp).allocated_eq, hfree, Leases.countOf, hlive]
    rfl
  have hempty : q.made = [] := List.length_eq_zero_iff.1 (hfollows.made_eq.trans hnone)
  refine ⟨hfree, hnone, hempty, List.eq_nil_iff_forall_not_mem.2 fun x hx => ?_⟩
  have hmem := (hmade x hx).2
  rw [hempty] at hmem
  cases hmem

/-- A surface that is made on both sides. -/
theorem Follows.lend_new (h : Follows t n (some (i, j)) shares d e) (hroom : Room d)
    (hp : d.pools[i]? = some p) (hq : e.pools[j]? = some q) (hfollows : q.Follows p)
    (hmade : ∀ x ∈ own, x.2.isValid = true ∧ x.2.value ∈ q.made)
    (hpaired : Leases.Paired i j [] [] own shares d.leases e.leases p.free q.free)
    (hfree' : q.free = []) : Lends t n shares i j d e := by
  obtain ⟨hlive, hnext⟩ := hroom
  obtain ⟨hfree, hnone, hempty, rfl⟩ := h.unmade hlive hp hfollows hmade hfree'
  have hspace : p.allocated < p.capacity := hnone ▸ hfollows.capacity_pos
  have hfull : ¬ maxPoolSurfaces ≤ q.made.length := by
    rw [hempty]
    decide
  have hd :=
    Simulator.allocate_of_empty (Simulator.fails_eq_false h.failing .alloc) hp hfree hspace
  obtain ⟨id, driver, hcall, hlog, hid⟩ := h.complies.exists_createSurface q.desc
  have he : Device.allocate j e = ({ e with
      pools := e.pools.modify j fun q => { q with made := q.made ++ [id] }, driver }).lend j
        q.desc ⟨id⟩ := by
    simp only [Device.allocate, Display.allocate, hq, hfree', if_neg hfull, ask_of_call hcall]
    rfl
  rw [hfree, hfree'] at hpaired
  have hpaired' : Leases.Paired i j [] [] [(⟨d.nextId⟩, ⟨id⟩)]
      ((⟨d.leases.nextKey, ⟨d.nextId⟩⟩, ⟨e.leases.nextKey, ⟨id⟩⟩) :: shares)
      (d.leases.grant i ⟨d.nextId⟩).2 (e.leases.grant j ⟨id⟩).2 [] [] :=
    hpaired.lendNew h.accounts.1 h.accounts.2 List.not_mem_nil List.not_mem_nil
      (List.forall_mem_nil _)
  have hnew : (⟨d.nextId⟩ : SurfaceId) ∉ n.surfaces.map (·.1) := by
    intro hmem
    obtain ⟨x, hx, heq⟩ := List.mem_map.1 hmem
    exact Nat.ne_of_lt (h.lt x hx) (congrArg (·.value) heq)
  refine h.lend hp hq hfollows.desc_eq (fun p => { p with allocated := p.allocated + 1 })
    (fun q => { q with made := q.made ++ [id] })
    (m := { n with surfaces := (⟨d.nextId⟩, ⟨id⟩) :: n.surfaces })
    hd he ⟨List.subset_cons_self _ _, rfl⟩ (List.cons_subset_cons _ (List.nil_subset _))
    List.mem_cons_self ?_ (Simulator.Linked.isValid_of_lt (Nat.lt_succ_self _) hnext)
    ⟨hfollows.desc_eq, ?_, hfollows.free_eq, hfollows.isOpen, hfollows.capacity_pos⟩
    (hfree.symm ▸ hfree'.symm ▸ hpaired') ?_ ?_ ?_ { h.naming with
      surfaces_left := List.nodup_cons.2 ⟨hnew, h.naming.surfaces_left⟩
      surfaces_right := ?_ }
  · intro x hx
    rw [List.mem_singleton.1 hx]
    exact ⟨Handle.isValid_iff.2 fun heq => hid (congrArg (·.value) heq),
      List.mem_append_right _ (List.mem_singleton_self id)⟩
  · simp only [List.length_append, List.length_singleton, hfollows.made_eq]
  · rw [hlog]
    rfl
  · rw [hlog]
    rfl
  · intro x hx
    rcases List.mem_cons.1 hx with rfl | hx
    · exact Nat.lt_succ_self _
    · exact Nat.lt_succ_of_lt (h.lt x hx)
  · rw [hlog]
    exact congrArg (id :: ·) h.naming.surfaces_right

theorem Follows.allocate (h : Follows t n (some (i, j)) shares d e) (hroom : Room d)
    (hpools : Pooled n shares d e (some (i, j))) : Lends t n shares i j d e := by
  obtain ⟨p, q, own, hp, hq, hfollows, hown, hmade, hpaired⟩ := hpools
  cases hfree' : q.free with
  | cons b rest' => exact h.lend_known hroom hp hq hfollows hown hmade hpaired hfree'
  | nil => exact h.lend_new hroom hp hq hfollows hmade hpaired hfree'

/-- A request is rendered on the simulated device, and the driver is told of it. -/
theorem Follows.submit (h : Follows t n pools shares d e) (hpools : Pooled n shares d e pools)
    {filter filter' : BufferId} {rest rest' : List BufferId}
    (hleft : t.left.filters = filter :: rest) (hright : t.right.filters = filter' :: rest')
    {r r' : RenderRequest} (hchain : r.filters = t.left.filters)
    (hchain' : r'.filters = t.right.filters) (hvalid : r.destination.isValid = true)
    (halike : r.Alike Eq n r') (flags : DeintFlags) :
    (Rendering.submit t.right.context (some filter') flags r' e).1 =
        (Rendering.submit t.left.context (some filter) flags r d).1 ∧
      Follows t n pools shares (Rendering.submit t.left.context (some filter) flags r d).2
        (Rendering.submit t.right.context (some filter') flags r' e).2 ∧
      Pooled n shares (Rendering.submit t.left.context (some filter) flags r d).2
        (Rendering.submit t.right.context (some filter') flags r' e).2 pools := by
  obtain ⟨hresult, hrendered⟩ := h.equipped.submit_verdict t.left.context hleft hchain hvalid flags
  have hverdict : Simulator.verdict d.fails = (.ok (), true) := by
    unfold Simulator.verdict
    simp only [Simulator.fails_eq_false h.failing, Bool.false_eq_true, if_false]
  rw [hverdict] at hresult hrendered
  have hquiet := Simulator.quiet_submit t.left.context (some filter) flags r d
  have haged := Simulator.Aged.submit t.left.context (some filter) flags r d
  have hequipped := h.equipped.submit t.left.context (some filter) flags r
  have hhoused := h.housed.spares (.submit t.right.context (some filter') flags r' e)
  have hhead : r'.filters.head? = some filter' := by
    rw [hchain', hright]
    rfl
  obtain ⟨driver, hdone, hcomplies, hfitted, hcreated, hpictures⟩ := h.complies.exists_submit
    h.fitted t.few t.right.context (hright ▸ List.mem_cons_self) flags hhead
  rw [hdone] at hhoused ⊢
  refine ⟨hresult.symm, ?_, ?_⟩
  · refine ⟨h.balanced.quiet hquiet, hhoused, hequipped, hfitted, hcomplies,
      hquiet.failing_eq.trans h.failing, hquiet.caps_eq ▸ h.references,
      haged.capacity_eq ▸ h.capacity,
      fun x hx => Nat.lt_of_lt_of_le (h.lt x hx) hquiet.nextId_le,
      { h.naming with surfaces_right := h.naming.surfaces_right.trans hcreated.symm }, ?_⟩
    obtain ⟨since, heq, hasks⟩ := h.told
    refine ⟨⟨r, some flags⟩ :: since, ?_, hpictures ▸ .cons ⟨_, rfl, halike, rfl⟩ hasks⟩
    rw [hrendered, heq]
    rfl
  · cases pools with
    | none => exact hpools
    | some ids =>
      obtain ⟨p, q, own, hp, hq, hfollows, hown, hmade, hpaired⟩ := hpools
      exact ⟨p, q, own, hquiet.pools_eq ▸ hp, hq, hfollows, hown, hmade,
        hquiet.leases_eq ▸ hpaired⟩

/-- The pools are given up when nothing is out. -/
theorem Follows.closePool (h : Follows t n (some (i, j)) [] d e) :
    Follows t n none [] (Device.closePool i d) (Device.closePool j e) :=
  h.rest (h.balanced.quiet (.record _ _))
    ((upkeep_complies t.offer).closePool ⟨h.housed, h.complies⟩).1
    ⟨h.equipped.closed, h.equipped.outfit⟩ (.record _ d) (leads_closePool e j)

/-- Pools of NV12 surfaces are set up on both sides. -/
theorem Follows.createPool (h : Follows t n none [] d e) {desc : PoolDesc}
    (hformat : desc.swFormat = .nv12) (hwidth : desc.width ≠ 0) (hheight : desc.height ≠ 0) :
    ∃ d' e', Device.createPool desc d = (.ok d.pools.length, d') ∧
      Device.createPool desc e = (.ok e.pools.length, e') ∧
        Follows t n (some (d.pools.length, e.pools.length)) [] d' e' ∧
        Pooled n [] d' e' (some (d.pools.length, e.pools.length)) := by
  have hd := Simulator.createPool_eq h.failing desc
  have he : Device.createPool desc e =
      (.ok e.pools.length, { e with pools := e.pools ++ [{ desc := desc }] }) := by
    simp [Device.createPool, Display.createPool, hformat, hwidth, hheight]
  have hbalanced := h.balanced.createPool desc
  have hhoused := ((upkeep_complies t.offer).createPool ⟨h.housed, h.complies⟩ desc).1
  rw [hd] at hbalanced
  rw [he] at hhoused
  refine ⟨_, _, hd, he, h.rest hbalanced hhoused ⟨h.equipped.closed, h.equipped.outfit⟩
    ⟨rfl, rfl, rfl, rfl, Nat.le_refl _⟩ .refl, _, _, [], List.getElem?_concat_length,
    List.getElem?_concat_length, ⟨rfl, rfl, rfl, rfl, h.capacity⟩, List.nil_subset _,
    List.forall_mem_nil _, ?_⟩
  exact ⟨by simp, by simp, by simp, by simp, by simp, by simp, List.nodup_nil, List.nodup_nil,
    [], [], rfl, rfl, List.nil_subset _, by simp⟩

end Calls

/-! ## The coupling -/

/-- A session on a compliant driver is coupled to one on a simulated device, as long as its callers
keep nothing and only hand in frames on surfaces of their own. -/
def following (δ : Type) [Library δ] (t : Pairing) : Coupling Simulator (Display (Logged δ)) where
  left := t.left
  right := t.right
  seen _ f g := f = g ∧ f.holding? = none
  keeps := False
  room _ d _ := Room d
  bond n pools shares d e := Follows t n pools shares d e ∧ Pooled n shares d e pools
  length_eq := t.length_eq
  alike := by
    rintro n f g ⟨rfl, hfree⟩
    exact .refl n hfree
  seen_mono _ h := h
  seen_lent hnot _ _ := hnot.elim
  seen_revise := by
    rintro n f g like ⟨rfl, hfree⟩
    exact ⟨rfl, hfree⟩
  perm hperm h := ⟨h.1.perm hperm, h.2.perm hperm⟩
  retain hshare h := ⟨h.1.retain hshare, h.2.retain hshare⟩
  release := by
    intro n pools shares share d e h
    refine ⟨h.1.release h.2, fun hroom => ?_⟩
    -- there is no room while the share is out
    obtain ⟨l, hl, -⟩ := h.1.balanced.sound.accounts.entered share.1 List.mem_cons_self
    have hl : l ∈ d.leases.live := hl
    rw [hroom.1] at hl
    cases hl
  queryCaps h := h.1.queryCaps h.2 _ _ _ _
  allocate h hroom := .inr (h.1.allocate hroom h.2)
  upload hnot _ _ := hnot.elim
  submit := by
    intro n p q shares d e r r' flags hne hchain hchain' hvalid hvalid' halike h
    obtain ⟨filter, rest, filter', rest', hleft, hright⟩ := Simulator.exists_firsts t.length_eq hne
    have hsame : r.Alike Eq n r' := by
      refine halike.mono (.refl n) ?_
      rintro a b ⟨f, g, ⟨rfl, -⟩, rfl, rfl⟩
      rfl
    simp only [hleft, hright, List.head?_cons]
    exact h.1.submit h.2 hleft hright hchain hchain' hvalid hsame flags

/-- The devices can renew their pools for streams of NV12 surfaces. -/
theorem renews_following (t : Pairing) : (following δ t).Renews fun desc =>
    desc.swFormat = .nv12 ∧ desc.width ≠ 0 ∧ desc.height ≠ 0 where
  closePool h := ⟨h.1.closePool, rfl⟩
  createPool := by
    rintro n desc d e ⟨hformat, hwidth, hheight⟩ ⟨h, -⟩
    obtain ⟨d', e', hd, he, hafter, hpools⟩ := h.createPool hformat hwidth hheight
    exact .inr ⟨_, _, d', e', hd, he, hafter, hpools⟩

end Display

end Va

end Deinterlace
