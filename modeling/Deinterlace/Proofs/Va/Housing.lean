import Deinterlace.Proofs.Session.Custody
import Deinterlace.Proofs.Va.Effects

/-!
# Where the surfaces of a VA device are

Every surface that a pool has made is on its shelf or out, until the pool is gone; and a pool is
gone as soon as it is closed and none of its surfaces is out (`Display.Housed`). Much else that is
to be known of a device changes only where surfaces are made and where pools go. What every
operation keeps, step by step (`Display.Upkeep`), the device upholds in the hands of a session
(`Display.Upkeep.upholds`), and what is kept while surfaces come back (`Display.Endures`) outlasts
the session.
-/
namespace Deinterlace

/-! ## Leases by pool -/

namespace Leases

/-- The surfaces of a pool that are out. -/
def out (b : Leases) (pool : PoolId) : List SurfaceId :=
  (b.live.filter (·.pool == pool)).map (·.surface)

theorem mem_out {b : Leases} {l : Lease} (hl : l ∈ b.live) : l.surface ∈ b.out l.pool :=
  List.mem_map.2 ⟨l, List.mem_filter.2 ⟨hl, beq_self_eq_true _⟩, rfl⟩

theorem anyOf_eq_false (b : Leases) (pool : PoolId) : b.anyOf pool = false ↔ b.out pool = [] := by
  rw [out, List.map_eq_nil_iff, List.filter_eq_nil_iff, anyOf, List.any_eq_false]

theorem out_eq (b : Leases) (pool : PoolId) : b.out pool =
    ((b.live.map fun l => (l.pool, l.surface)).filter (·.1 == pool)).map (·.2) := by
  rw [out, List.filter_map, List.map_map]
  rfl

@[simp] theorem out_adjust (b : Leases) (key : LeaseId) (change : Nat → Nat) (pool : PoolId) :
    (b.adjust key change).out pool = b.out pool := by
  rw [out_eq, out_eq, map_adjust b key change (fun l => (l.pool, l.surface)) fun _ _ => rfl]

theorem out_grant (b : Leases) (pool other : PoolId) (surface : SurfaceId) :
    (b.grant pool surface).2.out other =
      if pool = other then surface :: b.out other else b.out other := by
  by_cases h : pool = other <;> simp [out, grant, h]

/-- The surfaces that are out before a lease is struck out. -/
theorem out_perm_without {b : Leases} {l : Lease} (hdistinct : (b.live.map (·.key)).Nodup)
    (hl : l ∈ b.live) (pool : PoolId) : (b.out pool).Perm
      (if l.pool = pool then l.surface :: (b.without l.key).out pool
        else (b.without l.key).out pool) := by
  have hperm := ((perm_without hdistinct hl).filter (·.pool == pool)).map (·.surface)
  by_cases h : l.pool = pool
  · have hself : (l.pool == pool) = true := beq_iff_eq.2 h
    rw [List.filter_cons, if_pos hself] at hperm
    rw [if_pos h]
    exact hperm
  · have hother : ¬ (l.pool == pool) = true := mt beq_iff_eq.1 h
    rw [List.filter_cons, if_neg hother] at hperm
    rw [if_neg h]
    exact hperm

end Leases

namespace Va

variable {δ : Type}

theorem exists_of_modify {pools : List Pool} {pool i : PoolId} {change : Pool → Pool} {p : Pool}
    (h : (pools.modify pool change)[i]? = some p) :
    ∃ before, pools[i]? = some before ∧ p = if pool = i then change before else before := by
  rw [List.getElem?_modify] at h
  cases hbefore : pools[i]? with
  | none =>
    rw [hbefore] at h
    cases h
  | some before =>
    rw [hbefore] at h
    exact ⟨before, rfl, (Option.some.inj h).symm⟩

namespace Display

/-! ## The surfaces of the pools -/

/-- The surfaces `out` of a pool are out, and the others are on its shelf. The session has the pool
when `isUsed` holds, and it may be that the pool ought to be gone when `isDue` holds. -/
structure Suits (isUsed isDue : Prop) (out : List SurfaceId) (p : Pool) : Prop where
  open_iff : p.isOpen = true ↔ isUsed
  gone : p.isGone = true → p.isOpen = false ∧ out = [] ∧ p.free = []
  left : ¬ isDue → p.isOpen = false → out = [] → p.isGone = true
  made : p.isGone = false → ((p.free ++ out).map (·.value)).Perm p.made

theorem Suits.congr {isUsed isUsed' isDue isDue' : Prop} {out out' : List SurfaceId} {p : Pool}
    (h : Suits isUsed isDue out p) (hused : isUsed ↔ isUsed') (hdue : isDue → isDue')
    (hout : out.Perm out') : Suits isUsed' isDue' out' p where
  open_iff := h.open_iff.trans hused
  gone hgone := by
    obtain ⟨hclosed, rfl, hfree⟩ := h.gone hgone
    exact ⟨hclosed, List.nil_perm.1 hout, hfree⟩
  left hnot hclosed hin := h.left (mt hdue hnot) hclosed (List.perm_nil.1 (hin ▸ hout))
  made hkept := ((hout.symm.append_left p.free).map _).trans (h.made hkept)

theorem Suits.isGone_of_open {isDue : Prop} {out : List SurfaceId} {p : Pool}
    (h : Suits True isDue out p) : p.isGone = false := by
  rw [← Bool.not_eq_true]
  intro hgone
  have hopen := h.open_iff.2 trivial
  rw [(h.gone hgone).1] at hopen
  cases hopen

/-- The pools and the leases fit together while a session has the pool `pool`. It may be that the
pool `due` ought to be gone. -/
structure Housed (pool due : Option PoolId) (held : List Holding) (d : Display δ) : Prop where
  accounts : d.leases.Accounts held
  out_lt : ∀ i, d.leases.out i ≠ [] → i < d.pools.length
  suits : ∀ i p, d.pools[i]? = some p → Suits (pool = some i) (due = some i) (d.leases.out i) p

namespace Housed

variable {pool due : Option PoolId} {held : List Holding} {d later : Display δ}

theorem unused (h : d.Unused) : d.Housed none none [] where
  accounts := h.leases ▸ .empty
  out_lt i hi := by
    rw [h.leases] at hi
    exact absurd rfl hi
  suits i p hp := by
    rw [h.pools] at hp
    cases hp

/-- Nothing but the pools and the leases matters. -/
theorem congr (h : d.Housed pool due held) (hpools : later.pools = d.pools)
    (hleases : later.leases = d.leases) : later.Housed pool due held where
  accounts := hleases ▸ h.accounts
  out_lt := hpools ▸ hleases ▸ h.out_lt
  suits := hpools ▸ hleases ▸ h.suits

theorem perm (h : d.Housed pool due held) {others : List Holding} (hperm : held.Perm others) :
    d.Housed pool due others :=
  { h with accounts := h.accounts.perm hperm }

/-- Leases may have other holders. -/
theorem leases (h : d.Housed pool due held) {leases : Leases} {others : List Holding}
    (haccounts : leases.Accounts others) (hout : ∀ i, leases.out i = d.leases.out i) :
    Housed pool due others { d with leases } where
  accounts := haccounts
  out_lt i hi := h.out_lt i (hout i ▸ hi)
  suits i p hp := by
    show Suits _ _ (leases.out i) p
    rw [hout]
    exact h.suits i p hp

/-- One pool changes, and nothing changes for the others. -/
theorem modify (h : d.Housed pool due held) {i : PoolId} {change : Pool → Pool}
    {pool' due' : Option PoolId} {held' : List Holding}
    (hpools : later.pools = d.pools.modify i change)
    (haccounts : later.leases.Accounts held')
    (hlt : later.leases.out i ≠ [] → i < d.pools.length)
    (hself : ∀ p, d.pools[i]? = some p →
      Suits (pool' = some i) (due' = some i) (later.leases.out i) (change p))
    (hothers : ∀ k, i ≠ k → (pool = some k ↔ pool' = some k) ∧ (due = some k → due' = some k) ∧
      (d.leases.out k).Perm (later.leases.out k)) : later.Housed pool' due' held' where
  accounts := haccounts
  out_lt k hk := by
    rw [hpools, List.length_modify]
    by_cases hik : i = k
    · subst hik
      exact hlt hk
    · refine h.out_lt k fun hin => hk (List.perm_nil.1 ?_)
      exact hin ▸ (hothers k hik).2.2.symm
  suits k q hq := by
    rw [hpools] at hq
    obtain ⟨before, hbefore, rfl⟩ := exists_of_modify hq
    by_cases hik : i = k
    · subst hik
      rw [if_pos rfl]
      exact hself before hbefore
    · rw [if_neg hik]
      obtain ⟨hused, hdue, hout⟩ := hothers k hik
      exact (h.suits k before hbefore).congr hused hdue hout

theorem isGone_of_open {i : PoolId} (h : d.Housed (some i) due held) {p : Pool}
    (hp : d.pools[i]? = some p) : p.isGone = false :=
  ((h.suits i p hp).congr (iff_true_intro rfl) id (.refl _)).isGone_of_open

theorem isGone_of_out (h : d.Housed pool due held) {i : PoolId} {p : Pool}
    (hp : d.pools[i]? = some p) (hout : d.leases.out i ≠ []) : p.isGone = false := by
  rw [← Bool.not_eq_true]
  exact fun hgone => hout ((h.suits i p hp).gone hgone).2.1

/-- A surface of an open pool may go out. -/
theorem lend {i : PoolId} (h : d.Housed (some i) none held) {p : Pool}
    (hp : d.pools[i]? = some p) (change : Pool → Pool) (id : SurfaceId)
    (hopen : ∀ p, (change p).isOpen = p.isOpen) (hgone : ∀ p, (change p).isGone = p.isGone)
    (hmade : ((change p).free ++ id :: d.leases.out i).map (·.value) |>.Perm (change p).made) :
    Housed (some i) none (⟨d.leases.nextKey, id⟩ :: held)
      { d.modifyPool i change with leases := (d.leases.grant i id).2 } := by
  have hlent : (change p).isOpen = true := (hopen p).trans ((h.suits i p hp).open_iff.2 rfl)
  have hkept : (change p).isGone = false := (hgone p).trans (h.isGone_of_open hp)
  have hout := Leases.out_grant d.leases i
  refine h.modify rfl (h.accounts.grant i id)
    (fun _ => (List.getElem?_eq_some_iff.1 hp).1) (fun q hq => ?_) (fun k hik => ?_)
  · cases hp.symm.trans hq
    simp only [hout, if_true]
    exact ⟨by simp [hlent], fun hgone => by simp [hkept] at hgone,
      fun _ hclosed => by simp [hlent] at hclosed, fun _ => hmade⟩
  · refine ⟨Iff.rfl, nofun, ?_⟩
    rw [hout, if_neg hik]

/-- With its last holder a surface goes back to its pool, which ought to be gone then if it is
closed and this was the last of its surfaces that was out. -/
theorem shelve (h : d.Housed pool none held) {l : Lease} (hl : l ∈ d.leases.live)
    {others : List Holding} (haccounts : (d.leases.without l.key).Accounts others) :
    Housed pool (some l.pool) others (modifyPool { d with leases := d.leases.without l.key } l.pool
      fun p => { p with free := l.surface :: p.free }) := by
  have hout := Leases.out_perm_without h.accounts.distinct hl
  have hself := hout l.pool
  rw [if_pos rfl] at hself
  have hbusy : d.leases.out l.pool ≠ [] := List.ne_nil_of_mem (Leases.mem_out hl)
  refine h.modify rfl haccounts (fun _ => h.out_lt _ hbusy) (fun p hp => ?_) (fun k hik => ?_)
  · have hkept := h.isGone_of_out hp hbusy
    refine ⟨(h.suits _ p hp).open_iff, fun hgone => ?_, fun hdue => absurd rfl hdue, fun _ => ?_⟩
    · exact absurd (hkept.symm.trans hgone) nofun
    · have hmade := ((hself.symm.append_left p.free).map _).trans ((h.suits _ p hp).made hkept)
      exact (List.perm_middle.symm.map _).trans hmade
  · have hother := hout k
    rw [if_neg hik] at hother
    exact ⟨Iff.rfl, nofun, hother⟩

theorem shut {i : PoolId} (h : d.Housed (some i) none held) :
    Housed none (some i) held (d.modifyPool i fun p => { p with isOpen := false }) := by
  refine h.modify rfl h.accounts (h.out_lt i) (fun p hp => ?_) (fun k hik => ?_)
  · refine ⟨by simp, fun hgone => ?_, fun hdue => absurd rfl hdue, (h.suits i p hp).made⟩
    exact absurd ((h.isGone_of_open hp).symm.trans hgone) nofun
  · exact ⟨by simp [hik], nofun, .refl _⟩

theorem addPool (h : d.Housed none none held) (desc : PoolDesc) :
    Housed (some d.pools.length) none held { d with pools := d.pools ++ [{ desc := desc }] } where
  accounts := h.accounts
  out_lt i hi := by
    rw [List.length_append]
    exact Nat.lt_add_right 1 (h.out_lt i hi)
  suits i q hq := by
    rcases Nat.lt_trichotomy i d.pools.length with hlt | rfl | hgt
    · rw [List.getElem?_append_left hlt] at hq
      exact (h.suits i q hq).congr (by simp [Nat.ne_of_gt hlt]) nofun (.refl _)
    · rw [List.getElem?_concat_length] at hq
      cases hq
      have hin : d.leases.out d.pools.length = [] := by
        by_contra hout
        exact Nat.lt_irrefl _ (h.out_lt _ hout)
      rw [hin]
      exact ⟨by simp, nofun, nofun, fun _ => .refl _⟩
    · have hlength : (d.pools ++ [({ desc := desc } : Pool)]).length ≤ i := by
        rw [List.length_append]
        exact hgt
      rw [List.getElem?_eq_none hlength] at hq
      cases hq

variable [Library δ]

theorem hears (h : d.Housed pool due held) (hhears : Hears d later) :
    later.Housed pool due held := by
  rw [hhears.2]
  exact h.congr rfl rfl

theorem spares (h : d.Housed pool due held) (hspares : Spares d later) :
    later.Housed pool due held := by
  have hpending : Housed pool due held { d with pending := later.pending } := h.congr rfl rfl
  exact hpending.hears hspares

theorem vacate (h : d.Housed pool due held) {i : PoolId} {p : Pool} (hp : d.pools[i]? = some p)
    (hclosed : p.isOpen = false) (hin : d.leases.out i = []) :
    (d.vacate i p).Housed pool (if due = some i then none else due) held := by
  obtain ⟨hpools, hleases, -⟩ := vacate_eq d i p
  refine h.modify hpools (hleases ▸ h.accounts) (fun hout => ?_) (fun q hq => ?_)
    (fun k hik => ?_)
  · rw [hleases] at hout
    exact h.out_lt i hout
  · cases hp.symm.trans hq
    rw [hleases]
    exact ⟨(h.suits i p hp).open_iff, fun _ => ⟨hclosed, hin, rfl⟩, fun _ _ _ => rfl, nofun⟩
  · rw [hleases]
    refine ⟨Iff.rfl, ?_, .refl _⟩
    rintro rfl
    exact if_neg fun heq => hik (Option.some.inj heq).symm

/-- A pool that ought to be gone is gone in the end. -/
theorem reclaimPool {i : PoolId} (h : d.Housed pool (some i) held) :
    (d.reclaimPool i).Housed pool none held := by
  rcases d.reclaimPool_cases i with ⟨hstays, heq⟩ | ⟨p, hp, hclosed, -, hin, heq⟩ <;> rw [heq]
  · refine { h with suits := fun k p hp => { h.suits k p hp with left := fun _ hclosed hin => ?_ } }
    by_cases hk : i = k
    · subst hk
      exact hstays p hp hclosed ((d.leases.anyOf_eq_false i).2 hin)
    · exact (h.suits k p hp).left (fun heq => hk (Option.some.inj heq)) hclosed hin
  · have hvacated := h.vacate hp hclosed ((d.leases.anyOf_eq_false i).1 hin)
    rw [if_pos rfl] at hvacated
    obtain ⟨hpools, hleases, -⟩ := (d.vacate i p).reclaim_eq
    exact hvacated.congr hpools hleases

end Housed

/-! ## What operations keep -/

variable [Library δ]

/-- A property that a display keeps when surfaces come back and pools go. It may say nothing of the
leases. -/
structure Endures (P : Display δ → Prop) : Prop where
  leases {d : Display δ} (leases : Leases) : P d → P { d with leases }
  modify {d : Display δ} (i : PoolId) (change : Pool → Pool) : (∀ p, (change p).made = p.made) →
    (∀ p, (change p).isGone = p.isGone) → P d → P (d.modifyPool i change)
  leave {d : Display δ} {i : PoolId} {p : Pool} : d.pools[i]? = some p → p.isGone = false →
    P d → P (d.vacate i p).reclaim

/-- A property that a display keeps under every operation of a session. -/
structure Upkeep (P : Display δ → Prop) : Prop extends Endures P where
  hears {d later : Display δ} : Hears d later → P d → P later
  submit {d : Display δ} (context : ContextId) (buffer : Option BufferId) (flags : DeintFlags)
    (request : RenderRequest) : P d → P (Rendering.submit context buffer flags request d).2
  addPool {d : Display δ} (desc : PoolDesc) : P d →
    P { d with pools := d.pools ++ [{ desc := desc }] }
  create {d : Display δ} {i : PoolId} {p : Pool} {id : Nat} {driver : δ} :
    d.pools[i]? = some p → p.isGone = false → p.made.length < maxPoolSurfaces →
    Library.call (makes p.desc) d.driver = (success, id, driver) → P d →
    P (modifyPool { d with driver } i fun p => { p with made := p.made ++ [id] })

/-- What pictures do not concern is kept by submissions if it is kept by the calls. -/
theorem Upkeep.of_spares {P : Display δ → Prop} (h : Endures P)
    (hspares : ∀ {d later}, Spares d later → P d → P later)
    (haddPool : ∀ {d} (desc : PoolDesc), P d → P { d with pools := d.pools ++ [{ desc := desc }] })
    (hcreate : ∀ {d : Display δ} {i p id driver}, d.pools[i]? = some p → p.isGone = false →
      p.made.length < maxPoolSurfaces →
      Library.call (makes p.desc) d.driver = (success, id, driver) → P d →
      P (modifyPool { d with driver } i fun p => { p with made := p.made ++ [id] })) :
    Upkeep P where
  toEndures := h
  hears hhears := hspares (.of_hears hhears)
  submit context buffer flags request := hspares (.submit context buffer flags request _)
  addPool := haddPool
  create := hcreate

theorem Endures.reclaimPool {P : Display δ → Prop} (h : Endures P) {d : Display δ} (hd : P d)
    (i : PoolId) : P (d.reclaimPool i) := by
  rcases d.reclaimPool_cases i with ⟨-, heq⟩ | ⟨p, hp, -, hkept, -, heq⟩ <;> rw [heq]
  · exact hd
  · exact h.leave hp hkept hd

theorem Endures.and {P Q : Display δ → Prop} (hP : Endures P) (hQ : Endures Q) :
    Endures fun d => P d ∧ Q d where
  leases leases hd := ⟨hP.leases leases hd.1, hQ.leases leases hd.2⟩
  modify i change hmade hgone hd :=
    ⟨hP.modify i change hmade hgone hd.1, hQ.modify i change hmade hgone hd.2⟩
  leave hp hkept hd := ⟨hP.leave hp hkept hd.1, hQ.leave hp hkept hd.2⟩

theorem Upkeep.and {P Q : Display δ → Prop} (hP : Upkeep P) (hQ : Upkeep Q) :
    Upkeep fun d => P d ∧ Q d where
  toEndures := hP.toEndures.and hQ.toEndures
  hears h hd := ⟨hP.hears h hd.1, hQ.hears h hd.2⟩
  submit context buffer flags request hd :=
    ⟨hP.submit context buffer flags request hd.1, hQ.submit context buffer flags request hd.2⟩
  addPool desc hd := ⟨hP.addPool desc hd.1, hQ.addPool desc hd.2⟩
  create hp hkept hroom hcall hd :=
    ⟨hP.create hp hkept hroom hcall hd.1, hQ.create hp hkept hroom hcall hd.2⟩

section Laws

variable {P : Display δ → Prop} {pool : Option PoolId} {held : List Holding} {d : Display δ}

/-- A surface comes back, or a lease goes on with a holder less. -/
theorem Endures.release (h : Endures P) {share : Holding}
    (hd : d.Housed pool none (share :: held) ∧ P d) :
    Housed pool none held (Device.release share.lease d) ∧ P (Device.release share.lease d) := by
  obtain ⟨hhoused, hP⟩ := hd
  obtain ⟨l, hl, -, ⟨heq, haccounts⟩ | ⟨heq, haccounts⟩⟩ := hhoused.accounts.release_cases
  · rw [release_of_last heq]
    exact ⟨(hhoused.shelve hl haccounts).reclaimPool,
      h.reclaimPool (h.modify l.pool (fun p => { p with free := l.surface :: p.free })
        (fun _ => rfl) (fun _ => rfl) (h.leases _ hP)) l.pool⟩
  · rw [release_of_others heq]
    exact ⟨hhoused.leases haccounts fun i => Leases.out_adjust _ _ _ i, h.leases _ hP⟩

theorem Endures.retain (h : Endures P) {share : Holding} (hshare : share ∈ held)
    (hd : d.Housed pool none held ∧ P d) :
    Housed pool none (share :: held) (Device.retain share.lease d) ∧
      P (Device.retain share.lease d) :=
  ⟨hd.1.leases (hd.1.accounts.retain hshare) fun i => Leases.out_adjust _ _ _ i,
    h.leases _ hd.2⟩

theorem Upkeep.allocate (h : Upkeep P) {i : PoolId} (hd : d.Housed (some i) none held ∧ P d) :
    Housed (some i) none (((Device.allocate i d).1.toOption.bind (·.holding?)).toList ++ held)
      (Device.allocate i d).2 ∧ P (Device.allocate i d).2 := by
  obtain ⟨hhoused, hP⟩ := hd
  rcases allocate_cases i d with ⟨e, later, hhears, heq⟩ | ⟨p, id, rest, hp, hfree, heq⟩ |
    ⟨p, id, driver, hp, hfree, hroom, hcall, heq⟩ <;> rw [heq]
  · exact ⟨hhoused.hears hhears, h.hears hhears hP⟩
  · have hmade := (hhoused.suits i p hp).made (hhoused.isGone_of_open hp)
    rw [hfree] at hmade
    exact ⟨hhoused.lend hp (fun p => { p with free := rest }) id (fun _ => rfl) (fun _ => rfl)
        ((List.perm_middle.map _).trans hmade),
      h.leases _ (h.modify i (fun p => { p with free := rest }) (fun _ => rfl) (fun _ => rfl) hP)⟩
  · have hkept := hhoused.isGone_of_open hp
    have hasked : Housed (some i) none held { d with driver } := hhoused.congr rfl rfl
    have hgrown : ((p.free ++ ⟨id⟩ :: d.leases.out i).map (·.value)).Perm (p.made ++ [id]) := by
      refine (List.perm_middle.map _).trans (.trans ?_ (List.perm_append_singleton id p.made).symm)
      exact ((hhoused.suits i p hp).made hkept).cons id
    exact ⟨hasked.lend hp (fun p => { p with made := p.made ++ [id] }) ⟨id⟩ (fun _ => rfl)
        (fun _ => rfl) hgrown,
      h.leases _ (h.create hp hkept hroom hcall hP)⟩

theorem Upkeep.createPool (h : Upkeep P) (hd : d.Housed none none held ∧ P d) (desc : PoolDesc) :
    Housed (Device.createPool desc d).1.toOption none held (Device.createPool desc d).2 ∧
      P (Device.createPool desc d).2 := by
  simp only [Device.createPool, Display.createPool]
  split
  · exact hd
  · exact ⟨hd.1.addPool desc, h.addPool desc hd.2⟩

theorem Upkeep.closePool (h : Upkeep P) {i : PoolId} (hd : d.Housed (some i) none held ∧ P d) :
    Housed none none held (Device.closePool i d) ∧ P (Device.closePool i d) :=
  ⟨hd.1.shut.reclaimPool, h.reclaimPool (h.modify i (fun p => { p with isOpen := false })
    (fun _ => rfl) (fun _ => rfl) hd.2) i⟩

/-- **What every operation keeps, a session upholds**, together with the places of the surfaces. -/
theorem Upkeep.upholds (h : Upkeep P) (u : Fixtures) :
    Device.Upholds u fun pool held d => d.Housed pool none held ∧ P d where
  perm hperm hd := ⟨hd.1.perm hperm, hd.2⟩
  retain hshare hd := h.retain hshare hd
  release hd := h.release hd
  queryCaps _ hd := ⟨hd.1.hears (.queryCaps _ _ _), h.hears (.queryCaps _ _ _) hd.2⟩
  createPool desc _ hd := h.createPool hd desc
  closePool hd := h.closePool hd
  allocate hd := h.allocate hd
  upload target frame _ hd :=
    ⟨hd.1.hears (.upload _ target frame _), h.hears (.upload _ target frame _) hd.2⟩
  submit flags request _ _ hd :=
    ⟨hd.1.spares (.submit _ _ flags request _), h.submit _ _ flags request hd.2⟩

/-- What every operation keeps holds of the device of a session in every state that can be reached,
if it holds when the session is opened and other drivers do not matter to it. -/
theorem Upkeep.obeys (h : Upkeep P) {options : Options} {harmless : (Display δ → Display δ) → Prop}
    (hharmless : ∀ change, harmless change → Replaces change ∧ ∀ d, P d → P (change d))
    {c : Custody (Display δ)} (hd : d.Unused) (hP : P d)
    (hc : Custody.Reachable harmless options d c) :
    c.session.Obeys c.session.fixtures (fun pool held d => d.Housed pool none held ∧ P d)
      c.held := by
  refine hc.obeys (fun _ pool held d => d.Housed pool none held ∧ P d) h.upholds ?_ ?_
  · intro u change hchange pool held e he
    obtain ⟨hreplaces, hkeeps⟩ := hharmless change hchange
    obtain ⟨driver, heq⟩ := hreplaces e
    refine ⟨?_, hkeeps e he.2⟩
    rw [heq]
    exact he.1.congr rfl rfl
  · intro s hs
    have hhears : Hears d s.device := by
      refine Session.open_induction hs ?_ ?_ ?_ ?_ ?_ (.refl d)
      · exact fun e he => he.trans (.createConfig e)
      · exact fun config e he => he.trans (.createContext config e)
      · exact fun context e he => he.trans (.queryFilters context e)
      · exact fun context e he => he.trans (.queryAlgorithms context e)
      · exact fun context algorithm e he => he.trans (.createFilter context algorithm {} e)
    exact ⟨(Housed.unused hd).hears hhears, h.hears hhears hP⟩

end Laws

end Display

end Va

end Deinterlace
