import Deinterlace.Proofs.Session.Agreement
import Deinterlace.Proofs.Simulator.Readiness

/-!
# Sessions on a simulated device

Opening a session on a simulated device at rest does nothing to it but make objects (`Grown`). If
the device offers what the selected mode asks for, a deinterlacing filter is among them, and once a
stream has been set up, the device is ready (`Session.setUp_reconfigure`).
-/
namespace Deinterlace

namespace Simulator

/-- From `d` to `later`, at most `count` handles have been given out and nothing else has changed.
Buffers that there were are still there. -/
structure Grown (d later : Simulator) (count : Nat) : Prop where
  atRest : later.AtRest
  filters_eq : later.filters = d.filters
  algorithms_eq : later.algorithms = d.algorithms
  caps_eq : later.caps = d.caps
  capacity_eq : later.poolCapacity = d.poolCapacity
  rendered_eq : later.rendered = d.rendered
  pools_eq : later.pools = d.pools
  leases_eq : later.leases = d.leases
  nextId_le : later.nextId ≤ d.nextId + count
  kept : ∀ id buffer, d.buffers.lookup id = some buffer → later.buffers.lookup id = some buffer

namespace Grown

variable {d later last : Simulator} {m n : Nat}

theorem mono (h : Grown d later m) (hle : m ≤ n) : Grown d later n :=
  { h with nextId_le := Nat.le_trans h.nextId_le (Nat.add_le_add_left hle _) }

theorem trans (h : Grown d later m) (h' : Grown later last n) : Grown d last (m + n) where
  atRest := h'.atRest
  filters_eq := h'.filters_eq.trans h.filters_eq
  algorithms_eq := h'.algorithms_eq.trans h.algorithms_eq
  caps_eq := h'.caps_eq.trans h.caps_eq
  capacity_eq := h'.capacity_eq.trans h.capacity_eq
  rendered_eq := h'.rendered_eq.trans h.rendered_eq
  pools_eq := h'.pools_eq.trans h.pools_eq
  leases_eq := h'.leases_eq.trans h.leases_eq
  nextId_le := by
    have hle := h.nextId_le
    have hle' := h'.nextId_le
    omega
  kept id buffer hfound := h'.kept id buffer (h.kept id buffer hfound)

/-- A call that takes `n` handles and may add a buffer under the first of them. -/
theorem of_made (h : d.AtRest) (history : List Call) (added : List (BufferId × Buffer))
    (hadded : ∀ entry ∈ added, entry.1.value < d.nextId + n) :
    Grown d { d with
      nextId := d.nextId + n, history := history, buffers := d.buffers ++ added } n where
  atRest := by
    refine ⟨h.failing, h.openPicture, ?_, h.lease_lt, h.pool_lt, h.distinct⟩
    intro entry hentry
    rcases List.mem_append.1 hentry with hentry | hentry
    · exact Nat.lt_of_lt_of_le (h.buffer_lt entry hentry) (Nat.le_add_right _ _)
    · exact hadded entry hentry
  filters_eq := rfl
  algorithms_eq := rfl
  caps_eq := rfl
  capacity_eq := rfl
  rendered_eq := rfl
  pools_eq := rfl
  leases_eq := rfl
  nextId_le := Nat.le_refl _
  kept id buffer hfound := by
    show (d.buffers ++ added).lookup id = some buffer
    rw [List.lookup_append, hfound]
    rfl

theorem of_noted (h : d.AtRest) (history : List Call) (n : Nat) :
    Grown d { d with nextId := d.nextId + n, history := history } n := by
  have hgrown := of_made (n := n) h history [] (by simp)
  rwa [List.append_nil] at hgrown

end Grown

variable {d later : Simulator}

theorem grown_of_createConfig (h : d.AtRest) {config : ConfigId}
    (heq : Device.createConfig d = (.ok config, later)) : Grown d later 1 := by
  have heq' : d.createConfig = (.ok config, later) := heq
  simp only [createConfig, fails_eq_false h.failing, Bool.false_eq_true, if_false] at heq'
  cases heq'
  exact .of_noted h _ 1

theorem grown_of_createContext (h : d.AtRest) {config : ConfigId} {context : ContextId}
    (heq : Device.createContext config d = (.ok context, later)) : Grown d later 1 := by
  have heq' : createContext config d = (.ok context, later) := heq
  simp only [createContext, fails_eq_false h.failing, Bool.false_eq_true, if_false] at heq'
  split at heq'
  · cases heq'
  · cases heq'
    exact .of_noted h _ 1

theorem exists_createConfig (h : d.AtRest) :
    ∃ later, Device.createConfig d = (.ok ⟨d.nextId⟩, later) ∧ Grown d later 1 := by
  refine ⟨_, ?_, .of_noted h (.createConfig ⟨d.nextId⟩ :: d.history) 1⟩
  show d.createConfig = _
  simp [createConfig, fails_eq_false h.failing, bump, record]

theorem exists_createContext (h : d.AtRest) {config : ConfigId} (hvalid : config.isValid = true) :
    ∃ later, Device.createContext config d = (.ok ⟨d.nextId⟩, later) ∧ Grown d later 1 := by
  refine ⟨_, ?_, .of_noted h (.createContext ⟨d.nextId⟩ :: d.history) 1⟩
  show createContext config d = _
  simp [createContext, fails_eq_false h.failing, hvalid, bump, record]

theorem queryFilters_eq (h : d.AtRest) (context : ContextId) :
    ∃ later, Device.queryFilters context d = (.ok d.filters, later) ∧ Grown d later 0 := by
  refine ⟨_, ?_, .of_noted h (.queryFilters :: d.history) 0⟩
  show d.queryFilters = _
  simp [queryFilters, fails, record, h.failing]

theorem queryAlgorithms_eq (h : d.AtRest) (context : ContextId) :
    ∃ later, Device.queryAlgorithms context d = (.ok d.algorithms, later) ∧ Grown d later 0 := by
  refine ⟨_, ?_, .of_noted h (.queryAlgorithms :: d.history) 0⟩
  show d.queryAlgorithms = _
  simp [queryAlgorithms, fails, record, h.failing]

theorem createFilter_eq (h : d.AtRest) (context : ContextId) {algorithm : Algorithm}
    (hoffered : algorithm ∈ d.algorithms) (flags : DeintFlags) :
    ∃ later, Device.createFilter context algorithm flags d = (.ok ⟨d.nextId⟩, later) ∧
      Grown d later 1 ∧ later.buffers.lookup ⟨d.nextId⟩ = some (.filter flags) := by
  refine ⟨_, ?_, .of_made h (.createFilter ⟨d.nextId⟩ :: d.history)
    [(⟨d.nextId⟩, .filter flags)] (by simp), ?_⟩
  · show createFilter algorithm flags d = _
    simp [createFilter, fails, h.failing, hoffered, bump, addBuffer, record]
  · refine lookup_concat_fresh (fun entry hentry heq => ?_) _
    have hlt := h.buffer_lt entry hentry
    rw [heq] at hlt
    exact Nat.lt_irrefl _ hlt

/-! ## Opening a session -/

theorem buildDeinterlacer_eq (h : d.AtRest) (context : ContextId) {mode : Mode}
    (henabled : mode.isEnabled = true) (hoffered : mode.algorithm ∈ d.algorithms) :
    ∃ descriptor later, Chain.buildDeinterlacer context mode d = (some descriptor, later) ∧
      Grown d later 1 ∧ ∃ flags, later.buffers.lookup descriptor.buffer = some (.filter flags) := by
  obtain ⟨asked, hasked, hgrown⟩ := queryAlgorithms_eq h context
  have hoffered' : mode.algorithm ∈ asked.algorithms := hgrown.algorithms_eq ▸ hoffered
  obtain ⟨later, hmade, hgrown', hfilter⟩ := createFilter_eq hgrown.atRest context hoffered' {}
  have hcontains : d.algorithms.contains mode.algorithm = true := by simpa using hoffered
  refine ⟨⟨⟨asked.nextId⟩, .deinterlacing, mode.algorithm⟩, later, ?_, hgrown.trans hgrown', {},
    hfilter⟩
  simp only [Chain.buildDeinterlacer, henabled, hasked, hcontains, hmade, Bool.not_true,
    Bool.false_eq_true, if_false]

/-- The filters that are made on opening, one for each time that deinterlacing is offered. -/
theorem buildDescriptors_eq (h : d.AtRest) (context : ContextId) {mode : Mode}
    (hoffered : mode.isEnabled = true → mode.algorithm ∈ d.algorithms) (filters : List FilterType) :
    ∃ descriptors later,
      Chain.buildDescriptors context mode filters d = (descriptors, later) ∧
      Grown d later (filters.count .deinterlacing) ∧
      (∀ x ∈ descriptors, ∃ flags, later.buffers.lookup x.buffer = some (.filter flags)) ∧
      descriptors.length = if mode.isEnabled then filters.count .deinterlacing else 0 := by
  induction filters generalizing d with
  | nil => exact ⟨[], d, rfl, .of_noted h d.history 0, by simp, by simp⟩
  | cons filter rest ih =>
    cases filter
    case deinterlacing =>
      cases henabled : mode.isEnabled with
      | false =>
        obtain ⟨descriptors, later, heq, hgrown, hfilters, hmade⟩ := ih h hoffered
        have hnone : Chain.buildDeinterlacer context mode d = (none, d) := by
          simp only [Chain.buildDeinterlacer, henabled, Bool.not_false, if_true]
        refine ⟨descriptors, later, ?_, hgrown.mono (by simp), hfilters, ?_⟩
        · simp only [Chain.buildDescriptors, hnone, heq]
          rfl
        · rw [hmade, henabled]
          rfl
      | true =>
        obtain ⟨first, between, hfirst, hgrown, flags, hlookup⟩ :=
          buildDeinterlacer_eq h context henabled (hoffered henabled)
        obtain ⟨descriptors, later, heq, hgrown', hfilters, hmade⟩ := ih hgrown.atRest fun hen =>
          hgrown.algorithms_eq ▸ hoffered hen
        refine ⟨first :: descriptors, later, ?_, (hgrown.trans hgrown').mono ?_, ?_, ?_⟩
        · simp only [Chain.buildDescriptors, hfirst, heq]
          rfl
        · rw [List.count_cons_self]
          omega
        · intro x hx
          rcases List.mem_cons.1 hx with rfl | hx
          · exact ⟨flags, hgrown'.kept _ _ hlookup⟩
          · exact hfilters x hx
        · rw [List.length_cons, hmade, henabled, List.count_cons_self]
          rfl
    all_goals
      obtain ⟨descriptors, later, heq, hgrown, hfilters, hmade⟩ := ih h hoffered
      exact ⟨descriptors, later, heq, hgrown.mono (by simp), hfilters, by simpa using hmade⟩

theorem ready_createPool (h : d.AtRest) (hroom : d.nextId < (Handle.invalid : SurfaceId).value)
    (hcapacity : 0 < d.poolCapacity) {desc : PoolDesc} {pool : PoolId}
    (heq : Device.createPool desc d = (.ok pool, later)) {filters : List BufferId}
    (hfilters : ∀ id ∈ filters, ∃ flags, d.buffers.lookup id = some (.filter flags)) :
    pool = d.pools.length ∧
      later.Ready ⟨pool, desc, filters, d.caps, d.leases.nextKey⟩ [] d.rendered := by
  have heq' : createPool desc d = (.ok pool, later) := heq
  simp only [createPool, fails_eq_false h.failing, Bool.false_eq_true, if_false] at heq'
  cases heq'
  refine ⟨rfl, ⟨h.failing, h.openPicture, h.buffer_lt, h.lease_lt, ?_, h.distinct⟩, rfl, rfl,
    hfilters, ?_, ?_, ?_, Nat.le_refl _⟩
  · intro l hl
    have hlt := h.pool_lt l hl
    show l.pool < (d.pools ++ [_]).length
    rw [List.length_append]
    exact Nat.lt_add_right _ hlt
  · refine ⟨{ desc := desc, capacity := d.poolCapacity }, ?_, ⟨rfl, hcapacity, rfl, ?_⟩,
      fun _ => hroom⟩
    · exact List.getElem?_concat_length
    · intro id hid
      cases hid
  · show d.leases.live.filter (·.pool == d.pools.length) = []
    rw [List.filter_eq_nil_iff]
    intro l hl heq
    have hlt := h.pool_lt l hl
    rw [beq_iff_eq.1 heq] at hlt
    exact Nat.lt_irrefl _ hlt
  · intro l hl
    cases hl

end Simulator

namespace Session

open Simulator

/-- What a session is set up for that has been opened on a device that is at rest and offers what
the mode asks for. -/
structure SetUp (s : Session Simulator) (o : Options) (u : Setup) (rendered : List Submission) :
    Prop where
  options_eq : s.chain.options = o
  deinterlacing_eq : s.deinterlacing = o.mode.isEnabled
  pool_eq : s.pool = some u.pool
  filters_eq : s.chain.filtersFor true = u.filters
  filters_ne : u.filters ≠ [] ↔ o.mode.isEnabled = true
  ready : s.device.Ready u [] rendered

/-- Opening a session leaves the device at rest, with the filters that were made. -/
theorem grown_of_open {o : Options} {d : Simulator} {s : Session Simulator} (h : d.AtRest)
    (hoffered : o.mode.isEnabled = true → o.mode.algorithm ∈ d.algorithms)
    (hopen : open? o d = .ok s) :
    Grown d s.device (d.filters.count .deinterlacing + 2) ∧
      (∀ id ∈ s.chain.filtersFor true,
        ∃ flags, s.device.buffers.lookup id = some (.filter flags)) ∧
      (s.chain.filtersFor true).length =
        if o.mode.isEnabled then d.filters.count .deinterlacing else 0 := by
  obtain ⟨config, d₁, context, d₂, available, d₃, descriptors, later, hconfig, hcontext, hasked,
    hbuild, rfl⟩ := eq_of_open hopen
  have hgrown₁ := grown_of_createConfig h hconfig
  have hgrown₂ := hgrown₁.trans (grown_of_createContext hgrown₁.atRest hcontext)
  obtain ⟨asked, hasked', hgrown₃⟩ := queryFilters_eq hgrown₂.atRest context
  rw [hasked'] at hasked
  cases hasked
  have hgrown₃ := hgrown₂.trans hgrown₃
  have hoffered₃ : o.mode.isEnabled = true → o.mode.algorithm ∈ d₃.algorithms :=
    fun hen => hgrown₃.algorithms_eq ▸ hoffered hen
  obtain ⟨made, grown, hmade, hgrown₄, hlookup, hlength⟩ :=
    buildDescriptors_eq hgrown₃.atRest context hoffered₃ d₂.filters
  rw [hmade] at hbuild
  cases hbuild
  have hgrown := hgrown₃.trans hgrown₄
  rw [hgrown₂.filters_eq] at hgrown hlength
  refine ⟨hgrown.mono (by omega), ?_, ?_⟩
  · intro id hid
    rw [Chain.filtersFor_true] at hid
    obtain ⟨x, hx, rfl⟩ := List.mem_map.1 hid
    exact hlookup x hx
  · rw [Chain.filtersFor_true, List.length_map]
    exact hlength

/-- **A session that has been opened and set up for a stream has a device that is ready.** -/
theorem setUp_reconfigure {o : Options} {d : Simulator} {s : Session Simulator}
    {params out : StreamParams} (h : d.AtRest)
    (hids : d.nextId + d.filters.count .deinterlacing + 2 < (Handle.invalid : SurfaceId).value)
    (hdeinterlacing : .deinterlacing ∈ d.filters)
    (hoffered : o.mode.isEnabled = true → o.mode.algorithm ∈ d.algorithms)
    (hcapacity : 0 < d.poolCapacity) (hopen : open? o d = .ok s)
    (hout : (s.reconfigure params).1 = .ok out) :
    ∃ desc, poolFor params = some desc ∧ SetUp (s.reconfigure params).2 o
      ⟨d.pools.length, desc, s.chain.filtersFor true, d.caps, d.leases.nextKey⟩ d.rendered := by
  obtain ⟨hgrown, hlookup, hlength⟩ := grown_of_open h hoffered hopen
  have hfresh : s.forget.device = s.device ∧ s.chain.options = o ∧
      s.deinterlacing = o.mode.isEnabled := by
    obtain ⟨config, d₁, context, d₂, available, d₃, descriptors, later, -, -, -, -, rfl⟩ :=
      eq_of_open hopen
    exact ⟨rfl, rfl, rfl⟩
  obtain ⟨hforget, hoptions, hon⟩ := hfresh
  have hchain := s.chain_forget
  rcases s.reconfigure_cases params with ⟨e, device, heq⟩ | ⟨desc, pool, device, hdesc, hmade, heq⟩
  · rw [heq] at hout
    cases hout
  · have hroom : s.device.nextId < (Handle.invalid : SurfaceId).value := by
      have hle := hgrown.nextId_le
      omega
    have hcapacity' : 0 < s.device.poolCapacity := hgrown.capacity_eq ▸ hcapacity
    rw [hforget] at hmade
    obtain ⟨rfl, hready⟩ := ready_createPool hgrown.atRest hroom hcapacity' hmade hlookup
    rw [hgrown.pools_eq, hgrown.caps_eq, hgrown.leases_eq, hgrown.rendered_eq] at hready
    refine ⟨desc, hdesc, ?_⟩
    rw [heq]
    refine ⟨?_, ?_, ?_, ?_, ?_, hready⟩
    · exact (congrArg (·.options) hchain).trans hoptions
    · exact s.deinterlacing_forget.trans hon
    · exact congrArg (fun pools => some pools.length) hgrown.pools_eq
    · exact congrArg (·.filtersFor true) hchain
    · have hcount := List.count_pos_iff.2 hdeinterlacing
      show s.chain.filtersFor true ≠ [] ↔ _
      rw [← List.length_pos_iff, hlength]
      cases o.mode.isEnabled <;> simp [hcount]

end Session

end Deinterlace
