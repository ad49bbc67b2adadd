import Deinterlace.Proofs.Session.Call
import Deinterlace.Proofs.Simulator.Submission

/-!
# What calls do to a simulated device

Each operation of the simulated device has few outcomes, and the lemmas here list them with all that
they leave behind. Most operations are none of the pools' business (`Simulator.Quiet`), and what is
quiet in single calls is so in a whole submission (`Simulator.quiet_submit`).
-/
namespace Deinterlace

namespace Simulator

/-! ## The outcomes of single calls -/

section Outcomes

variable (context : ContextId) (d : Simulator)

theorem createConfig_cases :
    (∃ e, Device.createConfig d = (.error e, d)) ∨
      Device.createConfig d = (.ok ⟨d.nextId⟩, d.bump.record (.createConfig ⟨d.nextId⟩)) := by
  show (∃ e, createConfig d = _) ∨ createConfig d = _
  unfold createConfig
  split
  · exact .inl ⟨_, rfl⟩
  · exact .inr rfl

theorem createContext_cases (config : ConfigId) :
    (∃ e, Device.createContext config d = (.error e, d)) ∨
      Device.createContext config d =
        (.ok ⟨d.nextId⟩, d.bump.record (.createContext ⟨d.nextId⟩)) := by
  show (∃ e, createContext config d = _) ∨ createContext config d = _
  unfold createContext
  split
  · exact .inl ⟨_, rfl⟩
  · split
    · exact .inl ⟨_, rfl⟩
    · exact .inr rfl

theorem queryFilters_snd : (Device.queryFilters context d).2 = d.record .queryFilters := by
  show (queryFilters d).2 = _
  unfold queryFilters
  dsimp only
  split <;> rfl

theorem queryAlgorithms_snd : (Device.queryAlgorithms context d).2 = d.record .queryAlgorithms := by
  show (queryAlgorithms d).2 = _
  unfold queryAlgorithms
  dsimp only
  split <;> rfl

theorem createFilter_cases (algorithm : Algorithm) (flags : DeintFlags) :
    (∃ e next, d.nextId ≤ next ∧
      Device.createFilter context algorithm flags d = (.error e, { d with nextId := next })) ∨
      Device.createFilter context algorithm flags d = (.ok ⟨d.nextId⟩,
        (d.bump.addBuffer ⟨d.nextId⟩ (.filter flags)).record (.createFilter ⟨d.nextId⟩)) := by
  show (∃ e next, _ ∧ createFilter algorithm flags d = _) ∨ createFilter algorithm flags d = _
  unfold createFilter
  split
  · exact .inl ⟨_, d.nextId, Nat.le_refl _, rfl⟩
  · split
    · exact .inl ⟨_, d.nextId + 1, Nat.le_succ _, rfl⟩
    · exact .inr rfl

theorem queryCaps_eq (filters : List BufferId) :
    Device.queryCaps context filters d =
      (if d.fails .queryPipelineCaps then .error (injected .queryPipelineCaps) else .ok d.caps,
        d.record (.queryCaps filters)) := by
  show queryCaps filters d = _
  have hfails : (d.record (.queryCaps filters)).fails .queryPipelineCaps =
    d.fails .queryPipelineCaps := rfl
  unfold queryCaps
  dsimp only
  rw [hfails]
  split <;> rfl

theorem beginPicture_cases (target : SurfaceId) :
    (∃ e, Device.beginPicture context target d = (.error e, d)) ∨
      Device.beginPicture context target d =
        (.ok (), record (.beginPicture target) { d with openPicture := some target }) := by
  show (∃ e, beginPicture target d = _) ∨ beginPicture target d = _
  unfold beginPicture
  split
  · exact .inl ⟨_, rfl⟩
  · split
    · exact .inl ⟨_, rfl⟩
    · split
      · exact .inl ⟨_, rfl⟩
      · exact .inr rfl

theorem updateFlags_cases (id : BufferId) (flags : DeintFlags) :
    (∃ e, Device.updateFlags id flags d = (.error e, d)) ∨
      Device.updateFlags id flags d =
        (.ok (), (d.setBuffer id (.filter flags)).record (.updateFlags id flags)) := by
  show (∃ e, updateFlags id flags d = _) ∨ updateFlags id flags d = _
  unfold updateFlags
  split
  · exact .inl ⟨_, rfl⟩
  · split
    · exact .inr rfl
    · exact .inl ⟨_, rfl⟩

theorem createRequest_cases (request : RenderRequest) :
    (∃ e, Device.createRequest context request d = (.error e, d)) ∨
      Device.createRequest context request d = (.ok ⟨d.nextId⟩,
        (d.bump.addBuffer ⟨d.nextId⟩ (.request request)).record (.createRequest ⟨d.nextId⟩)) := by
  show (∃ e, createRequest request d = _) ∨ createRequest request d = _
  unfold createRequest
  split
  · exact .inl ⟨_, rfl⟩
  · exact .inr rfl

theorem submitAll_snd (ids : List BufferId) :
    ∃ rendered, (submitAll ids d).2 = { d with rendered := rendered } := by
  induction ids generalizing d with
  | nil => exact ⟨d.rendered, rfl⟩
  | cons id rest ih =>
    unfold submitAll
    split
    · exact ih _
    · exact ⟨d.rendered, rfl⟩

theorem renderPicture_snd (ids : List BufferId) :
    ∃ rendered, (Device.renderPicture context ids d).2 =
      { d.record (.renderPicture ids) with rendered := rendered } := by
  show ∃ rendered, (renderPicture ids d).2 = _
  unfold renderPicture
  dsimp only
  split
  · exact ⟨d.rendered, rfl⟩
  · split
    · exact ⟨d.rendered, rfl⟩
    · exact submitAll_snd _ ids

theorem endPicture_snd : (Device.endPicture context d).2 =
    if d.openPicture.isSome then record .endPicture { d with openPicture := none } else d := by
  show (endPicture d).2 = _
  unfold endPicture pictureOpen
  cases d.openPicture.isSome with
  | false => rfl
  | true =>
    simp only [Bool.not_true, Bool.false_eq_true, if_false, if_true]
    split <;> rfl

theorem createPool_cases (desc : PoolDesc) :
    (∃ e, Device.createPool desc d = (.error e, d)) ∨
      Device.createPool desc d = (.ok d.pools.length, record (.createPool desc)
        { d with pools := d.pools ++ [{ desc := desc, capacity := d.poolCapacity }] }) := by
  show (∃ e, createPool desc d = _) ∨ createPool desc d = _
  unfold createPool
  split
  · exact .inl ⟨_, rfl⟩
  · exact .inr rfl

/-- The outcomes of taking a surface: there is none, one off the shelf, or a new one. -/
theorem allocate_cases (pool : PoolId) :
    (∃ e, Device.allocate pool d = (.error e, d) ∧ (d.fails .alloc = true ∨
      ∀ p, d.pools[pool]? = some p → p.free = [] ∧ p.capacity ≤ p.allocated)) ∨
    (∃ p id rest, d.pools[pool]? = some p ∧ p.free = id :: rest ∧ d.fails .alloc = false ∧
      Device.allocate pool d =
        (d.modifyPool pool fun p => { p with free := rest }).lend pool p.desc id) ∨
    (∃ p, d.pools[pool]? = some p ∧ p.free = [] ∧ p.allocated < p.capacity ∧
      d.fails .alloc = false ∧ Device.allocate pool d =
        (d.modifyPool pool fun p => { p with allocated := p.allocated + 1 }).bump.lend pool p.desc
          ⟨d.nextId⟩) := by
  show (∃ e, allocate pool d = _ ∧ _) ∨ (∃ p id rest, _ ∧ _ ∧ _ ∧ allocate pool d = _) ∨
    (∃ p, _ ∧ _ ∧ _ ∧ _ ∧ allocate pool d = _)
  unfold allocate
  dsimp only
  cases hfails : d.fails .alloc with
  | true => exact .inl ⟨_, rfl, .inl rfl⟩
  | false =>
    simp only [Bool.false_eq_true, if_false, false_or]
    cases hpool : d.pools[pool]? with
    | none => exact .inl ⟨_, rfl, fun p hp => by cases hp⟩
    | some p =>
      cases hfree : p.free with
      | cons id rest => exact .inr (.inl ⟨p, id, rest, rfl, hfree, trivial, by simp only [hfree]⟩)
      | nil =>
        by_cases hroom : p.allocated < p.capacity
        · exact .inr (.inr ⟨p, rfl, hfree, hroom, trivial, by simp only [hfree, if_pos hroom]⟩)
        · refine .inl ⟨⟨EntryPoint.alloc.name, 2, "pool exhausted"⟩,
            by simp only [hfree, if_neg hroom], ?_⟩
          intro q hq
          cases hq
          exact ⟨hfree, Nat.le_of_not_lt hroom⟩

theorem upload_cases (pool : PoolId) (target : Surface) (frame : Frame) :
    (∃ e, Device.upload pool target frame d = (.error e, d)) ∨
      Device.upload pool target frame d = (.ok (), d.record (.upload target.id)) := by
  show (∃ e, upload target frame d = _) ∨ upload target frame d = _
  unfold upload
  split
  · exact .inl ⟨_, rfl⟩
  · split
    · exact .inr rfl
    · exact .inl ⟨_, rfl⟩

end Outcomes

/-! ## Devices from outside -/

/-- Nothing has been made on the device, and nothing has been asked of it. -/
structure Unused (d : Simulator) : Prop where
  nextId : d.nextId = 0x10
  history : d.history = []
  buffers : d.buffers = []
  openPicture : d.openPicture = none
  pools : d.pools = []
  leases : d.leases = {}

/-- Another choice of the calls that fail. -/
def Injects (change : Simulator → Simulator) : Prop := ∀ d, ∃ failing, change d = { d with failing }

/-! ## Quiet calls -/

/-- A call has changed nothing of the pools and the leases, nor of what the device offers. -/
structure Quiet (d later : Simulator) : Prop where
  caps_eq : later.caps = d.caps
  failing_eq : later.failing = d.failing
  pools_eq : later.pools = d.pools
  leases_eq : later.leases = d.leases
  nextId_le : d.nextId ≤ later.nextId

namespace Quiet

variable {d middle later : Simulator}

theorem refl (d : Simulator) : Quiet d d := ⟨rfl, rfl, rfl, rfl, Nat.le_refl _⟩

theorem trans (h : Quiet d middle) (hlater : Quiet middle later) : Quiet d later :=
  ⟨hlater.caps_eq.trans h.caps_eq, hlater.failing_eq.trans h.failing_eq,
    hlater.pools_eq.trans h.pools_eq, hlater.leases_eq.trans h.leases_eq,
    Nat.le_trans h.nextId_le hlater.nextId_le⟩

theorem record (d : Simulator) (call : Call) : Quiet d (d.record call) :=
  ⟨rfl, rfl, rfl, rfl, Nat.le_refl _⟩

end Quiet

theorem quiet_submit (context : ContextId) (buffer : Option BufferId) (flags : DeintFlags)
    (request : RenderRequest) (d : Simulator) :
    Quiet d (Rendering.submit context buffer flags request d).2 := by
  refine Rendering.submit_induction ?_ ?_ ?_ ?_ ?_ ?_ buffer flags request (Quiet.refl d)
  · intro target e he
    rcases beginPicture_cases context e target with ⟨error, heq⟩ | heq <;> rw [heq]
    · exact he
    · exact he.trans ⟨rfl, rfl, rfl, rfl, Nat.le_refl _⟩
  · intro id flags e he
    rcases updateFlags_cases e id flags with ⟨error, heq⟩ | heq <;> rw [heq]
    · exact he
    · exact he.trans ⟨rfl, rfl, rfl, rfl, Nat.le_refl _⟩
  · intro request e he
    rcases createRequest_cases context e request with ⟨error, heq⟩ | heq <;> rw [heq]
    · exact he
    · exact he.trans ⟨rfl, rfl, rfl, rfl, Nat.le_succ _⟩
  · intro ids e he
    obtain ⟨rendered, heq⟩ := renderPicture_snd context e ids
    rw [heq]
    exact he.trans ⟨rfl, rfl, rfl, rfl, Nat.le_refl _⟩
  · intro e he
    rw [endPicture_snd]
    split
    · exact he.trans ⟨rfl, rfl, rfl, rfl, Nat.le_refl _⟩
    · exact he
  · intro id e he
    exact he.trans ⟨rfl, rfl, rfl, rfl, Nat.le_refl _⟩

end Simulator

end Deinterlace
