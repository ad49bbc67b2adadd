import Deinterlace.Proofs.Session.Custody
import Deinterlace.Proofs.Simulator.Effects
import Deinterlace.Proofs.Simulator.Lifetimes

/-!
# The ledger of a simulated device

`Simulator.Books` ties the log of a simulated device to what is on the device. In the hands of a
session that is the configuration, the context and the filters, and no picture is open
(`Simulator.Ordered`); the device upholds this (`Simulator.upholds_ordered`), and it holds on
opening (`Simulator.ordered_of_open`).
-/
namespace Deinterlace

/-- What a session makes on opening, in the order in which it is destroyed. -/
def Fixtures.resources (u : Fixtures) : List Simulator.Resource :=
  u.filters.map .buffer ++ [.context u.context, .config u.config]

namespace Simulator

/-- What is there according to the log, and no number is given twice. -/
structure Books (live : List Resource) (isOpen : Bool) (d : Simulator) : Prop where
  kept : Kept live isOpen d.calls
  made_lt : ∀ call ∈ d.calls, ∀ r, call.makes? = some r → r.number < d.nextId
  buffers_perm : (d.buffers.map (·.1)).Perm (live.filterMap Resource.buffer?)

theorem calls_of_history {d later : Simulator} {call : Call}
    (h : later.history = call :: d.history) : later.calls = d.calls ++ [call] := by
  rw [calls, calls, h, List.reverse_cons]

theorem Unused.books {d : Simulator} (h : d.Unused) : d.Books [] false := by
  have hcalls : d.calls = [] := by rw [calls, h.history, List.reverse_nil]
  refine ⟨hcalls ▸ .nil, ?_, ?_⟩
  · rw [hcalls]
    intro call hcall
    cases hcall
  · rw [h.buffers]
    exact .nil

namespace Books

variable {live : List Resource} {isOpen : Bool} {d later : Simulator} {call : Call} {r : Resource}

theorem perm (h : d.Books live isOpen) {others : List Resource} (hperm : live.Perm others) :
    d.Books others isOpen :=
  ⟨h.kept.perm hperm, h.made_lt, h.buffers_perm.trans (hperm.filterMap _)⟩

theorem keep (h : d.Books live isOpen) (hhistory : later.history = d.history)
    (hbuffers : later.buffers = d.buffers) (hnext : d.nextId ≤ later.nextId) :
    later.Books live isOpen := by
  have hcalls : later.calls = d.calls := by rw [calls, calls, hhistory]
  refine ⟨hcalls ▸ h.kept, ?_, hbuffers ▸ h.buffers_perm⟩
  rw [hcalls]
  exact fun call hcall r hr => Nat.lt_of_lt_of_le (h.made_lt call hcall r hr) hnext

theorem record (h : d.Books live isOpen) {others : List Resource} {isOpen' : Bool}
    (hhistory : later.history = call :: d.history) (hnext : d.nextId ≤ later.nextId)
    (hmakes : ∀ r, call.makes? = some r → r.number < later.nextId)
    (hbuffers : (later.buffers.map (·.1)).Perm (others.filterMap Resource.buffer?))
    (hkept : Kept others isOpen' (d.calls ++ [call])) : later.Books others isOpen' := by
  have hcalls := calls_of_history hhistory
  refine ⟨hcalls ▸ hkept, ?_, hbuffers⟩
  rw [hcalls]
  intro entry hentry r hr
  rcases List.mem_append.1 hentry with hentry | hentry
  · exact Nat.lt_of_lt_of_le (h.made_lt entry hentry r hr) hnext
  · rw [List.mem_singleton.1 hentry] at hr
    exact hmakes r hr

theorem noted (h : d.Books live isOpen) (hhistory : later.history = call :: d.history)
    (hbuffers : later.buffers.map (·.1) = d.buffers.map (·.1)) (hnext : d.nextId ≤ later.nextId)
    (hmakes : call.makes? = none) (hdestroys : call.destroys? = none)
    (hpool : call.opensPool? = none) (huses : ∀ r ∈ call.uses, r ∈ live) :
    later.Books live isOpen := by
  refine h.record hhistory hnext ?_ ?_ (h.kept.noted hmakes hdestroys hpool huses)
  · intro r hr
    cases hmakes.symm.trans hr
  · rw [hbuffers]
    exact h.buffers_perm

/-- A call that makes something gives it the next number. -/
theorem made (h : d.Books live isOpen) (hhistory : later.history = call :: d.history)
    (hbuffers : later.buffers.map (·.1) = d.buffers.map (·.1) ++ r.buffer?.toList)
    (hnext : later.nextId = d.nextId + 1) (hmakes : call.makes? = some r)
    (hnumber : r.number = d.nextId) : later.Books (r :: live) isOpen := by
  refine h.record hhistory (by omega) ?_ ?_ (h.kept.made hmakes ?_)
  · intro other hother
    cases hmakes.symm.trans hother
    omega
  · have hview : (r :: live).filterMap Resource.buffer? =
        r.buffer?.toList ++ live.filterMap Resource.buffer? := by
      rw [List.filterMap_cons]
      cases r.buffer? <;> rfl
    rw [hbuffers, hview]
    exact List.perm_append_comm.trans (h.buffers_perm.append_left _)
  · intro earlier hearlier hagain
    -- all earlier numbers are less than the next one
    have hlt := h.made_lt earlier hearlier r hagain
    omega

theorem destroyed (h : d.Books (r :: live) isOpen) (hhistory : later.history = call :: d.history)
    (hbuffers : (later.buffers.map (·.1)).Perm (live.filterMap Resource.buffer?))
    (hnext : d.nextId ≤ later.nextId) (hdestroys : call.destroys? = some r) :
    later.Books live isOpen := by
  refine h.record hhistory hnext ?_ hbuffers (h.kept.destroyed hdestroys)
  intro other hother
  cases (Call.destroys?_of_makes? hother).symm.trans hdestroys

theorem pooled (h : d.Books live (!isOpen)) (hhistory : later.history = call :: d.history)
    (hbuffers : later.buffers = d.buffers) (hnext : later.nextId = d.nextId)
    (hpool : call.opensPool? = some isOpen) : later.Books live isOpen := by
  have hmakes : call.makes? = none := by cases call <;> first | rfl | cases hpool
  refine h.record hhistory (Nat.le_of_eq hnext.symm) ?_ (hbuffers ▸ h.buffers_perm)
    (h.kept.pooled hpool)
  intro r hr
  cases hmakes.symm.trans hr

/-! ## Objects -/

theorem createConfig (h : d.Books live isOpen) : (Device.createConfig d).2.Books
    (((Device.createConfig d).1.toOption.map Resource.config).toList ++ live) isOpen := by
  rcases createConfig_cases d with ⟨e, heq⟩ | heq <;> rw [heq]
  · exact h
  · exact h.made rfl (List.append_nil _).symm rfl rfl rfl

theorem createContext (h : d.Books live isOpen) (config : ConfigId) :
    (Device.createContext config d).2.Books
      (((Device.createContext config d).1.toOption.map Resource.context).toList ++ live)
      isOpen := by
  rcases createContext_cases d config with ⟨e, heq⟩ | heq <;> rw [heq]
  · exact h
  · exact h.made rfl (List.append_nil _).symm rfl rfl rfl

theorem createFilter (h : d.Books live isOpen) (context : ContextId) (algorithm : Algorithm)
    (flags : DeintFlags) : (Device.createFilter context algorithm flags d).2.Books
      (((Device.createFilter context algorithm flags d).1.toOption.map Resource.buffer).toList ++
        live) isOpen := by
  rcases createFilter_cases context d algorithm flags with ⟨e, next, hle, heq⟩ | heq <;> rw [heq]
  · exact h.keep rfl rfl hle
  · exact h.made rfl List.map_append rfl rfl rfl

theorem createRequest (h : d.Books live isOpen) (context : ContextId) (request : RenderRequest) :
    (Device.createRequest context request d).2.Books
      (((Device.createRequest context request d).1.toOption.map Resource.buffer).toList ++ live)
      isOpen := by
  rcases createRequest_cases context d request with ⟨e, heq⟩ | heq <;> rw [heq]
  · exact h
  · exact h.made rfl List.map_append rfl rfl rfl

theorem destroyBuffer {id : BufferId} (h : d.Books (.buffer id :: live) isOpen) :
    (Device.destroyBuffer id d).Books live isOpen := by
  have hview : (Resource.buffer id :: live).filterMap Resource.buffer? =
    id :: live.filterMap Resource.buffer? := rfl
  -- the buffer is there once, so taking its number out takes nothing else out
  have hothers : ∀ other ∈ live.filterMap Resource.buffer?, other ≠ id := by
    rintro other hother rfl
    obtain ⟨r, hr, hbuffer⟩ := List.mem_filterMap.1 hother
    cases r <;> cases hbuffer
    exact (List.nodup_cons.1 h.kept.nodup).1 hr
  refine h.destroyed rfl ?_ (Nat.le_refl _) rfl
  show ((d.buffers.filter (·.1 != id)).map (·.1)).Perm _
  have hcomm : (d.buffers.filter (·.1 != id)).map (·.1) =
      (d.buffers.map (·.1)).filter (· != id) := by
    rw [List.filter_map]
    rfl
  have hkept : (live.filterMap Resource.buffer?).filter (· != id) =
      live.filterMap Resource.buffer? :=
    List.filter_eq_self.2 fun other hother => bne_iff_ne.2 (hothers other hother)
  have hfiltered := h.buffers_perm.filter (· != id)
  rw [hview, List.filter_cons_of_neg (by simp), hkept] at hfiltered
  rw [hcomm]
  exact hfiltered

theorem destroyContext {context : ContextId} (h : d.Books (.context context :: live) isOpen) :
    (Device.destroyContext context d).Books live isOpen :=
  h.destroyed rfl h.buffers_perm (Nat.le_refl _) rfl

theorem destroyConfig {config : ConfigId} (h : d.Books (.config config :: live) isOpen) :
    (Device.destroyConfig config d).Books live isOpen :=
  h.destroyed rfl h.buffers_perm (Nat.le_refl _) rfl

theorem queryFilters (h : d.Books live isOpen) (context : ContextId) :
    (Device.queryFilters context d).2.Books live isOpen := by
  rw [queryFilters_snd]
  exact h.noted rfl rfl (Nat.le_refl _) rfl rfl rfl (by simp [Call.uses])

theorem queryAlgorithms (h : d.Books live isOpen) (context : ContextId) :
    (Device.queryAlgorithms context d).2.Books live isOpen := by
  rw [queryAlgorithms_snd]
  exact h.noted rfl rfl (Nat.le_refl _) rfl rfl rfl (by simp [Call.uses])

/-! ## Pictures -/

theorem beginPicture (h : d.Books live isOpen) (context : ContextId) (target : SurfaceId) :
    (Device.beginPicture context target d).2.Books live isOpen := by
  rcases beginPicture_cases context d target with ⟨e, heq⟩ | heq <;> rw [heq]
  · exact h
  · exact h.noted rfl rfl (Nat.le_refl _) rfl rfl rfl (by simp [Call.uses])

theorem applyFlags (h : d.Books live isOpen) {buffer : Option BufferId}
    (hbuffer : ∀ id, buffer = some id → .buffer id ∈ live) (flags : DeintFlags) :
    (Rendering.applyFlags buffer flags d).2.Books live isOpen := by
  cases buffer with
  | none => exact h
  | some id =>
    show (Device.updateFlags id flags d).2.Books live isOpen
    rcases updateFlags_cases d id flags with ⟨e, heq⟩ | heq <;> rw [heq]
    · exact h
    · refine h.noted rfl ?_ (Nat.le_refl _) rfl rfl rfl ?_
      · show (d.buffers.map fun entry => if entry.1 = id then (id, Buffer.filter flags) else
          entry).map (·.1) = _
        rw [List.map_map]
        refine List.map_congr_left fun entry _ => ?_
        show (if entry.1 = id then (id, Buffer.filter flags) else entry).1 = entry.1
        split
        · rename_i heq
          exact heq.symm
        · rfl
      · intro r hr
        rw [List.mem_singleton.1 hr]
        exact hbuffer id rfl

theorem renderPicture (h : d.Books live isOpen) (context : ContextId) {ids : List BufferId}
    (hids : ∀ id ∈ ids, .buffer id ∈ live) :
    (Device.renderPicture context ids d).2.Books live isOpen := by
  obtain ⟨rendered, heq⟩ := renderPicture_snd context d ids
  rw [heq]
  refine h.noted rfl rfl (Nat.le_refl _) rfl rfl rfl ?_
  intro r hr
  obtain ⟨id, hid, rfl⟩ := List.mem_map.1 hr
  exact hids id hid

theorem endPicture (h : d.Books live isOpen) (context : ContextId) :
    (Device.endPicture context d).2.Books live isOpen := by
  rw [endPicture_snd]
  split
  · exact h.noted rfl rfl (Nat.le_refl _) rfl rfl rfl (by simp [Call.uses])
  · exact h

/-- The buffer of a request does not outlive its submission. -/
theorem submit (h : d.Books live isOpen) (context : ContextId) {buffer : Option BufferId}
    (hbuffer : ∀ id, buffer = some id → .buffer id ∈ live) (flags : DeintFlags)
    (request : RenderRequest) :
    (Rendering.submit context buffer flags request d).2.Books live isOpen := by
  have hbegun := h.beginPicture context request.destination
  rcases Rendering.submit_cases context buffer flags request d with ⟨e, d₁, h₁, heq⟩ |
    ⟨d₁, e, d₂, h₁, h₂, heq⟩ | ⟨d₁, d₂, e, d₃, h₁, h₂, h₃, heq⟩ |
    ⟨d₁, d₂, id, d₃, result, d₄, h₁, h₂, h₃, h₄, heq⟩ <;> rw [heq] <;> rw [h₁] at hbegun
  · exact hbegun
  all_goals
    have hset := hbegun.applyFlags hbuffer flags
    rw [h₂] at hset
  · exact hset.endPicture context
  all_goals
    have hmade := hset.createRequest context request
    rw [h₃] at hmade
  · exact hmade.endPicture context
  · have hids : ∀ other ∈ [id], Resource.buffer other ∈ Resource.buffer id :: live := by
      intro other hother
      rw [List.mem_singleton.1 hother]
      exact List.mem_cons_self
    have hdone := hmade.renderPicture context hids
    rw [h₄] at hdone
    exact (hdone.endPicture context).destroyBuffer

/-! ## Pools and surfaces -/

theorem createPool (h : d.Books live false) (desc : PoolDesc) :
    (Device.createPool desc d).2.Books live (Device.createPool desc d).1.toOption.isSome := by
  rcases createPool_cases d desc with ⟨e, heq⟩ | heq <;> rw [heq]
  · exact h
  · exact Books.pooled h rfl rfl rfl rfl

theorem closePool (h : d.Books live true) (pool : PoolId) :
    (Device.closePool pool d).Books live false :=
  Books.pooled h rfl rfl rfl rfl

theorem allocate (h : d.Books live isOpen) (pool : PoolId) :
    (Device.allocate pool d).2.Books live isOpen := by
  rcases allocate_cases d pool with ⟨e, heq, -⟩ | ⟨p, id, rest, -, -, -, heq⟩ |
    ⟨p, -, -, -, -, heq⟩ <;> rw [heq]
  · exact h
  · exact h.noted rfl rfl (Nat.le_refl _) rfl rfl rfl (by simp [Call.uses])
  · exact h.noted rfl rfl (Nat.le_succ _) rfl rfl rfl (by simp [Call.uses])

theorem upload (h : d.Books live isOpen) (pool : PoolId) (target : Surface) (frame : Frame) :
    (Device.upload pool target frame d).2.Books live isOpen := by
  rcases upload_cases d pool target frame with ⟨e, heq⟩ | heq <;> rw [heq]
  · exact h
  · exact h.noted rfl rfl (Nat.le_refl _) rfl rfl rfl (by simp [Call.uses])

theorem release (h : d.Books live isOpen) (key : LeaseId) :
    (Device.release key d).Books live isOpen := by
  show (Simulator.release key d).Books live isOpen
  unfold Simulator.release
  rcases d.leases.release? key with ⟨_ | lease, leases⟩ <;>
    exact h.keep rfl rfl (Nat.le_refl _)

end Books

/-! ## In the hands of a session -/

/-- Once a submission is over, its picture has been ended. -/
theorem openPicture_submit (context : ContextId) (buffer : Option BufferId) (flags : DeintFlags)
    (request : RenderRequest) {d : Simulator} (h : d.openPicture = none) :
    (Rendering.submit context buffer flags request d).2.openPicture = none := by
  have hended : ∀ d : Simulator, (Device.endPicture context d).2.openPicture = none := by
    intro d
    rw [endPicture_snd]
    cases hopen : d.openPicture with
    | none => exact hopen
    | some target => rfl
  rcases Rendering.submit_cases context buffer flags request d with ⟨e, d₁, h₁, heq⟩ |
    ⟨d₁, e, d₂, -, -, heq⟩ | ⟨d₁, d₂, e, d₃, -, -, -, heq⟩ |
    ⟨d₁, d₂, id, d₃, result, d₄, -, -, -, -, heq⟩ <;> rw [heq]
  · rcases beginPicture_cases context d request.destination with ⟨e', hbegin⟩ | hbegin <;>
      cases h₁.symm.trans hbegin
    exact h
  · exact hended d₂
  · exact hended d₃
  · exact hended d₄

/-- There is what the session has made on opening, and no picture is open. -/
structure Ordered (u : Fixtures) (pool : Option PoolId) (d : Simulator) : Prop where
  closed : d.openPicture = none
  books : d.Books u.resources pool.isSome

theorem upholds_ordered (u : Fixtures) :
    Device.Upholds u (fun pool _ (d : Simulator) => d.Ordered u pool) where
  perm _ h := h
  retain _ h := ⟨h.closed, h.books.keep rfl rfl (Nat.le_refl _)⟩
  release := by
    intro pool held share d h
    refine ⟨?_, h.books.release share.lease⟩
    show (release share.lease d).openPicture = none
    unfold release
    rcases d.leases.release? share.lease with ⟨_ | lease, leases⟩ <;> exact h.closed
  queryCaps := by
    intro pool held filters d hfilters h
    rw [queryCaps_eq]
    refine ⟨h.closed, h.books.noted rfl rfl (Nat.le_refl _) rfl rfl rfl fun r hr => ?_⟩
    obtain ⟨id, hid, rfl⟩ := List.mem_map.1 hr
    exact List.mem_append_left _ (List.mem_map_of_mem (hfilters id hid))
  createPool := by
    intro held desc d h
    refine ⟨?_, Books.createPool h.books desc⟩
    rcases createPool_cases d desc with ⟨e, heq⟩ | heq <;> rw [heq] <;> exact h.closed
  closePool h := ⟨h.closed, Books.closePool h.books _⟩
  allocate := by
    intro pool held d h
    refine ⟨?_, h.books.allocate pool⟩
    rcases allocate_cases d pool with ⟨e, heq, -⟩ | ⟨p, id, rest, -, -, -, heq⟩ |
      ⟨p, -, -, -, -, heq⟩ <;> rw [heq] <;> exact h.closed
  upload := by
    intro pool held target frame d h
    refine ⟨?_, h.books.upload pool target frame⟩
    rcases upload_cases d pool target frame with ⟨e, heq⟩ | heq <;> rw [heq] <;> exact h.closed
  submit := by
    intro pool held buffer flags request d hbuffer h
    refine ⟨openPicture_submit u.context buffer flags request h.closed, ?_⟩
    refine h.books.submit u.context (fun id hid => ?_) flags request
    exact List.mem_append_left _ (List.mem_map_of_mem (hbuffer id hid))

/-! ## Opening and closing -/

theorem Books.buildDescriptors {live : List Resource} {isOpen : Bool} (context : ContextId)
    (mode : Mode) (filters : List FilterType) {d : Simulator} (h : d.Books live isOpen) :
    (Chain.buildDescriptors context mode filters d).2.Books
      ((Chain.buildDescriptors context mode filters d).1.map (.buffer ·.buffer) ++ live)
      isOpen := by
  have hone : ∀ {live : List Resource} {d : Simulator}, d.Books live isOpen →
      (Chain.buildDeinterlacer context mode d).2.Books
        ((Chain.buildDeinterlacer context mode d).1.toList.map (.buffer ·.buffer) ++ live)
        isOpen := by
    intro live d h
    have hasked := h.queryAlgorithms context
    unfold Chain.buildDeinterlacer
    split
    · exact h
    rcases hanswer : Device.queryAlgorithms context d with ⟨e | supported, asked⟩ <;>
      rw [hanswer] at hasked
    · exact hasked
    dsimp only
    split
    · exact hasked
    have hmade := hasked.createFilter context mode.algorithm {}
    rcases hresult : Device.createFilter context mode.algorithm {} asked with
      ⟨e | buffer, made⟩ <;> rw [hresult] at hmade <;> exact hmade
  induction filters generalizing d live with
  | nil => exact h
  | cons filter rest ih =>
    cases filter
    case deinterlacing =>
      have hrest := ih (hone h)
      rw [← List.append_assoc] at hrest
      unfold Chain.buildDescriptors
      rw [List.map_append]
      exact hrest.perm (List.perm_append_comm.append_right live)
    all_goals exact ih h

theorem openPicture_open {options : Options} {d : Simulator} {s : Session Simulator}
    (hd : d.openPicture = none) (h : Session.open? options d = .ok s) :
    s.device.openPicture = none := by
  refine Session.open_induction (P := fun d => d.openPicture = none) h ?_ ?_ ?_ ?_ ?_ hd
  · intro e he
    rcases createConfig_cases e with ⟨error, heq⟩ | heq <;> rw [heq] <;> exact he
  · intro config e he
    rcases createContext_cases e config with ⟨error, heq⟩ | heq <;> rw [heq] <;> exact he
  · intro context e he
    rw [queryFilters_snd]
    exact he
  · intro context e he
    rw [queryAlgorithms_snd]
    exact he
  · intro context algorithm e he
    rcases createFilter_cases context e algorithm {} with ⟨error, next, -, heq⟩ | heq <;>
      rw [heq] <;> exact he

theorem ordered_of_open {options : Options} {d : Simulator} {s : Session Simulator}
    (hd : d.Unused) (h : Session.open? options d = .ok s) : s.device.Ordered s.fixtures none := by
  refine ⟨openPicture_open hd.openPicture h, ?_⟩
  obtain ⟨config, d₁, context, d₂, available, d₃, descriptors, later, h₁, h₂, h₃, hbuild, rfl⟩ :=
    Session.eq_of_open h
  have hconfig := hd.books.createConfig
  rw [h₁] at hconfig
  have hcontext := hconfig.createContext config
  rw [h₂] at hcontext
  have hfilters := hcontext.queryFilters context
  rw [h₃] at hfilters
  have hbuilt := hfilters.buildDescriptors context options.mode available
  rw [hbuild] at hbuilt
  have hresources : Fixtures.resources ⟨config, context, descriptors.map (·.buffer)⟩ =
      descriptors.map (.buffer ·.buffer) ++ [.context context, .config config] := by
    rw [Fixtures.resources, List.map_map]
    rfl
  show later.Books (Fixtures.resources ⟨config, context, descriptors.map (·.buffer)⟩) false
  rw [hresources]
  exact hbuilt

/-- In every state that a session can reach, what it has made on opening is there. -/
theorem obeys_ordered {options : Options} {d : Simulator} {c : Custody Simulator} (hd : d.Unused)
    (hc : Custody.Reachable Injects options d c) :
    c.session.Obeys c.session.fixtures (fun pool _ d => d.Ordered c.session.fixtures pool)
      c.held := by
  refine hc.obeys (fun u pool _ d => d.Ordered u pool) upholds_ordered ?_ ?_
  · intro u change hchange pool held e he
    obtain ⟨failing, heq⟩ := hchange e
    rw [heq]
    exact ⟨he.closed, he.books.keep rfl rfl (Nat.le_refl _)⟩
  · intro s hs
    exact ordered_of_open hd hs

end Simulator

end Deinterlace
