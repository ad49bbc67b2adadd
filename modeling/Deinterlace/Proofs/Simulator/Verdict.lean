import Deinterlace.Proofs.Simulator.Ledger

/-!
# How submissions to a simulated device end

In the hands of a session, a simulated device has the session's filters and no other buffers
(`Simulator.Equipped`). How a submission ends then depends on nothing but the calls that are made
to fail: `Simulator.verdict` says what comes back and whether the request was rendered before, and
`Simulator.Equipped.submit_verdict` that this is so.
-/
namespace Deinterlace.Simulator

/-! ## Filters and no other buffers -/

/-- The buffers are the filters `owned`, and their numbers are below `next`. -/
structure Outfit (owned : List BufferId) (buffers : List (BufferId × Buffer)) (next : Nat) :
    Prop where
  ids_eq : buffers.map (·.1) = owned
  filters : ∀ entry ∈ buffers, ∃ flags, entry.2 = .filter flags
  lt : ∀ id ∈ owned, id.value < next
  nodup : owned.Nodup

/-- There are the filters of a session, and no picture is open. -/
structure Equipped (u : Fixtures) (d : Simulator) : Prop where
  closed : d.openPicture = none
  outfit : Outfit u.filters d.buffers d.nextId

theorem exists_lookup {buffers : List (BufferId × Buffer)} {id : BufferId}
    (h : id ∈ buffers.map (·.1)) :
    ∃ entry ∈ buffers, buffers.lookup id = some entry.2 := by
  induction buffers with
  | nil => cases h
  | cons first rest ih =>
    rw [List.lookup_cons]
    by_cases hid : id = first.1
    · exact ⟨first, List.mem_cons_self, by rw [hid, beq_self_eq_true]⟩
    · obtain ⟨entry, hentry, hfound⟩ := ih ((List.mem_cons.1 h).resolve_left hid)
      refine ⟨entry, List.mem_cons_of_mem _ hentry, ?_⟩
      rw [beq_eq_false_iff_ne.2 hid]
      exact hfound

theorem map_replaceBuffer (buffers : List (BufferId × Buffer)) (id : BufferId) (buffer : Buffer) :
    (replaceBuffer buffers id buffer).map (·.1) = buffers.map (·.1) := by
  unfold replaceBuffer
  rw [List.map_map]
  refine List.map_congr_left fun entry _ => ?_
  by_cases hid : entry.1 = id <;> simp [hid]

namespace Outfit

variable {owned : List BufferId} {buffers : List (BufferId × Buffer)} {next : Nat}

theorem mono (h : Outfit owned buffers next) {later : Nat} (hle : next ≤ later) :
    Outfit owned buffers later :=
  { h with lt := fun id hid => Nat.lt_of_lt_of_le (h.lt id hid) hle }

theorem exists_flags (h : Outfit owned buffers next) {id : BufferId} (hid : id ∈ owned) :
    ∃ flags, buffers.lookup id = some (.filter flags) := by
  obtain ⟨entry, hentry, hfound⟩ := exists_lookup (h.ids_eq.symm ▸ hid)
  obtain ⟨flags, hflags⟩ := h.filters entry hentry
  exact ⟨flags, hfound.trans (congrArg some hflags)⟩

theorem fresh (h : Outfit owned buffers next) : ∀ entry ∈ buffers, entry.1 ≠ ⟨next⟩ := by
  intro entry hentry heq
  have hmem : entry.1 ∈ owned := h.ids_eq ▸ List.mem_map_of_mem hentry
  have hlt := h.lt _ hmem
  rw [heq] at hlt
  exact Nat.lt_irrefl _ hlt

theorem replaceBuffer (h : Outfit owned buffers next) (id : BufferId) (flags : DeintFlags) :
    Outfit owned (replaceBuffer buffers id (.filter flags)) next :=
  { h with
    ids_eq := (map_replaceBuffer _ _ _).trans h.ids_eq
    filters := by
      intro entry hentry
      obtain ⟨before, hbefore, rfl⟩ := List.mem_map.1 hentry
      split
      · exact ⟨flags, rfl⟩
      · exact h.filters before hbefore }

/-- The buffer of a request goes without a trace. -/
theorem filter_concat (h : Outfit owned buffers next) (buffer : Buffer) :
    (buffers ++ [((⟨next⟩ : BufferId), buffer)]).filter (·.1 != ⟨next⟩) = buffers := by
  have hkept := List.filter_eq_self.2 fun entry hentry => bne_iff_ne.2 (h.fresh entry hentry)
  rw [List.filter_append, hkept]
  simp

theorem applyFlags {e : Simulator} (h : Outfit owned e.buffers e.nextId) (buffer : Option BufferId)
    (flags : DeintFlags) : Outfit owned (Rendering.applyFlags buffer flags e).2.buffers
      (Rendering.applyFlags buffer flags e).2.nextId := by
  cases buffer with
  | none => exact h
  | some id =>
    show Outfit owned (Device.updateFlags id flags e).2.buffers
      (Device.updateFlags id flags e).2.nextId
    rcases updateFlags_cases e id flags with ⟨error, heq⟩ | heq <;> rw [heq]
    · exact h
    · exact h.replaceBuffer id flags

theorem endPicture (context : ContextId) (e : Simulator) :
    (Device.endPicture context e).2.buffers = e.buffers ∧
      (Device.endPicture context e).2.nextId = e.nextId := by
  rw [endPicture_snd]
  split <;> exact ⟨rfl, rfl⟩

/-- A filter is added. -/
theorem concat (h : Outfit owned buffers next) (flags : DeintFlags) :
    Outfit (owned ++ [⟨next⟩]) (buffers ++ [(⟨next⟩, .filter flags)]) (next + 1) where
  ids_eq := by rw [List.map_append, h.ids_eq]; rfl
  filters := by
    intro entry hentry
    rcases List.mem_append.1 hentry with hentry | hentry
    · exact h.filters entry hentry
    · exact ⟨flags, by rw [List.mem_singleton.1 hentry]⟩
  lt := by
    intro id hid
    rcases List.mem_append.1 hid with hid | hid
    · exact Nat.lt_succ_of_lt (h.lt id hid)
    · rw [List.mem_singleton.1 hid]
      exact Nat.lt_succ_self next
  nodup := by
    refine List.nodup_append.2 ⟨h.nodup, List.pairwise_singleton _ _, ?_⟩
    intro id hid other hother heq
    rw [List.mem_singleton.1 hother] at heq
    have hlt := h.lt id hid
    rw [heq] at hlt
    exact Nat.lt_irrefl _ hlt

end Outfit

namespace Equipped

variable {u : Fixtures} {d : Simulator}

theorem submit (h : d.Equipped u) (context : ContextId) (buffer : Option BufferId)
    (flags : DeintFlags) (request : RenderRequest) :
    (Rendering.submit context buffer flags request d).2.Equipped u := by
  refine ⟨openPicture_submit context buffer flags request h.closed, ?_⟩
  have hbegun : Outfit u.filters (Device.beginPicture context request.destination d).2.buffers
      (Device.beginPicture context request.destination d).2.nextId := by
    rcases beginPicture_cases context d request.destination with ⟨e, heq⟩ | heq <;> rw [heq] <;>
      exact h.outfit
  rcases Rendering.submit_cases context buffer flags request d with ⟨e, d₁, h₁, heq⟩ |
    ⟨d₁, e, d₂, h₁, h₂, heq⟩ | ⟨d₁, d₂, e, d₃, h₁, h₂, h₃, heq⟩ |
    ⟨d₁, d₂, id, d₃, result, d₄, h₁, h₂, h₃, h₄, heq⟩ <;> rw [heq] <;> rw [h₁] at hbegun
  · exact hbegun
  all_goals
    have hset := hbegun.applyFlags buffer flags
    rw [h₂] at hset
  · obtain ⟨hbuffers, hnext⟩ := Outfit.endPicture context d₂
    rw [hbuffers, hnext]
    exact hset
  all_goals
    rcases createRequest_cases context d₂ request with ⟨error, hcreate⟩ | hcreate <;>
      cases h₃.symm.trans hcreate
  · obtain ⟨hbuffers, hnext⟩ := Outfit.endPicture context d₂
    rw [hbuffers, hnext]
    exact hset
  · obtain ⟨rendered, hrendered⟩ := renderPicture_snd context
      ((d₂.bump.addBuffer ⟨d₂.nextId⟩ (.request request)).record (.createRequest ⟨d₂.nextId⟩))
      [⟨d₂.nextId⟩]
    rw [h₄] at hrendered
    have hd₄ : d₄ = _ := hrendered
    obtain ⟨hbuffers, hnext⟩ := Outfit.endPicture context d₄
    show Outfit u.filters ((Device.endPicture context d₄).2.buffers.filter (·.1 != ⟨d₂.nextId⟩))
      (Device.endPicture context d₄).2.nextId
    rw [hbuffers, hnext, hd₄]
    have hkept := hset.filter_concat (.request request)
    show Outfit u.filters
      ((d₂.buffers ++ [((⟨d₂.nextId⟩ : BufferId), Buffer.request request)]).filter
        (·.1 != ⟨d₂.nextId⟩)) (d₂.nextId + 1)
    rw [hkept]
    exact hset.mono (Nat.le_succ _)

theorem release (h : d.Equipped u) (key : LeaseId) : (Device.release key d).Equipped u := by
  show (Simulator.release key d).Equipped u
  unfold Simulator.release
  rcases d.leases.release? key with ⟨_ | lease, leases⟩ <;> exact ⟨h.closed, h.outfit⟩

theorem allocate (h : d.Equipped u) (pool : PoolId) : (Device.allocate pool d).2.Equipped u := by
  rcases allocate_cases d pool with ⟨e, heq, -⟩ | ⟨p, id, rest, -, -, -, heq⟩ |
    ⟨p, -, -, -, -, heq⟩ <;> rw [heq]
  · exact h
  · exact ⟨h.closed, h.outfit⟩
  · exact ⟨h.closed, h.outfit.mono (Nat.le_succ _)⟩

end Equipped

/-- **The filters stay what they are in whatever a session does.** -/
theorem upholds_equipped (u : Fixtures) :
    Device.Upholds u (fun _ _ (d : Simulator) => d.Equipped u) where
  perm _ h := h
  retain _ h := ⟨h.closed, h.outfit⟩
  release h := h.release _
  queryCaps := by
    intro pool held filters d _ h
    rw [queryCaps_eq]
    exact ⟨h.closed, h.outfit⟩
  createPool := by
    intro held desc d h
    rcases createPool_cases d desc with ⟨e, heq⟩ | heq <;> rw [heq] <;> exact ⟨h.closed, h.outfit⟩
  closePool h := ⟨h.closed, h.outfit⟩
  allocate h := h.allocate _
  upload := by
    intro pool held target frame d h
    rcases upload_cases d pool target frame with ⟨e, heq⟩ | heq <;> rw [heq] <;>
      exact ⟨h.closed, h.outfit⟩
  submit flags request _ _ h := h.submit _ _ flags request

/-! ## Amid a submission -/

/-- A picture is open on a device that was `d` before, and apart from the log this is what has
changed. -/
structure Amid (d : Simulator) (buffers : List (BufferId × Buffer)) (next : Nat)
    (rendered : List Submission) (e : Simulator) : Prop where
  fails_eq : e.fails = d.fails
  isOpen : e.openPicture.isSome = true
  buffers_eq : e.buffers = buffers
  nextId_eq : e.nextId = next
  rendered_eq : e.rendered = rendered

namespace Amid

variable {d e : Simulator} {buffers : List (BufferId × Buffer)} {next : Nat}
variable {rendered : List Submission} (context : ContextId)

theorem beginPicture (hclosed : d.openPicture = none) {target : SurfaceId}
    (hvalid : target.isValid = true) :
    if d.fails .beginPicture then
      Device.beginPicture context target d = (.error (injected .beginPicture), d)
    else
      ∃ e, Device.beginPicture context target d = (.ok (), e) ∧
        Amid d d.buffers d.nextId d.rendered e := by
  split
  · rename_i hfails
    show Simulator.beginPicture target d = _
    simp only [Simulator.beginPicture, hfails, if_true]
  · rename_i hworks
    exact ⟨_, beginPicture_eq (Bool.eq_false_iff.2 hworks) hclosed hvalid, rfl, rfl, rfl, rfl, rfl⟩

theorem applyFlags (h : Amid d buffers next rendered e) {id : BufferId} {before : DeintFlags}
    (hid : buffers.lookup id = some (.filter before)) (flags : DeintFlags) :
    if d.fails .mapBuffer then
      Rendering.applyFlags (some id) flags e = (.error (injected .mapBuffer), e)
    else
      ∃ later, Rendering.applyFlags (some id) flags e = (.ok (), later) ∧
        Amid d (replaceBuffer buffers id (.filter flags)) next rendered later := by
  split
  · rename_i hfails
    show updateFlags id flags e = _
    simp only [updateFlags, h.fails_eq, hfails, if_true]
  · rename_i hworks
    rw [← h.fails_eq] at hworks
    rw [← h.buffers_eq] at hid ⊢
    exact ⟨_, updateFlags_eq (Bool.eq_false_iff.2 hworks) hid flags, h.fails_eq, h.isOpen, rfl,
      h.nextId_eq, h.rendered_eq⟩

theorem createRequest (h : Amid d buffers next rendered e) (request : RenderRequest) :
    if d.fails .createBuffer then
      Device.createRequest context request e = (.error (injected .createBuffer), e)
    else
      ∃ later, Device.createRequest context request e = (.ok ⟨next⟩, later) ∧
        Amid d (buffers ++ [(⟨next⟩, .request request)]) (next + 1) rendered later := by
  split
  · rename_i hfails
    show Simulator.createRequest request e = _
    simp only [Simulator.createRequest, h.fails_eq, hfails, if_true]
  · rename_i hworks
    rw [← h.fails_eq] at hworks
    rw [← h.buffers_eq, ← h.nextId_eq]
    exact ⟨_, createRequest_eq (Bool.eq_false_iff.2 hworks) request, h.fails_eq, h.isOpen, rfl, rfl,
      h.rendered_eq⟩

theorem renderPicture (h : Amid d buffers next rendered e) {id : BufferId}
    {request : RenderRequest} (hid : buffers.lookup id = some (.request request))
    {filter : BufferId} {rest : List BufferId} (hchain : request.filters = filter :: rest)
    {flags : DeintFlags} (hfilter : buffers.lookup filter = some (.filter flags)) :
    if d.fails .renderPicture then
      ∃ later, Device.renderPicture context [id] e = (.error (injected .renderPicture), later) ∧
        Amid d buffers next rendered later
    else
      ∃ later, Device.renderPicture context [id] e = (.ok (), later) ∧
        Amid d buffers next (⟨request, some flags⟩ :: rendered) later := by
  split
  · rename_i hfails
    rw [← h.fails_eq] at hfails
    have hfails' : (e.record (.renderPicture [id])).fails .renderPicture = true := hfails
    refine ⟨e.record (.renderPicture [id]), ?_, h.fails_eq, h.isOpen, h.buffers_eq, h.nextId_eq,
      h.rendered_eq⟩
    show Simulator.renderPicture [id] e = _
    simp only [Simulator.renderPicture, hfails', if_true]
  · rename_i hworks
    rw [← h.fails_eq] at hworks
    rw [← h.buffers_eq] at hid hfilter
    rw [← h.rendered_eq]
    exact ⟨_, renderPicture_eq (Bool.eq_false_iff.2 hworks) h.isOpen hid hchain hfilter, h.fails_eq,
      h.isOpen, h.buffers_eq, h.nextId_eq, rfl⟩

theorem endPicture (h : Amid d buffers next rendered e) :
    ∃ later, Device.endPicture context e =
      (if d.fails .endPicture then .error (injected .endPicture) else .ok (), later) ∧
        later.rendered = rendered ∧ later.nextId = next :=
  ⟨_, endPicture_eq h.isOpen (congrFun h.fails_eq _), h.rendered_eq, h.nextId_eq⟩

end Amid

/-! ## How submissions end -/

/-- How a submission ends when some calls fail, and whether its request is rendered. -/
def verdict (fails : EntryPoint → Bool) : Except DeviceError Unit × Bool :=
  if fails .beginPicture then (.error (injected .beginPicture), false)
  else if fails .mapBuffer then (.error (injected .mapBuffer), false)
  else if fails .createBuffer then (.error (injected .createBuffer), false)
  else if fails .renderPicture then (.error (injected .renderPicture), false)
  else if fails .endPicture then (.error (injected .endPicture), true)
  else (.ok (), true)

/-- How many numbers a submission uses up when some calls fail: one, for its request. -/
def spent (fails : EntryPoint → Bool) : Nat :=
  if fails .beginPicture then 0
  else if fails .mapBuffer then 0
  else if fails .createBuffer then 0
  else 1

/-- How a submission goes. The filter has the flags of the request when it is rendered. -/
theorem Equipped.submit_course {u : Fixtures} {d : Simulator} (h : d.Equipped u)
    (context : ContextId) {filter : BufferId} {rest : List BufferId}
    (hfilters : u.filters = filter :: rest) {request : RenderRequest}
    (hchain : request.filters = u.filters) (hvalid : request.destination.isValid = true)
    (flags : DeintFlags) :
    (Rendering.submit context (some filter) flags request d).1 = (verdict d.fails).1 ∧
      (Rendering.submit context (some filter) flags request d).2.rendered =
        (if (verdict d.fails).2 then [⟨request, some flags⟩] else []) ++ d.rendered ∧
      (Rendering.submit context (some filter) flags request d).2.nextId =
        d.nextId + spent d.fails := by
  obtain ⟨before, hbefore⟩ := h.outfit.exists_flags (hfilters ▸ List.mem_cons_self)
  have hset := lookup_replaceBuffer_self hbefore (.filter flags)
  have hfresh := (h.outfit.replaceBuffer filter flags).fresh
  have hbegin := Amid.beginPicture context h.closed hvalid
  unfold verdict spent
  split at hbegin <;> rename_i hfails
  · rw [if_pos hfails, if_pos hfails]
    simp only [Rendering.submit, hbegin]
    exact ⟨trivial, rfl, rfl⟩
  obtain ⟨d₁, hbegun, h₁⟩ := hbegin
  rw [if_neg hfails, if_neg hfails]
  have hflags := h₁.applyFlags hbefore flags
  split at hflags <;> rename_i hfails
  · obtain ⟨d₂, hended, hrendered⟩ := h₁.endPicture context
    rw [if_pos hfails, if_pos hfails]
    simp only [Rendering.submit, hbegun, hflags, Rendering.abandon, hended]
    exact ⟨trivial, hrendered⟩
  obtain ⟨d₂, hflagged, h₂⟩ := hflags
  rw [if_neg hfails, if_neg hfails]
  have hcreate := h₂.createRequest context request
  split at hcreate <;> rename_i hfails
  · obtain ⟨d₃, hended, hrendered⟩ := h₂.endPicture context
    rw [if_pos hfails, if_pos hfails]
    simp only [Rendering.submit, hbegun, hflagged, hcreate, Rendering.abandon, hended]
    exact ⟨trivial, hrendered⟩
  obtain ⟨d₃, hcreated, h₃⟩ := hcreate
  rw [if_neg hfails, if_neg hfails]
  have hrender := h₃.renderPicture context (lookup_concat_fresh hfresh (.request request))
    (hchain.trans hfilters) (lookup_concat_of_some hset (.request request))
  split at hrender <;> rename_i hfails
  · obtain ⟨d₄, hrendered, h₄⟩ := hrender
    obtain ⟨d₅, hended, hsame⟩ := h₄.endPicture context
    rw [if_pos hfails]
    simp only [Rendering.submit, hbegun, hflagged, hcreated, hrendered, Rendering.abandon, hended]
    exact ⟨trivial, hsame⟩
  obtain ⟨d₄, hrendered, h₄⟩ := hrender
  obtain ⟨d₅, hended, hsame⟩ := h₄.endPicture context
  rw [if_neg hfails]
  simp only [Rendering.submit, hbegun, hflagged, hcreated, hrendered, hended]
  split <;> exact ⟨rfl, hsame⟩

/-- **The verdict on a submission.** The filter has the flags of the request when it is rendered. -/
theorem Equipped.submit_verdict {u : Fixtures} {d : Simulator} (h : d.Equipped u)
    (context : ContextId) {filter : BufferId} {rest : List BufferId}
    (hfilters : u.filters = filter :: rest) {request : RenderRequest}
    (hchain : request.filters = u.filters) (hvalid : request.destination.isValid = true)
    (flags : DeintFlags) :
    (Rendering.submit context (some filter) flags request d).1 = (verdict d.fails).1 ∧
      (Rendering.submit context (some filter) flags request d).2.rendered =
        (if (verdict d.fails).2 then [⟨request, some flags⟩] else []) ++ d.rendered := by
  obtain ⟨hresult, hrendered, -⟩ := h.submit_course context hfilters hchain hvalid flags
  exact ⟨hresult, hrendered⟩

/-! ## From opening on -/

/-- Opening makes the filters of a session and nothing else that stays. -/
theorem outfit_buildDeinterlacer (context : ContextId) (mode : Mode) {d : Simulator}
    {owned : List BufferId} (h : Outfit owned d.buffers d.nextId) :
    Outfit (owned ++ (Chain.buildDeinterlacer context mode d).1.toList.map (·.buffer))
        (Chain.buildDeinterlacer context mode d).2.buffers
        (Chain.buildDeinterlacer context mode d).2.nextId ∧
      (Chain.buildDeinterlacer context mode d).2.openPicture = d.openPicture := by
  have hnone : owned ++ (Option.none : Option FilterDescriptor).toList.map (·.buffer) = owned :=
    List.append_nil owned
  have hasked : ∀ {answer asked}, Device.queryAlgorithms context d = (answer, asked) →
      Outfit owned asked.buffers asked.nextId ∧ asked.openPicture = d.openPicture := by
    intro answer asked heq
    have hsame := queryAlgorithms_snd context d
    rw [heq] at hsame
    have hasked : asked = d.record .queryAlgorithms := hsame
    rw [hasked]
    exact ⟨h, rfl⟩
  unfold Chain.buildDeinterlacer
  split
  · exact ⟨hnone.symm ▸ h, rfl⟩
  rcases hanswer : Device.queryAlgorithms context d with ⟨e | supported, asked⟩ <;>
    obtain ⟨h, hclosed⟩ := hasked hanswer
  · exact ⟨hnone.symm ▸ h, hclosed⟩
  dsimp only
  split
  · exact ⟨hnone.symm ▸ h, hclosed⟩
  rcases createFilter_cases context asked mode.algorithm {} with ⟨e, next, hle, heq⟩ | heq <;>
    rw [heq]
  · exact ⟨hnone.symm ▸ h.mono hle, hclosed⟩
  · exact ⟨h.concat {}, hclosed⟩

theorem outfit_buildDescriptors (context : ContextId) (mode : Mode) (filters : List FilterType)
    {d : Simulator} {owned : List BufferId} (h : Outfit owned d.buffers d.nextId) :
    Outfit (owned ++ (Chain.buildDescriptors context mode filters d).1.map (·.buffer))
        (Chain.buildDescriptors context mode filters d).2.buffers
        (Chain.buildDescriptors context mode filters d).2.nextId ∧
      (Chain.buildDescriptors context mode filters d).2.openPicture = d.openPicture := by
  induction filters generalizing d owned with
  | nil => exact ⟨(List.append_nil owned).symm ▸ h, rfl⟩
  | cons filter rest ih =>
    cases filter
    case deinterlacing =>
      obtain ⟨hone, hsame⟩ := outfit_buildDeinterlacer context mode h
      obtain ⟨hall, hsame'⟩ := ih hone
      refine ⟨?_, hsame'.trans hsame⟩
      rw [List.append_assoc, ← List.map_append] at hall
      exact hall
    all_goals exact ih h

theorem equipped_of_open {options : Options} {d : Simulator} (hd : d.Unused)
    {s : Session Simulator} (hopen : Session.open? options d = .ok s) :
    s.device.Equipped s.fixtures := by
  obtain ⟨config, d₁, context, d₂, available, d₃, descriptors, later, h₁, h₂, h₃, hbuild, rfl⟩ :=
    Session.eq_of_open hopen
  have hstart : Outfit [] d.buffers d.nextId := by
    rw [hd.buffers]
    exact ⟨rfl, by simp, by simp, List.nodup_nil⟩
  have hmade : ∃ next history, d.nextId ≤ next ∧
      d₃ = { d with nextId := next, history := history } := by
    have hasked := queryFilters_snd context d₂
    rw [h₃] at hasked
    rcases createConfig_cases d with ⟨e, heq⟩ | heq <;> cases h₁.symm.trans heq
    rcases createContext_cases (d.bump.record (.createConfig ⟨d.nextId⟩)) ⟨d.nextId⟩ with
      ⟨e, heq⟩ | heq <;> cases h₂.symm.trans heq
    exact ⟨_, _, Nat.le_add_right d.nextId 2, hasked⟩
  obtain ⟨next, history, hle, rfl⟩ := hmade
  obtain ⟨houtfit, hclosed⟩ := outfit_buildDescriptors context options.mode available
    (d := { d with nextId := next, history := history }) (hstart.mono hle)
  rw [hbuild] at houtfit hclosed
  exact ⟨hclosed.trans hd.openPicture, houtfit⟩

/-- In every state that a session can reach, the buffers are its filters. -/
theorem obeys_equipped {options : Options} {d : Simulator} {c : Custody Simulator}
    (hd : d.Unused) (hc : Custody.Reachable Injects options d c) :
    c.session.Obeys c.session.fixtures (fun _ _ d => d.Equipped c.session.fixtures) c.held := by
  refine hc.obeys (fun u _ _ d => d.Equipped u) upholds_equipped ?_
    fun _ => equipped_of_open hd
  intro u change hchange _ _ e he
  obtain ⟨failing, heq⟩ := hchange e
  rw [heq]
  exact ⟨he.closed, he.outfit⟩

end Deinterlace.Simulator
