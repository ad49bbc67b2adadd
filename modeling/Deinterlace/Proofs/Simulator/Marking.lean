import Deinterlace.Proofs.Device.Replay
import Deinterlace.Proofs.Session.InStep
import Deinterlace.Proofs.Simulator.Verdict

/-!
# The flags of the filters when a picture is rendered

A chain has a deinterlacing filter for every time that the device names one, and all of them are
applied. Only the first has its flags set for each field. The others keep those that they were made
with, none at all (`Simulator.Marked`). So when a picture is rendered all filters have the flags of
the field that is asked for only if there is one filter, or if that field has no flags
(`Custody.flags_of_reachable`).
-/
namespace Deinterlace

/-! ## Flags -/

/-- The flags say of a field whether it is the lower one and whether that was taken first, and
nothing else. -/
structure DeintFlags.Denotes (flags : DeintFlags) (field : PictureField) (topFirst : Bool) :
    Prop where
  bottom_iff : flags.bits &&& bottomFieldBit ≠ 0 ↔ field = .bottom
  bottomFirst_iff : flags.bits &&& bottomFieldFirstBit ≠ 0 ↔ topFirst = false
  nothing_else : flags.bits &&& ~~~(bottomFieldBit ||| bottomFieldFirstBit) = 0

theorem DeintFlags.denotes_ofField {field : PictureField} (hfield : field ≠ .frame)
    (topFirst : Bool) : (ofField field topFirst).Denotes field topFirst := by
  cases field with
  | frame => exact absurd rfl hfield
  | top => cases topFirst <;> exact ⟨by decide, by decide, by decide⟩
  | bottom => cases topFirst <;> exact ⟨by decide, by decide, by decide⟩

theorem DeintFlags.denotes_none_iff {field : PictureField} (hfield : field ≠ .frame)
    {topFirst : Bool} :
    Denotes {} field topFirst ↔ field = .top ∧ topFirst = true := by
  constructor
  · intro h
    refine ⟨?_, ?_⟩
    · cases field with
      | frame => exact absurd rfl hfield
      | top => rfl
      | bottom => exact absurd (h.bottom_iff.2 rfl) (by decide)
    · cases topFirst with
      | true => rfl
      | false => exact absurd (h.bottomFirst_iff.2 rfl) (by decide)
  · rintro ⟨rfl, rfl⟩
    exact denotes_ofField hfield true

/-- A filter whose flags are set is the first one. -/
theorem Session.Agrees.deinterlaceBuffer?_eq {σ : Type} {s : Session σ} (h : s.Agrees)
    {id : BufferId} (hid : s.chain.deinterlaceBuffer? = some id) :
    s.chain.deinterlaceBuffer? = s.fixtures.filters.head? := by
  refine (h.active_eq fun hnil => ?_).2
  obtain ⟨filter, hfound, -⟩ := Option.map_eq_some_iff.1 hid
  have hactive := List.find?_some hfound
  simp [hnil] at hactive

namespace Simulator

/-- The buffer is a filter whose flags denote a field. -/
def Denotes (d : Simulator) (id : BufferId) (field : PictureField) (topFirst : Bool) : Prop :=
  ∃ flags, d.buffer? id = some (.filter flags) ∧ flags.Denotes field topFirst

theorem denotes_iff {d : Simulator} {id : BufferId} {flags : DeintFlags} {field : PictureField}
    {topFirst : Bool} (h : d.buffer? id = some (.filter flags)) :
    d.Denotes id field topFirst ↔ flags.Denotes field topFirst := by
  constructor
  · rintro ⟨other, hother, hdenotes⟩
    cases h.symm.trans hother
    exact hdenotes
  · exact fun hdenotes => ⟨flags, h, hdenotes⟩

/-- If one buffer denotes a field and others are without flags, all of them denote it exactly if
there are no others, or without flags a buffer denotes that field. -/
theorem all_denote_iff {d : Simulator} {first : BufferId} {rest : List BufferId}
    {field : PictureField} {topFirst : Bool} (hfield : field ≠ .frame)
    (hfirst : d.Denotes first field topFirst)
    (hunset : ∀ id ∈ rest, d.buffer? id = some (.filter {})) :
    (∀ id ∈ first :: rest, d.Denotes id field topFirst) ↔
      rest = [] ∨ field = .top ∧ topFirst = true := by
  constructor
  · intro hall
    cases rest with
    | nil => exact .inl rfl
    | cons second others =>
      have hsecond := hall second (by simp)
      rw [denotes_iff (hunset second (by simp))] at hsecond
      exact .inr ((DeintFlags.denotes_none_iff hfield).1 hsecond)
  · intro hcase id hid
    rcases List.mem_cons.1 hid with rfl | hid
    · exact hfirst
    · rcases hcase with rfl | hplain
      · cases hid
      · rw [denotes_iff (hunset id hid)]
        exact (DeintFlags.denotes_none_iff hfield).2 hplain

/-! ## Submissions -/

/-- The flags of one filter have been set, or none. -/
def SetFlags (buffer : Option BufferId) (flags : DeintFlags)
    (before after : List (BufferId × Buffer)) : Prop :=
  after = before ∨ ∃ id, buffer = some id ∧ after = replaceBuffer before id (.filter flags)

theorem setFlags_applyFlags (buffer : Option BufferId) (flags : DeintFlags) (d : Simulator) :
    SetFlags buffer flags d.buffers (Rendering.applyFlags buffer flags d).2.buffers ∧
      (Rendering.applyFlags buffer flags d).2.nextId = d.nextId := by
  cases buffer with
  | none => exact ⟨.inl rfl, rfl⟩
  | some id =>
    show SetFlags _ flags d.buffers (Device.updateFlags id flags d).2.buffers ∧
      (Device.updateFlags id flags d).2.nextId = d.nextId
    rcases updateFlags_cases d id flags with ⟨e, heq⟩ | heq <;> rw [heq]
    · exact ⟨.inl rfl, rfl⟩
    · exact ⟨.inr ⟨id, rfl, rfl⟩, rfl⟩

theorem buffers_beginPicture (context : ContextId) (target : SurfaceId) (d : Simulator) :
    (Device.beginPicture context target d).2.buffers = d.buffers ∧
      (Device.beginPicture context target d).2.nextId = d.nextId := by
  rcases beginPicture_cases context d target with ⟨e, heq⟩ | heq <;> rw [heq] <;> exact ⟨rfl, rfl⟩

/-- A submission sets the flags of a filter, and leaves no other trace in the buffers. -/
theorem Equipped.buffers_submit {u : Fixtures} {d : Simulator} (h : d.Equipped u)
    (context : ContextId) (buffer : Option BufferId) (flags : DeintFlags)
    (request : RenderRequest) :
    SetFlags buffer flags d.buffers
      (Rendering.submit context buffer flags request d).2.buffers := by
  obtain ⟨hbegun, hnext⟩ := buffers_beginPicture context request.destination d
  rcases Rendering.submit_cases context buffer flags request d with ⟨e, d₁, h₁, heq⟩ |
    ⟨d₁, e, d₂, h₁, h₂, heq⟩ | ⟨d₁, d₂, e, d₃, h₁, h₂, h₃, heq⟩ |
    ⟨d₁, d₂, id, d₃, result, d₄, h₁, h₂, h₃, h₄, heq⟩ <;> rw [heq] <;> rw [h₁] at hbegun hnext
  · exact .inl hbegun
  all_goals
    obtain ⟨hset, hsame⟩ := setFlags_applyFlags buffer flags d₁
    rw [h₂, hbegun] at hset
    rw [h₂, hnext] at hsame
  · rwa [(Outfit.endPicture context d₂).1]
  all_goals
    rcases createRequest_cases context d₂ request with ⟨error, hcreate⟩ | hcreate <;>
      cases h₃.symm.trans hcreate
  · rwa [(Outfit.endPicture context d₂).1]
  · obtain ⟨rendered, hrendered⟩ := renderPicture_snd context
      ((d₂.bump.addBuffer ⟨d₂.nextId⟩ (.request request)).record (.createRequest ⟨d₂.nextId⟩))
      [⟨d₂.nextId⟩]
    rw [h₄] at hrendered
    have hd₄ : d₄ = _ := hrendered
    have hmade : d₄.buffers = d₂.buffers ++ [((⟨d₂.nextId⟩ : BufferId), .request request)] := by
      rw [hd₄]
      rfl
    -- the request's buffer goes without a trace
    have houtfit : Outfit u.filters d₂.buffers d₂.nextId := by
      have hstarted : Outfit u.filters d₁.buffers d₁.nextId := by
        rw [hbegun, hnext]
        exact h.outfit
      have happlied := hstarted.applyFlags buffer flags
      rwa [h₂] at happlied
    show SetFlags buffer flags d.buffers
      ((Device.endPicture context d₄).2.buffers.filter (·.1 != ⟨d₂.nextId⟩))
    rw [(Outfit.endPicture context d₄).1, hmade, houtfit.filter_concat]
    exact hset

/-! ## Filters whose flags are never set -/

/-- The filters of a session are on the device, and all but the first are without flags. -/
structure Marked (u : Fixtures) (d : Simulator) : Prop where
  equipped : d.Equipped u
  unset : ∀ id ∈ u.filters.tail, d.buffer? id = some (.filter {})

/-- The same buffers are on the device, and the counter has not gone back. -/
theorem Marked.congr {u : Fixtures} {d later : Simulator} (h : d.Marked u)
    (hbuffers : later.buffers = d.buffers) (hnext : d.nextId ≤ later.nextId)
    (hopen : later.openPicture = d.openPicture) : later.Marked u where
  equipped := ⟨hopen.trans h.equipped.closed, hbuffers ▸ h.equipped.outfit.mono hnext⟩
  unset id hid := by
    rw [buffer?, hbuffers]
    exact h.unset id hid

theorem spares_marked (u : Fixtures) : Device.Spares (Marked u) where
  retain _ _ h := h.congr rfl (Nat.le_refl _) rfl
  release key d h := by
    show (Simulator.release key d).Marked u
    unfold Simulator.release
    rcases d.leases.release? key with ⟨_ | lease, leases⟩ <;>
      exact h.congr rfl (Nat.le_refl _) rfl
  queryCaps context filters d h := by
    rw [queryCaps_eq]
    exact h.congr rfl (Nat.le_refl _) rfl
  createPool desc d h := by
    rcases createPool_cases d desc with ⟨e, heq⟩ | heq <;> rw [heq]
    · exact h
    · exact h.congr rfl (Nat.le_refl _) rfl
  closePool _ _ h := h.congr rfl (Nat.le_refl _) rfl
  allocate pool d h := by
    rcases allocate_cases d pool with ⟨e, heq, -⟩ | ⟨p, id, rest, -, -, -, heq⟩ |
      ⟨p, -, -, -, -, heq⟩ <;> rw [heq]
    · exact h
    · exact h.congr rfl (Nat.le_refl _) rfl
    · exact h.congr rfl (Nat.le_succ _) rfl
  upload pool target frame d h := by
    rcases upload_cases d pool target frame with ⟨e, heq⟩ | heq <;> rw [heq]
    · exact h
    · exact h.congr rfl (Nat.le_refl _) rfl

/-- A session sets the flags of its first filter. -/
theorem submits_marked {s : Session Simulator} (hagrees : s.Agrees) :
    s.Submits (Marked s.fixtures) := by
  intro flags request d h
  refine ⟨h.equipped.submit _ _ flags request, fun id hid => ?_⟩
  rcases h.equipped.buffers_submit s.context s.chain.deinterlaceBuffer? flags request with
    hsame | ⟨set, hset, hchanged⟩
  · rw [buffer?, hsame]
    exact h.unset id hid
  · have hhead : s.fixtures.filters.head? = some set :=
      (hagrees.deinterlaceBuffer?_eq hset).symm.trans hset
    obtain ⟨rest, hfilters⟩ := List.head?_eq_some_iff.1 hhead
    have hnodup := h.equipped.outfit.nodup
    have hid' := hid
    rw [hfilters] at hnodup hid'
    have hne : id ≠ set := by
      rintro rfl
      exact (List.nodup_cons.1 hnodup).1 hid'
    rw [buffer?, hchanged, lookup_replaceBuffer_ne hne]
    exact h.unset id hid

theorem marked_of_open {options : Options} {d : Simulator} (hd : d.Unused)
    {s : Session Simulator} (hopen : Session.open? options d = .ok s) :
    s.device.Marked s.fixtures := by
  have hequipped := equipped_of_open hd hopen
  have hunset : ∀ entry ∈ s.device.buffers, entry.2 = .filter {} := by
    refine Session.open_induction (P := fun d : Simulator => ∀ entry ∈ d.buffers,
      entry.2 = .filter {}) hopen ?_ ?_ ?_ ?_ ?_ (by simp [hd.buffers])
    · intro e he
      rcases createConfig_cases e with ⟨error, heq⟩ | heq <;> rw [heq] <;> exact he
    · intro config e he
      rcases createContext_cases e config with ⟨error, heq⟩ | heq <;> rw [heq] <;> exact he
    · intro context e he
      rw [queryFilters_snd]
      exact he
    · intro context e he
      rw [queryAlgorithms_snd]
      exact he
    · intro context algorithm e he
      rcases createFilter_cases context e algorithm {} with ⟨error, next, -, heq⟩ | heq <;> rw [heq]
      · exact he
      · intro entry hentry
        rcases List.mem_append.1 hentry with hentry | hentry
        · exact he entry hentry
        · rw [List.mem_singleton.1 hentry]
  refine ⟨hequipped, fun id hid => ?_⟩
  obtain ⟨entry, hentry, hfound⟩ := exists_lookup
    (hequipped.outfit.ids_eq.symm ▸ List.mem_of_mem_tail hid)
  exact hfound.trans (congrArg some (hunset entry hentry))

/-- In every state that a session can reach, all filters but the first are without flags. -/
theorem marked_of_reachable {options : Options} {d : Simulator} {c : Custody Simulator}
    (hd : d.Unused) (hc : Custody.Reachable Injects options d c) :
    c.session.device.Marked c.session.fixtures := by
  refine hc.keeps spares_marked ?_ (fun s => submits_marked) fun s => marked_of_open hd
  intro u change hchange e he
  obtain ⟨failing, heq⟩ := hchange e
  rw [heq]
  exact he.congr rfl (Nat.le_refl _) rfl

/-! ## Renditions -/

theorem buffers_of_updateFlags {id : BufferId} {flags : DeintFlags} {d later : Simulator}
    (h : Device.updateFlags id flags d = (.ok (), later)) :
    later.buffers = replaceBuffer d.buffers id (.filter flags) ∧ later.nextId = d.nextId := by
  rcases updateFlags_cases d id flags with ⟨e, heq⟩ | heq <;> cases h.symm.trans heq
  exact ⟨rfl, rfl⟩

theorem buffers_of_createRequest {context : ContextId} {request : RenderRequest}
    {params : BufferId} {d later : Simulator}
    (h : Device.createRequest context request d = (.ok params, later)) :
    params = ⟨d.nextId⟩ ∧ later.buffers = d.buffers ++ [(⟨d.nextId⟩, .request request)] := by
  rcases createRequest_cases context d request with ⟨e, heq⟩ | heq <;> cases h.symm.trans heq
  exact ⟨rfl, rfl⟩

/-- What is on the device when it renders: the request, the flags of the field in the first filter,
and the others without flags. -/
theorem Marked.prepared {s : Session Simulator} {u : Fixtures} (h : s.device.Marked u)
    {first : BufferId} {rest : List BufferId} (hfilters : u.filters = first :: rest)
    (hbuffer : s.chain.deinterlaceBuffer? = some first) {current : Frame} {request : RenderRequest}
    {params : BufferId} {ready : Simulator}
    (hprepared : Recorded.Prepared s.device s.context s.chain s.window s.pool current request
      params ready) :
    ready.buffer? params = some (.request request) ∧
    ready.buffer? first =
      some (.filter (.ofField (Rendering.fieldOf s.window) s.window.topFieldFirst)) ∧
    ∀ id ∈ rest, ready.buffer? id = some (.filter {}) := by
  obtain ⟨p, target, lent, begun, set, -, hallocate, -, hbegin, hflags, hcreate⟩ := hprepared
  have hlent := (spares_marked u).allocate_eq h hallocate
  obtain ⟨hbegun, hnext⟩ := buffers_beginPicture s.context target.id lent
  rw [hbegin] at hbegun hnext
  rw [hbuffer] at hflags
  obtain ⟨hset, hsame⟩ := buffers_of_updateFlags hflags
  obtain ⟨rfl, hready⟩ := buffers_of_createRequest hcreate
  rw [hbegun] at hset
  rw [hsame, hnext, hset] at hready
  have houtfit := hlent.equipped.outfit
  have hfirst : first ∈ u.filters := by simp [hfilters]
  obtain ⟨before, hbefore⟩ := houtfit.exists_flags hfirst
  have hnodup := houtfit.nodup
  rw [hfilters] at hnodup
  refine ⟨?_, ?_, fun id hid => ?_⟩
  · rw [hsame, hnext, buffer?, hready]
    exact lookup_concat_fresh (houtfit.replaceBuffer first _).fresh _
  · rw [buffer?, hready]
    exact lookup_concat_of_some (lookup_replaceBuffer_self hbefore _) _
  · have hne : id ≠ first := by
      rintro rfl
      exact (List.nodup_cons.1 hnodup).1 hid
    rw [buffer?, hready]
    refine lookup_concat_of_some ?_ _
    rw [lookup_replaceBuffer_ne hne]
    exact hlent.unset id (by simpa [hfilters] using hid)

end Simulator

namespace Custody

open Device (Operation replay)

/-- **When a picture is rendered, the first filter has the flags of its field, and the others have
none.** Whatever has happened before, an output renders a field of the current frame with all
filters of the session, every one a deinterlacing filter. At that moment the first of them is marked
for that field. All of them are marked for it exactly if there is one, or if the field is the upper
one of a frame of which the upper field was taken first. -/
theorem flags_of_reachable {options : Options} {d : Simulator} {c : Custody Simulator}
    (hd : d.Unused) (hc : Reachable Simulator.Injects options d c) {earlier later : List Operation}
    {context : ContextId} {ids : List BufferId}
    (h : c.session.operations .output = earlier ++ .renderPicture context ids :: later) :
    let ready := replay earlier c.session.device
    ∃ current request params first rest, c.session.window.current? = some current ∧
      ids = [params] ∧ ready.buffer? params = some (.request request) ∧
      request.filters = first :: rest ∧
      (∀ id ∈ request.filters, ∃ filter ∈ c.session.chain.descriptors,
        filter.buffer = id ∧ filter.filter = .deinterlacing) ∧
      request.field ≠ .frame ∧
      ready.Denotes first request.field current.topFieldFirst ∧
      (∀ id ∈ rest, ready.buffer? id = some (.filter {})) ∧
      ((∀ id ∈ request.filters, ready.Denotes id request.field current.topFieldFirst) ↔
        rest = [] ∨ request.field = .top ∧ current.topFieldFirst = true) := by
  intro ready
  obtain ⟨current, request, params, -, hids, hout, hcur, hpass, hprepared⟩ :=
    c.session.rendition_of_operations h
  have hagrees := hc.agrees.1
  obtain ⟨hempty, hshould⟩ : c.session.chain.active ≠ [] ∧
      c.session.window.shouldDeinterlace = true := by
    simpa [Session.passesThrough] using hpass
  obtain ⟨hactive, hbuffer⟩ := hagrees.active_eq hempty
  obtain ⟨first, rest, hfilters⟩ := List.exists_cons_of_ne_nil (hactive ▸ hempty)
  rw [hfilters, List.head?_cons] at hbuffer
  have hrequest : request.filters = first :: rest ∧
      request.field = Rendering.fieldOf c.session.window := by
    obtain ⟨p, target, lent, begun, set, -, -, rfl, -⟩ := hprepared
    exact ⟨hactive.trans hfilters, rfl⟩
  obtain ⟨hchain, hfield⟩ := hrequest
  have htop : c.session.window.topFieldFirst = current.topFieldFirst := by
    simp [Window.topFieldFirst, hout, hcur]
  have hframe : request.field ≠ .frame := by
    rw [hfield, Rendering.fieldOf_eq hcur hshould]
    split <;> decide
  obtain ⟨hparams, hset, hunset⟩ :=
    (Simulator.marked_of_reachable hd hc).prepared hfilters hbuffer hprepared
  rw [← hfield, htop] at hset
  have hfirst : ready.Denotes first request.field current.topFieldFirst :=
    (Simulator.denotes_iff hset).2 (DeintFlags.denotes_ofField hframe _)
  refine ⟨current, request, params, first, rest, hcur, hids, hparams, hchain, ?_, hframe, hfirst,
    hunset, ?_⟩
  · intro id hid
    rw [hchain, ← hfilters] at hid
    obtain ⟨filter, hfilter, rfl⟩ := List.mem_map.1 hid
    exact ⟨filter, hfilter, rfl, hagrees.descriptors filter hfilter⟩
  · rw [hchain]
    exact Simulator.all_denote_iff hframe hfirst hunset

/-- A frame whose lower field was taken first. -/
def lowerFirst {σ : Type} : List (Deed σ) :=
  [.call (.reconfigure (.hardware 720 576 720 576)),
    .call (.input (some { Frame.decoded ⟨1⟩ 720 576 with fields := ⟨1⟩ }))]

theorem permits_lowerFirst {σ : Type} [Device σ] (harmless : (σ → σ) → Prop) :
    lowerFirst.Forall fun deed => ∀ c : Custody σ, c.Permits harmless deed := by
  refine ⟨fun _ => trivial, ?_⟩
  intro c given hgiven
  cases hgiven
  rfl

/-- The request for the lower field of the frame. -/
def lowerRequest (target : SurfaceId) (filters : List BufferId) : RenderRequest where
  source := ⟨1⟩
  destination := target
  sourceRegion := .ofSize 720 576
  outputRegion := .ofSize 720 576
  field := .bottom
  colorspace := .bt601
  filters := filters
  forwardReferences := []
  backwardReferences := []

/-- What is asked of the device before the request is rendered. -/
def lowerOperations (target : SurfaceId) (filters : List BufferId) : List Operation :=
  [.allocate 0, .beginPicture ⟨0x11⟩ target, .updateFlags ⟨0x12⟩ ⟨3⟩,
    .createRequest ⟨0x11⟩ (lowerRequest target filters)]

/-- A chain of one filter has its flags set. -/
theorem flagged_of_lowerFirst : ∃ c : Custody Simulator, Reachable Simulator.Injects {} {} c ∧
    c.session.operations .output = lowerOperations ⟨0x13⟩ [⟨0x12⟩] ++
      .renderPicture ⟨0x11⟩ [⟨0x14⟩] :: [.endPicture ⟨0x11⟩, .destroyBuffer ⟨0x14⟩] ∧
    (replay (lowerOperations ⟨0x13⟩ [⟨0x12⟩]) c.session.device).Denotes ⟨0x12⟩ .bottom false := by
  obtain ⟨s, hs⟩ : ∃ s, Session.open? {} ({} : Simulator) = .ok s := ⟨_, rfl⟩
  have hreached : Reachable Simulator.Injects {} {} (act { session := s } lowerFirst) :=
    (Reachable.opened hs).act (permits_lowerFirst _)
  have hrenders : (act { session := s } lowerFirst).session.operations .output =
      lowerOperations ⟨0x13⟩ [⟨0x12⟩] ++
        .renderPicture ⟨0x11⟩ [⟨0x14⟩] :: [.endPicture ⟨0x11⟩, .destroyBuffer ⟨0x14⟩] := by
    cases hs
    rfl
  refine ⟨_, hreached, hrenders, ?_⟩
  obtain ⟨current, request, params, first, rest, hcur, hids, hrequest, hchain, -, -, hdenotes, -⟩ :=
    flags_of_reachable ⟨rfl, rfl, rfl, rfl, rfl, rfl⟩ hreached hrenders
  cases hs
  cases hcur
  cases hids
  cases hrequest
  cases hchain
  exact hdenotes

/-- A device that names deinterlacing twice. -/
def twinFilters : Simulator := { filters := [.deinterlacing, .deinterlacing] }

/-- The lower field is rendered with a second filter that is marked for an upper one. -/
theorem not_flagged_of_twinFilters : ∃ c : Custody Simulator,
    Reachable Simulator.Injects {} twinFilters c ∧
    c.session.operations .output = lowerOperations ⟨0x14⟩ [⟨0x12⟩, ⟨0x13⟩] ++
      .renderPicture ⟨0x11⟩ [⟨0x15⟩] :: [.endPicture ⟨0x11⟩, .destroyBuffer ⟨0x15⟩] ∧
    (replay (lowerOperations ⟨0x14⟩ [⟨0x12⟩, ⟨0x13⟩]) c.session.device).buffer? ⟨0x15⟩ =
      some (.request (lowerRequest ⟨0x14⟩ [⟨0x12⟩, ⟨0x13⟩])) ∧
    ¬ (replay (lowerOperations ⟨0x14⟩ [⟨0x12⟩, ⟨0x13⟩]) c.session.device).Denotes ⟨0x13⟩ .bottom
      false := by
  obtain ⟨s, hs⟩ : ∃ s, Session.open? {} twinFilters = .ok s := ⟨_, rfl⟩
  have hreached : Reachable Simulator.Injects {} twinFilters (act { session := s } lowerFirst) :=
    (Reachable.opened hs).act (permits_lowerFirst _)
  cases hs
  refine ⟨_, hreached, rfl, rfl, ?_⟩
  rintro ⟨flags, hflags, hdenotes⟩
  cases hflags
  exact absurd (hdenotes.bottom_iff.2 rfl) (by decide)

end Custody

end Deinterlace
