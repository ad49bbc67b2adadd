import Deinterlace.Proofs.Device.Stock
import Deinterlace.Va.Display

/-!
# What calls do to a VA device

Whatever its driver answers, a VA device changes in few ways. Most operations only call the driver,
and none of those calls makes or destroys surfaces or ends the display (`Display.Hears`); a picture
changes the list of pending requests as well (`Display.Spares`). What is left is to lend a surface,
off the shelf or new (`Display.allocate_cases`), to take one back (`Display.release_of_last`), and
to let go of what nobody needs any more (`Display.reclaimPool_cases`, `Display.reclaim_cases`).
-/
namespace Deinterlace.Va

variable {δ : Type} [Library δ]

/-! ## Drivers -/

/-- What may have become of a driver that was written to through mappings and called, where every
call was allowed with the status that it was answered with. -/
inductive Leads (allowed : Call → Int → Prop) (driver : δ) : δ → Prop
  | refl : Leads allowed driver driver
  | call {later : δ} (c : Call) (h : Leads allowed driver later)
      (hc : allowed c (Library.call c later).1) : Leads allowed driver (Library.call c later).2.2
  | write {later : δ} (address : Address) (patch : Patch) (h : Leads allowed driver later) :
      Leads allowed driver (Library.write address patch later)

namespace Leads

variable {allowed : Call → Int → Prop} {driver middle later : δ}

theorem trans (h : Leads allowed driver middle) (hlater : Leads allowed middle later) :
    Leads allowed driver later := by
  induction hlater with
  | refl => exact h
  | call c _ hc ih => exact ih.call c hc
  | write address patch _ ih => exact ih.write address patch

theorem mono {other : Call → Int → Prop} (himp : ∀ c status, allowed c status → other c status)
    (h : Leads allowed driver later) : Leads other driver later := by
  induction h with
  | refl => exact .refl
  | call c _ hc ih => exact ih.call c (himp c _ hc)
  | write address patch _ ih => exact ih.write address patch

theorem one (c : Call) (hc : allowed c (Library.call c driver).1) :
    Leads allowed driver (Library.call c driver).2.2 :=
  refl.call c hc

end Leads

/-- Whether a call that is answered with a status leaves the display and its surfaces alone. -/
def Call.Spares : Call → Int → Prop
  | .createSurfaces .., status => status ≠ success
  | .terminate, _ | .destroySurfaces _, _ => False
  | _, _ => True

/-- Whether a call that is answered with a status makes no surface, and tells the driver nothing
about pictures and buffers. -/
def Call.Mute : Call → Int → Prop
  | .createSurfaces .., status => status ≠ success
  | .beginPicture .., _ | .createBuffer .., _ | .destroyBuffer _, _ | .mapBuffer _, _
  | .unmapBuffer _, _ => False
  | _, _ => True

namespace Display

/-! ## Devices from outside -/

/-- Nothing has been made on the device. -/
structure Unused (d : Display δ) : Prop where
  pending : d.pending = []
  pools : d.pools = []
  leases : d.leases = {}
  isOpen : d.isOpen = true
  isTerminated : d.isTerminated = false

/-- Opening asks for a display and starts it. -/
theorem eq_of_openAt {path : String} {driver : δ} {d : Display δ}
    (h : openAt path driver = .ok d) : ∃ version,
      d = { driver := (Library.call .startDisplay (Library.call .getDisplay driver).2.2).2.2,
            version } := by
  unfold openAt at h
  split at h
  · cases h
  · split at h
    · cases h
    · split at h
      · cases h
      · rename_i status later hdisplay
        rw [hdisplay]
        dsimp only at h
        split at h
        · cases h
          exact ⟨_, rfl⟩
        · cases h

theorem unused_of_openAt {path : String} {driver : δ} {d : Display δ}
    (h : openAt path driver = .ok d) : d.Unused ∧ Leads Call.Spares driver d.driver := by
  obtain ⟨version, rfl⟩ := eq_of_openAt h
  exact ⟨⟨rfl, rfl, rfl, rfl, rfl⟩, (Leads.one .getDisplay trivial).call .startDisplay trivial⟩

/-! ## Single calls -/

theorem check_of_success {α : Type} (entry : EntryPoint) {status : Int} (answer : α)
    (d : Display δ) (h : status = success) : check entry status answer d = (.ok answer, d) :=
  if_pos h

theorem check_of_failure {α : Type} (entry : EntryPoint) {status : Int} (answer : α)
    (d : Display δ) (h : status ≠ success) : check entry status answer d =
      (.error ⟨entry.name, status, (errorText status d.driver).1⟩,
        { d with driver := (errorText status d.driver).2 }) :=
  if_neg h

/-- A call that succeeds. -/
theorem ask_of_success {c : Call} {d : Display δ} (h : (Library.call c d.driver).1 = success) :
    d.ask c = (.ok (Library.call c d.driver).2.1,
      { d with driver := (Library.call c d.driver).2.2 }) :=
  check_of_success _ _ _ h

/-- After a call that fails the driver is asked for a text. -/
theorem ask_of_failure {c : Call} {d : Display δ} (h : (Library.call c d.driver).1 ≠ success) :
    d.ask c = (.error ⟨c.entry.name, (Library.call c d.driver).1,
        (errorText (Library.call c d.driver).1 (Library.call c d.driver).2.2).1⟩,
      { d with driver :=
          (errorText (Library.call c d.driver).1 (Library.call c d.driver).2.2).2 }) :=
  check_of_failure _ _ _ h

theorem ask_cases (c : Call) (d : Display δ) :
    ((Library.call c d.driver).1 = success ∧ d.ask c =
      (.ok (Library.call c d.driver).2.1, { d with driver := (Library.call c d.driver).2.2 })) ∨
    ((Library.call c d.driver).1 ≠ success ∧ ∃ e, d.ask c = (.error e, { d with driver :=
      (Library.call (.errorString (Library.call c d.driver).1)
        (Library.call c d.driver).2.2).2.2 })) := by
  by_cases h : (Library.call c d.driver).1 = success
  · exact .inl ⟨h, ask_of_success h⟩
  · exact .inr ⟨h, _, ask_of_failure h⟩

/-- A call that has been answered was successful. -/
theorem eq_of_ask_ok {c : Call} {d later : Display δ} {output : c.Output}
    (h : d.ask c = (.ok output, later)) :
    Library.call c d.driver = (success, output, later.driver) ∧
      later = { d with driver := later.driver } := by
  rcases ask_cases c d with ⟨hstatus, heq⟩ | ⟨-, e, heq⟩ <;> rw [heq] at h <;> cases h
  exact ⟨Prod.ext hstatus rfl, rfl⟩

omit [Library δ] in
theorem snd_mapAnswer {α β : Type} (f : α → β) (outcome : Outcome (Display δ) α) :
    (mapAnswer f outcome).2 = outcome.2 := by
  obtain ⟨result, d⟩ := outcome
  cases result <;> rfl

/-! ## Operations that only the driver hears of -/

/-- Nothing has changed but the driver, and neither the display nor surfaces were concerned. -/
def Hears (d later : Display δ) : Prop :=
  Leads Call.Spares d.driver later.driver ∧ later = { d with driver := later.driver }

namespace Hears

variable {d middle later : Display δ}

theorem refl (d : Display δ) : Hears d d := ⟨.refl, rfl⟩

theorem trans (h : Hears d middle) (hlater : Hears middle later) : Hears d later := by
  obtain ⟨hleads, hmiddle⟩ := h
  obtain ⟨hleads', heq⟩ := hlater
  refine ⟨hleads.trans hleads', ?_⟩
  rw [hmiddle] at heq
  exact heq

theorem run (c : Call) (hc : ∀ status, c.Spares status) (d : Display δ) : Hears d (d.run c) :=
  ⟨.one c (hc _), rfl⟩

theorem write (address : Address) (patch : Patch) (d : Display δ) :
    Hears d (d.write address patch) :=
  ⟨.write address patch .refl, rfl⟩

theorem ask (c : Call) (hc : ∀ status, c.Spares status) (d : Display δ) :
    Hears d (d.ask c).2 := by
  rcases ask_cases c d with ⟨-, heq⟩ | ⟨-, e, heq⟩ <;> rw [heq]
  · exact ⟨.one c (hc _), rfl⟩
  · exact ⟨(Leads.one c (hc _)).call (.errorString _) trivial, rfl⟩

/-- A call may concern surfaces as long as it fails. -/
theorem of_ask_error {c : Call} (hc : ∀ status, status ≠ success → c.Spares status)
    {e : DeviceError} (h : d.ask c = (.error e, later)) : Hears d later := by
  rcases ask_cases c d with ⟨-, heq⟩ | ⟨hstatus, e, heq⟩ <;> rw [heq] at h <;> cases h
  exact ⟨(Leads.one c (hc _ hstatus)).call (.errorString _) trivial, rfl⟩

theorem mapAnswer_ask (c : Call) {β : Type} {f : c.Output → β}
    (hc : ∀ status, c.Spares status) (d : Display δ) : Hears d (mapAnswer f (d.ask c)).2 := by
  rw [snd_mapAnswer]
  exact ask c hc d

theorem createConfig (d : Display δ) : Hears d (Device.createConfig d).2 :=
  mapAnswer_ask (.createConfig noProfile videoProcessing 0) (fun _ => trivial) d

theorem destroyConfig (config : ConfigId) (d : Display δ) :
    Hears d (Device.destroyConfig config d) :=
  run _ (fun _ => by trivial) d

theorem createContext (config : ConfigId) (d : Display δ) :
    Hears d (Device.createContext config d).2 :=
  mapAnswer_ask (.createContext config.value 0 0 0 []) (fun _ => trivial) d

theorem destroyContext (context : ContextId) (d : Display δ) :
    Hears d (Device.destroyContext context d) :=
  run _ (fun _ => by trivial) d

theorem queryFilters (context : ContextId) (d : Display δ) :
    Hears d (Device.queryFilters context d).2 :=
  mapAnswer_ask (.queryFilters context.value maxFilters) (fun _ => trivial) d

theorem queryAlgorithms (context : ContextId) (d : Display δ) :
    Hears d (Device.queryAlgorithms context d).2 :=
  mapAnswer_ask (.queryFilterCaps context.value deinterlacingCode maxAlgorithms)
    (fun _ => trivial) d

theorem createFilter (context : ContextId) (algorithm : Algorithm) (flags : DeintFlags)
    (d : Display δ) : Hears d (Device.createFilter context algorithm flags d).2 :=
  mapAnswer_ask (.createBuffer context.value 1
    (.filter ⟨deinterlacingCode, algorithmCode algorithm, flags.bits⟩)) (fun _ => trivial) d

theorem queryCaps (context : ContextId) (filters : List BufferId) (d : Display δ) :
    Hears d (Device.queryCaps context filters d).2 :=
  mapAnswer_ask (.queryPipelineCaps context.value (filters.map (Handle.value ·)) maxStandards
    maxStandards) (fun _ => trivial) d

theorem beginPicture (context : ContextId) (target : SurfaceId) (d : Display δ) :
    Hears d (Device.beginPicture context target d).2 :=
  ask _ (fun _ => by trivial) d

theorem renderPicture (context : ContextId) (ids : List BufferId) (d : Display δ) :
    Hears d (Device.renderPicture context ids d).2 :=
  ask _ (fun _ => by trivial) d

theorem destroyBuffer (id : BufferId) (d : Display δ) : Hears d (Device.destroyBuffer id d) :=
  run _ (fun _ => by trivial) d

theorem updateFlags (id : BufferId) (flags : DeintFlags) (d : Display δ) :
    Hears d (Device.updateFlags id flags d).2 := by
  have hmapped : Hears d (d.ask (.mapBuffer id.value)).2 := ask _ (fun _ => by trivial) d
  simp only [Device.updateFlags, Display.updateFlags]
  split
  case h_3 address mapped hask =>
    rw [hask] at hmapped
    exact hmapped.trans ((write address (.flags flags.bits) mapped).trans
      (run (.unmapBuffer id.value) (fun _ => trivial) _))
  all_goals
    rename_i hask
    rw [hask] at hmapped
    exact hmapped

theorem writeImage (image : Image) (source : SoftwareImage) (d : Display δ) :
    Hears d (d.writeImage image source).2 := by
  have hmapped : Hears d (d.ask (.mapBuffer image.buffer)).2 := ask _ (fun _ => by trivial) d
  unfold Display.writeImage
  split
  · exact refl d
  · split
    case h_3 address mapped hask =>
      rw [hask] at hmapped
      have hwritten : ∀ bytes, Hears d ((mapped.write address (.bytes bytes)).run
          (.unmapBuffer image.buffer)) := fun bytes =>
        hmapped.trans ((write address (.bytes bytes) mapped).trans
          (run (.unmapBuffer image.buffer) (fun _ => trivial) _))
      dsimp only
      split <;> exact hwritten _
    all_goals
      rename_i hask
      rw [hask] at hmapped
      exact hmapped

theorem upload (pool : PoolId) (target : Surface) (frame : Frame) (d : Display δ) :
    Hears d (Device.upload pool target frame d).2 := by
  have hderived : Hears d (d.ask (.deriveImage target.id.value)).2 := ask _ (fun _ => by trivial) d
  simp only [Device.upload, Display.upload]
  split
  · exact refl d
  · split
    · rename_i hask
      rw [hask] at hderived
      exact hderived
    · rename_i image derived hask
      rw [hask] at hderived
      exact hderived.trans ((writeImage image _ derived).trans
        (run (.destroyImage image.id) (fun _ => trivial) _))

end Hears

/-! ## Pictures -/

/-- Nothing has changed but the driver and the list of pending requests. -/
def Spares (d later : Display δ) : Prop := Hears { d with pending := later.pending } later

namespace Spares

variable {d middle later : Display δ}

theorem of_hears (h : Hears d later) : Spares d later := by
  have hpending : later.pending = d.pending := by
    rw [h.2]
  rw [Spares, hpending]
  exact h

theorem refl (d : Display δ) : Spares d d := of_hears (.refl d)

theorem trans (h : Spares d middle) (hlater : Spares middle later) : Spares d later := by
  obtain ⟨hleads, hmiddle⟩ := h
  obtain ⟨hleads', heq⟩ := hlater
  refine ⟨hleads.trans hleads', ?_⟩
  rw [hmiddle] at heq
  exact heq

theorem hears (h : Spares d middle) (hlater : Hears middle later) : Spares d later :=
  h.trans (of_hears hlater)

theorem createRequest (context : ContextId) (request : RenderRequest) (d : Display δ) :
    Spares d (Device.createRequest context request d).2 := by
  have hmade : Hears d (d.ask (.createBuffer context.value 1
      (.picture (pictureParams request)))).2 :=
    .ask _ (fun _ => by trivial) d
  simp only [Device.createRequest, Display.createRequest]
  split
  · rename_i hask
    rw [hask] at hmade
    exact of_hears hmade
  · rename_i id made hask
    rw [hask] at hmade
    exact (of_hears hmade).trans ⟨.refl, rfl⟩

theorem endPicture (context : ContextId) (d : Display δ) :
    Spares d (Device.endPicture context d).2 := by
  have hended : Leads Call.Spares d.driver
      (Library.call (.endPicture context.value) d.driver).2.2 := .one _ trivial
  simp only [Device.endPicture, Display.endPicture, check]
  split
  · exact ⟨hended, rfl⟩
  · exact ⟨hended.call (.errorString _) trivial, rfl⟩

theorem submit (context : ContextId) (buffer : Option BufferId) (flags : DeintFlags)
    (request : RenderRequest) (d : Display δ) :
    Spares d (Rendering.submit context buffer flags request d).2 := by
  refine Rendering.submit_induction ?_ ?_ ?_ ?_ ?_ ?_ buffer flags request (refl d)
  · exact fun target e he => he.hears (.beginPicture context target e)
  · exact fun id flags e he => he.hears (.updateFlags id flags e)
  · exact fun request e he => he.trans (createRequest context request e)
  · exact fun ids e he => he.hears (.renderPicture context ids e)
  · exact fun e he => he.trans (endPicture context e)
  · exact fun id e he => he.hears (.destroyBuffer id e)

end Spares

/-! ## Surfaces come and go -/

/-- The call with which a pool has a surface made. -/
abbrev makes (desc : PoolDesc) : Call := .createSurfaces surfaceLayout desc.width desc.height 1 0

/-- The outcomes of taking a surface: there is none, one off the shelf, or a new one. -/
theorem allocate_cases (pool : PoolId) (d : Display δ) :
    (∃ e later, Hears d later ∧ Device.allocate pool d = (.error e, later)) ∨
    (∃ p id rest, d.pools[pool]? = some p ∧ p.free = id :: rest ∧ Device.allocate pool d =
      (d.modifyPool pool fun p => { p with free := rest }).lend pool p.desc id) ∨
    (∃ p id driver, d.pools[pool]? = some p ∧ p.free = [] ∧ p.made.length < maxPoolSurfaces ∧
      Library.call (makes p.desc) d.driver = (success, id, driver) ∧
      Device.allocate pool d =
        (modifyPool { d with driver } pool fun p => { p with made := p.made ++ [id] }).lend pool
          p.desc ⟨id⟩) := by
  simp only [Device.allocate, allocate]
  cases hpool : d.pools[pool]? with
  | none => exact .inl ⟨_, d, .refl d, rfl⟩
  | some p =>
    cases hfree : p.free with
    | cons id rest => exact .inr (.inl ⟨p, id, rest, rfl, hfree, by simp only [hfree]⟩)
    | nil =>
      by_cases hfull : maxPoolSurfaces ≤ p.made.length
      · exact .inl ⟨exhausted, d, .refl d, by simp only [hfree, if_pos hfull]⟩
      · rcases hask : d.ask (makes p.desc) with ⟨e | id, asked⟩
        · exact .inl ⟨e, asked, .of_ask_error (fun _ => id) hask,
            by simp only [hfree, if_neg hfull, hask]⟩
        · obtain ⟨hcall, hasked⟩ := eq_of_ask_ok hask
          refine .inr (.inr ⟨p, id, asked.driver, rfl, hfree, Nat.lt_of_not_le hfull, hcall, ?_⟩)
          rw [← hasked]
          simp only [hfree, if_neg hfull, hask]

section Release

variable {d : Display δ} {key : LeaseId} {leases : Leases}

/-- The last holder of a lease gives the surface back to its pool, which may be gone with it. -/
theorem release_of_last {l : Lease} (h : d.leases.release? key = (some l, leases)) :
    Device.release key d = reclaimPool l.pool (modifyPool { d with leases } l.pool fun p =>
      { p with free := l.surface :: p.free }) := by
  simp only [Device.release, Display.release, h]

theorem release_of_others (h : d.leases.release? key = (none, leases)) :
    Device.release key d = { d with leases } := by
  simp only [Device.release, Display.release, h]

end Release

/-! ## What goes when nobody needs it -/

/-- What becomes of a pool that is closed and has no surface out: its surfaces are destroyed. -/
def vacate (d : Display δ) (pool : PoolId) (p : Pool) : Display δ :=
  (if p.made.isEmpty then d else d.run (.destroySurfaces p.made)).modifyPool pool
    fun p => { p with free := [], isGone := true }

/-- A pool stays as it is unless it is closed, not gone yet, and none of its surfaces is out. -/
theorem reclaimPool_cases (pool : PoolId) (d : Display δ) :
    ((∀ p, d.pools[pool]? = some p → p.isOpen = false → d.leases.anyOf pool = false →
        p.isGone = true) ∧ d.reclaimPool pool = d) ∨
    (∃ p, d.pools[pool]? = some p ∧ p.isOpen = false ∧ p.isGone = false ∧
      d.leases.anyOf pool = false ∧ d.reclaimPool pool = (d.vacate pool p).reclaim) := by
  unfold reclaimPool
  cases hp : d.pools[pool]? with
  | none => exact .inl ⟨fun p hp => (Option.some_ne_none p hp.symm).elim, rfl⟩
  | some p =>
    dsimp only
    by_cases hstays : (p.isOpen || p.isGone || d.leases.anyOf pool) = true
    · refine .inl ⟨fun q hq hclosed hin => ?_, if_pos hstays⟩
      cases hq
      simpa [hclosed, hin] using hstays
    · have hleaves := hstays
      simp only [Bool.or_eq_true, not_or, Bool.not_eq_true] at hleaves
      obtain ⟨⟨hclosed, hkept⟩, hin⟩ := hleaves
      exact .inr ⟨p, rfl, hclosed, hkept, hin, if_neg hstays⟩

theorem reclaimPool_of_open {d : Display δ} {pool : PoolId} {p : Pool}
    (hp : d.pools[pool]? = some p) (hopen : p.isOpen = true) : d.reclaimPool pool = d := by
  unfold reclaimPool
  rw [hp]
  simp only [hopen, Bool.true_or, if_true]

/-- The display stays as it is, or it is terminated: when it has been given up, has not been
terminated before, and every pool is gone. -/
theorem reclaim_cases (d : Display δ) :
    (¬ (d.isOpen = false ∧ d.isTerminated = false ∧ ∀ p ∈ d.pools, p.isGone = true) ∧
      d.reclaim = d) ∨
    (d.isOpen = false ∧ d.isTerminated = false ∧ (∀ p ∈ d.pools, p.isGone = true) ∧
      d.reclaim = { d.run .terminate with isTerminated := true }) := by
  unfold reclaim
  by_cases hstays : (d.isOpen || d.isTerminated || d.pools.any (!·.isGone)) = true
  · refine .inl ⟨?_, if_pos hstays⟩
    rintro ⟨hclosed, hrunning, hgone⟩
    rw [hclosed, hrunning, Bool.false_or, Bool.false_or, List.any_eq_true] at hstays
    obtain ⟨p, hp, hkept⟩ := hstays
    rw [hgone p hp] at hkept
    cases hkept
  · have hleaves := hstays
    simp only [Bool.or_eq_true, not_or, Bool.not_eq_true, List.any_eq_false,
      Bool.not_eq_true'] at hleaves
    obtain ⟨⟨hclosed, hrunning⟩, hgone⟩ := hleaves
    exact .inr ⟨hclosed, hrunning, fun p hp => by simpa using hgone p hp, if_neg hstays⟩

/-- A display that is open is not terminated. -/
theorem vacate_eq (d : Display δ) (i : PoolId) (p : Pool) :
    (d.vacate i p).pools = d.pools.modify i (fun p => { p with free := [], isGone := true }) ∧
      (d.vacate i p).leases = d.leases ∧ (d.vacate i p).isOpen = d.isOpen ∧
      (d.vacate i p).isTerminated = d.isTerminated ∧ (d.vacate i p).pending = d.pending ∧
      (d.vacate i p).driver =
        if p.made = [] then d.driver
        else (Library.call (.destroySurfaces p.made) d.driver).2.2 := by
  unfold vacate
  cases hmade : p.made <;> exact ⟨rfl, rfl, rfl, rfl, rfl, rfl⟩

theorem reclaim_eq (d : Display δ) : d.reclaim.pools = d.pools ∧ d.reclaim.leases = d.leases ∧
    d.reclaim.isOpen = d.isOpen ∧ d.reclaim.pending = d.pending := by
  rcases d.reclaim_cases with ⟨-, heq⟩ | ⟨-, -, -, heq⟩ <;> rw [heq] <;> exact ⟨rfl, rfl, rfl, rfl⟩

theorem reclaimPool_eq (pool : PoolId) (d : Display δ) : (d.reclaimPool pool).leases = d.leases ∧
    (d.reclaimPool pool).isOpen = d.isOpen ∧ (d.reclaimPool pool).pending = d.pending ∧
    (d.reclaimPool pool).pools.length = d.pools.length := by
  rcases d.reclaimPool_cases pool with ⟨-, heq⟩ | ⟨p, -, -, -, -, heq⟩ <;> rw [heq]
  · exact ⟨rfl, rfl, rfl, rfl⟩
  · obtain ⟨hpools, hleases, hopen, -, hpending, -⟩ := vacate_eq d pool p
    obtain ⟨hpools', hleases', hopen', hpending'⟩ := (d.vacate pool p).reclaim_eq
    refine ⟨hleases'.trans hleases, hopen'.trans hopen, hpending'.trans hpending, ?_⟩
    rw [hpools', hpools, List.length_modify]

/-! ## What is known of the driver -/

/-- Any driver in place of the present one. -/
def Replaces (change : Display δ → Display δ) : Prop := ∀ d, ∃ driver, change d = { d with driver }

section Driver

variable (d : Display δ)

theorem leads_reclaim : Leads Call.Mute d.driver d.reclaim.driver := by
  rcases d.reclaim_cases with ⟨-, heq⟩ | ⟨-, -, -, heq⟩ <;> rw [heq]
  · exact .refl
  · exact .one .terminate trivial

theorem leads_reclaimPool (pool : PoolId) :
    Leads Call.Mute d.driver (d.reclaimPool pool).driver := by
  rcases d.reclaimPool_cases pool with ⟨-, heq⟩ | ⟨p, -, -, -, -, heq⟩ <;> rw [heq]
  · exact .refl
  · refine Leads.trans ?_ (leads_reclaim (d.vacate pool p))
    obtain ⟨-, -, -, -, -, hdriver⟩ := vacate_eq d pool p
    rw [hdriver]
    split
    · exact .refl
    · exact .one (.destroySurfaces p.made) trivial

theorem leads_release (key : LeaseId) :
    Leads Call.Mute d.driver (Device.release key d).driver := by
  rcases hresult : d.leases.release? key with ⟨_ | lease, leases⟩
  · rw [release_of_others hresult]
    exact .refl
  · rw [release_of_last hresult]
    exact leads_reclaimPool (modifyPool { d with leases } lease.pool fun p =>
      { p with free := lease.surface :: p.free }) lease.pool

theorem leads_closePool (pool : PoolId) :
    Leads Call.Mute d.driver (Device.closePool pool d).driver :=
  leads_reclaimPool (d.modifyPool pool fun p => { p with isOpen := false }) pool

theorem leads_allocate (pool : PoolId) :
    Leads (fun _ _ => True) d.driver (Device.allocate pool d).2.driver := by
  rcases allocate_cases pool d with ⟨e, later, hhears, heq⟩ | ⟨p, id, rest, -, -, heq⟩ |
    ⟨p, id, driver, -, -, -, hcall, heq⟩ <;> rw [heq]
  · exact hhears.1.mono fun _ _ _ => trivial
  · exact .refl
  · have hmade : Leads (fun _ _ => True) d.driver (Library.call (makes p.desc) d.driver).2.2 :=
      .one _ trivial
    rw [hcall] at hmade
    exact hmade

end Driver

/-- What no call changes about a driver, a session upholds. -/
theorem upholds_of_leads (u : Fixtures) {P : δ → Prop}
    (h : ∀ driver later, Leads (fun _ _ => True) driver later → P driver → P later) :
    Device.Upholds u fun _ _ (d : Display δ) => P d.driver where
  perm _ hd := hd
  retain _ hd := hd
  release := h _ _ ((leads_release _ _).mono fun _ _ _ => trivial)
  queryCaps _ := h _ _ ((Hears.queryCaps _ _ _).1.mono fun _ _ _ => trivial)
  createPool := by
    intro held desc (d : Display δ) hd
    have hsame : (Device.createPool desc d).2.driver = d.driver := by
      simp only [Device.createPool, Display.createPool]
      split <;> rfl
    rw [hsame]
    exact hd
  closePool := h _ _ ((leads_closePool _ _).mono fun _ _ _ => trivial)
  allocate := h _ _ (leads_allocate _ _)
  upload target frame _ := h _ _ ((Hears.upload _ target frame _).1.mono fun _ _ _ => trivial)
  submit flags request _ _ :=
    h _ _ ((Spares.submit _ _ flags request _).1.mono fun _ _ _ => trivial)

end Display

end Deinterlace.Va
