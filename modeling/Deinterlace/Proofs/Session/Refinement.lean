import Deinterlace.Proofs.Session.Oblivion
import Deinterlace.Proofs.Simulator.Opening
import Deinterlace.Proofs.Va.Following
import Deinterlace.Proofs.Va.Truthful

/-!
# A VA device does what a simulated one does

A session is opened with the same options on a VA device with any driver that complies and on a
simulated device that offers the same (`Simulator.Offers`). The sessions have filters that stand for
each other (`Fitting`), and from then on they do the same: callers who keep no pictures are told the
same, and the parameters that the driver gets read, picture by picture, as what is rendered on the
simulated device (`Custody.refines_of_compliant`).
-/
namespace Deinterlace

variable {σ τ : Type} [Device σ] [Device τ]

/-! ## Opening on both sides -/

namespace Chain

variable {R : List BufferId → List BufferId → σ → τ → Prop} {context context' : ContextId}

/-- While the filters made so far are in the relation `R` and fewer than `bound`, both devices offer
the same algorithms, and making one filter more on both sides stays in it. -/
def BuildsAlike (R : List BufferId → List BufferId → σ → τ → Prop) (bound : Nat)
    (context context' : ContextId) : Prop :=
  ∀ {left right d e}, R left right d e → left.length < bound → ∃ offered offered' d' e',
    Device.queryAlgorithms context d = (.ok offered, d') ∧
    Device.queryAlgorithms context' e = (.ok offered', e') ∧ R left right d' e' ∧
    ∀ algorithm, (algorithm ∈ offered' ↔ algorithm ∈ offered) ∧
      (algorithm ∈ offered → ∃ id id' d'' e'',
        Device.createFilter context algorithm {} d' = (.ok id, d'') ∧
        Device.createFilter context' algorithm {} e' = (.ok id', e'') ∧
        R (left ++ [id]) (right ++ [id']) d'' e'')

variable {left right : List BufferId} {d : σ} {e : τ} {bound : Nat}

theorem buildDeinterlacer_alike (hbuilds : BuildsAlike R bound context context') (mode : Mode)
    (h : R left right d e) (hroom : left.length < bound) :
    ∃ made made' d' e', buildDeinterlacer context mode d = (made, d') ∧
      buildDeinterlacer context' mode e = (made', e') ∧
      R (left ++ made.toList.map (·.buffer)) (right ++ made'.toList.map (·.buffer)) d' e' := by
  have hnone : ∀ {d e}, R left right d e → R (left ++ []) (right ++ []) d e := by
    intro d e h
    rw [List.append_nil, List.append_nil]
    exact h
  unfold buildDeinterlacer
  by_cases hon : mode.isEnabled = true
  · obtain ⟨offered, offered', d', e', hd, he, hasked, hmake⟩ := hbuilds h hroom
    obtain ⟨hiff, hmake⟩ := hmake mode.algorithm
    have hcontains : offered'.contains mode.algorithm = offered.contains mode.algorithm := by
      rw [Bool.eq_iff_iff, List.contains_iff_mem, List.contains_iff_mem]
      exact hiff
    simp only [hon, hd, he, hcontains, Bool.not_true, Bool.false_eq_true, if_false]
    by_cases hoffered : mode.algorithm ∈ offered
    · obtain ⟨id, id', d'', e'', hd, he, hmade⟩ := hmake hoffered
      simp only [List.contains_iff_mem.2 hoffered, hd, he, Bool.not_true, Bool.false_eq_true,
        if_false]
      exact ⟨_, _, _, _, rfl, rfl, hmade⟩
    · have hmissing : offered.contains mode.algorithm = false := by simpa using hoffered
      simp only [hmissing, Bool.not_false, if_true]
      exact ⟨none, none, _, _, rfl, rfl, hnone hasked⟩
  · simp only [hon, Bool.not_false, if_true]
    exact ⟨none, none, _, _, rfl, rfl, hnone h⟩

/-- Only how often deinterlacing is offered matters for the filters that are made. -/
theorem buildDescriptors_filter_eq (context : ContextId) (mode : Mode) (filters : List FilterType)
    (d : σ) : buildDescriptors context mode (filters.filter (· == .deinterlacing)) d =
      buildDescriptors context mode filters d := by
  induction filters generalizing d with
  | nil => rfl
  | cons filter rest ih =>
    cases filter
    case deinterlacing =>
      rw [List.filter_cons_of_pos (by rfl)]
      simp only [buildDescriptors, ih]
    all_goals
      rw [List.filter_cons_of_neg (by simp)]
      exact ih d

theorem buildDescriptors_perm {filters filters' : List FilterType} (h : filters.Perm filters')
    (context : ContextId) (mode : Mode) (d : σ) :
    buildDescriptors context mode filters d = buildDescriptors context mode filters' d := by
  rw [← buildDescriptors_filter_eq, ← buildDescriptors_filter_eq context mode filters',
    List.filter_beq, List.filter_beq, h.count_eq]

/-- The filters of two sessions are made in step, one at most for each that is available. -/
theorem buildDescriptors_alike (hbuilds : BuildsAlike R bound context context') (mode : Mode)
    (filters : List FilterType) (h : R left right d e)
    (hroom : left.length + filters.length ≤ bound) :
    ∃ made made' d' e', buildDescriptors context mode filters d = (made, d') ∧
      buildDescriptors context' mode filters e = (made', e') ∧ made.length ≤ filters.length ∧
      R (left ++ made.map (·.buffer)) (right ++ made'.map (·.buffer)) d' e' := by
  induction filters generalizing left right d e with
  | nil =>
    refine ⟨[], [], d, e, rfl, rfl, Nat.le_refl 0, ?_⟩
    simpa using h
  | cons filter rest ih =>
    rw [List.length_cons] at hroom ⊢
    cases filter
    case deinterlacing =>
      obtain ⟨made, made', d', e', hd, he, hone⟩ :=
        buildDeinterlacer_alike hbuilds mode h (by omega)
      have hle : made.toList.length ≤ 1 := Option.length_toList_le
      obtain ⟨others, others', d'', e'', hd', he', hothers, hall⟩ := ih hone (by
        rw [List.length_append, List.length_map]
        omega)
      refine ⟨made.toList ++ others, made'.toList ++ others', d'', e'', ?_, ?_, ?_, ?_⟩
      · simp only [buildDescriptors, hd, hd']
      · simp only [buildDescriptors, he, he']
      · rw [List.length_append]
        omega
      · rw [List.map_append, List.map_append, ← List.append_assoc, ← List.append_assoc]
        exact hall
    all_goals
      obtain ⟨made, made', d', e', hd, he, hle, hall⟩ := ih h (by omega)
      exact ⟨made, made', d', e', hd, he, Nat.le_succ_of_le hle, hall⟩

end Chain

/-- A session is opened when its objects can be made. -/
theorem Session.open_of_ok {options : Options} {device d₁ d₂ d₃ later : σ} {config : ConfigId}
    {context : ContextId} {available : List FilterType} {descriptors : List FilterDescriptor}
    (hconfig : Device.createConfig device = (.ok config, d₁))
    (hcontext : Device.createContext config d₁ = (.ok context, d₂))
    (hfilters : Device.queryFilters context d₂ = (.ok available, d₃))
    (hbuild : Chain.buildDescriptors context options.mode available d₃ = (descriptors, later)) :
    open? options device = .ok
      { device := later, config := config, context := context,
        chain := { options := options, descriptors := descriptors },
        deinterlacing := options.mode.isEnabled } := by
  simp only [open?, hconfig, hcontext, Chain.build, hfilters, hbuild]

/-- A session that has just been opened holds nothing. -/
theorem Session.empty_of_open {options : Options} {device : σ} {s : Session σ}
    (h : open? options device = .ok s) : s.window = {} ∧ s.pool = none := by
  obtain ⟨config, d₁, context, d₂, available, d₃, descriptors, later, -, -, -, -, rfl⟩ :=
    eq_of_open h
  exact ⟨rfl, rfl⟩

/-- Sessions that have just been opened with the same options are in step. -/
theorem Session.inStep_of_open {k : Coupling σ τ} {n : Names} {options : Options} {d : σ} {e : τ}
    {s : Session σ} {t : Session τ} (hs : open? options d = .ok s) (ht : open? options e = .ok t)
    (hleft : s.fixtures = k.left) (hright : t.fixtures = k.right)
    (hnamed : n.buffers = k.left.filters.zip k.right.filters)
    (hbond : k.bond n none [] s.device t.device) : InStep k n none [] [] s t := by
  have hagrees := agrees_of_open hs
  have hagrees' := agrees_of_open ht
  obtain ⟨config, d₁, context, d₂, available, d₃, descriptors, later, -, -, -, -, rfl⟩ :=
    eq_of_open hs
  obtain ⟨config', e₁, context', e₂, available', e₃, descriptors', later', -, -, -, -, rfl⟩ :=
    eq_of_open ht
  exact ⟨hleft, hright, hagrees, hagrees', ⟨rfl, rfl, .rfl, rfl⟩, ⟨rfl, rfl, rfl⟩, rfl, rfl, rfl,
    hnamed, List.forall_mem_nil _, List.forall_mem_nil _, hbond⟩

/-- A simulated device without failures that tells the filters and algorithms that a driver has
codes for, wants to look at as many frames, and has room for a surface. -/
structure Simulator.Offers (d : Simulator) (offer : Va.Offer) : Prop where
  failing : d.failing = []
  filters_perm : (offer.filters.map Va.filterOfCode).Perm d.filters
  mem_algorithms : ∀ algorithm,
    algorithm ∈ offer.algorithms.filterMap Va.algorithmOfCode? ↔ algorithm ∈ d.algorithms
  references_eq : d.caps.references = (offer.forward, offer.backward)
  capacity_pos : 0 < d.poolCapacity

namespace Simulator

theorem Unused.atRest {d : Simulator} (h : d.Unused) (hfailing : d.failing = []) : d.AtRest := by
  refine ⟨hfailing, h.openPicture, ?_, ?_, ?_, ?_⟩
  · rw [h.buffers]
    exact nofun
  · rw [h.leases]
    exact nofun
  · rw [h.leases]
    exact nofun
  · rw [h.leases]
    exact List.nodup_nil

end Simulator

open Simulator Va Va.Display

variable {δ : Type} [Library δ]

/-- Two devices, of which the left one was `d₀`, after the filters `left` and `right` have been made
on them. -/
structure Fitting (offer : Offer) (d₀ : Simulator) (left right : List BufferId) (d : Simulator)
    (e : Display (Logged δ)) : Prop where
  grown : ∃ count, Grown d₀ d count
  complies : Complies offer e.driver
  fitted : Fitted right e.driver.log
  length_eq : right.length = left.length
  created_eq : created e.driver.log = []
  pictures_eq : (reading e.driver.log).pictures = []

namespace Fitting

variable {offer : Offer} {d₀ d d' : Simulator} {e e' : Display (Logged δ)}
variable {left right : List BufferId} {count : Nat}

/-- Nothing has been made but numbers. -/
theorem rest (h : Fitting offer d₀ left right d e) (hd : Grown d d' count)
    (he : Leads Call.Mute e.driver e'.driver) : Fitting offer d₀ left right d' e' where
  grown := by
    obtain ⟨before, hbefore⟩ := h.grown
    exact ⟨before + count, hbefore.trans hd⟩
  complies := h.complies.leads he
  fitted := h.fitted.congr he.buffers_eq
  length_eq := h.length_eq
  created_eq := he.created_eq_of_mute.trans h.created_eq
  pictures_eq := he.pictures_eq.trans h.pictures_eq

theorem buildsAlike (hoffers : d₀.Offers offer) (context context' : ContextId) :
    Chain.BuildsAlike (Fitting (δ := δ) offer d₀) noObject context context' := by
  intro left right d e h hroom
  obtain ⟨before, hbefore⟩ := h.grown
  obtain ⟨asked, hd, hgrown⟩ := Simulator.queryAlgorithms_eq hbefore.atRest context
  obtain ⟨driver, he, hleads⟩ := h.complies.exists_queryAlgorithms context'
  have hasked : Fitting offer d₀ left right asked { e with driver } := h.rest hgrown hleads
  refine ⟨_, _, _, _, hd, he, hasked, fun algorithm => ⟨?_, fun halgorithm => ?_⟩⟩
  · rw [hbefore.algorithms_eq]
    exact hoffers.mem_algorithms algorithm
  obtain ⟨made, hmade, hgrown', -⟩ := Simulator.createFilter_eq hgrown.atRest context
    (hgrown.algorithms_eq ▸ halgorithm) {}
  obtain ⟨id, driver', hmade', hcomplies, hfitted, hcreated, hpictures⟩ :=
    hasked.complies.exists_createFilter hasked.fitted (h.length_eq ▸ hroom) context' algorithm {}
  refine ⟨_, id, _, _, hmade, hmade', ?_, hcomplies, hfitted, ?_,
    hcreated.trans hasked.created_eq, hpictures.trans hasked.pictures_eq⟩
  · obtain ⟨before', hbefore'⟩ := hasked.grown
    exact ⟨before' + 1, hbefore'.trans hgrown'⟩
  · rw [List.length_append, List.length_append, hasked.length_eq]
    rfl

/-- The filters that a compliant driver counts fit into the table. -/
theorem length_filters_le {l : Logged δ} (h : Complies offer l) :
    offer.filters.length ≤ maxFilters := by
  rw [← h.answers.filters 0, Table.counted, List.length_take, Vector.length_toList]
  exact Nat.min_le_right _ _

/-- **A session can be opened on both devices**, and has as many filters on both. -/
theorem exists_open (options : Options) (hd : d.Unused) (hoffers : d.Offers offer)
    (hcomplies : Complies offer e.driver) (hfitted : Fitted [] e.driver.log)
    (hcreated : created e.driver.log = []) (hpictures : (reading e.driver.log).pictures = []) :
    ∃ s t, Session.open? options d = .ok s ∧ Session.open? options e = .ok t ∧
      s.fixtures.filters.length ≤ maxFilters ∧
        Fitting offer d s.fixtures.filters t.fixtures.filters s.device t.device := by
  have hrest := hd.atRest hoffers.failing
  have hstart : Fitting offer d [] [] d e :=
    ⟨⟨0, .of_noted hrest d.history 0⟩, hcomplies, hfitted, rfl, hcreated, hpictures⟩
  obtain ⟨d₁, hconfig, hgrown₁⟩ := Simulator.exists_createConfig hrest
  obtain ⟨config, driver₁, hconfig', hleads₁⟩ := hcomplies.exists_createConfig
  have h₁ : Fitting offer d [] [] d₁ { e with driver := driver₁ } := hstart.rest hgrown₁ hleads₁
  have hvalid : (⟨d.nextId⟩ : ConfigId).isValid = true := by
    rw [hd.nextId]
    rfl
  obtain ⟨d₂, hcontext, hgrown₂⟩ := Simulator.exists_createContext hgrown₁.atRest hvalid
  obtain ⟨context, driver₂, hcontext', hleads₂⟩ := h₁.complies.exists_createContext config
  have h₂ : Fitting offer d [] [] d₂ { e with driver := driver₂ } := h₁.rest hgrown₂ hleads₂
  obtain ⟨d₃, hfilters, hgrown₃⟩ := Simulator.queryFilters_eq hgrown₂.atRest ⟨d₁.nextId⟩
  obtain ⟨driver₃, hfilters', hleads₃⟩ := h₂.complies.exists_queryFilters context
  have h₃ : Fitting offer d [] [] d₃ { e with driver := driver₃ } := h₂.rest hgrown₃ hleads₃
  have hperm : (offer.filters.map filterOfCode).Perm d₂.filters := by
    rw [hgrown₂.filters_eq, hgrown₁.filters_eq]
    exact hoffers.filters_perm
  have hfew : d₂.filters.length ≤ maxFilters := by
    rw [← hperm.length_eq, List.length_map]
    exact length_filters_le hcomplies
  have hroom : ([] : List BufferId).length + d₂.filters.length ≤ noObject :=
    Nat.le_trans (Nat.le_of_eq (Nat.zero_add _)) (Nat.le_trans hfew (by decide))
  obtain ⟨made, made', later, later', hbuild, hbuild', hle, hlater⟩ :=
    Chain.buildDescriptors_alike (Fitting.buildsAlike hoffers ⟨d₁.nextId⟩ context) options.mode
      d₂.filters h₃ hroom
  rw [← Chain.buildDescriptors_perm hperm] at hbuild'
  refine ⟨_, _, Session.open_of_ok hconfig hcontext hfilters hbuild,
    Session.open_of_ok hconfig' hcontext' hfilters' hbuild', ?_, hlater⟩
  show (made.map (·.buffer)).length ≤ maxFilters
  rw [List.length_map]
  exact Nat.le_trans hle hfew

variable {s : Session Simulator} {t : Session (Display (Logged δ))}

/-- Sessions that have been opened, the left one on `d`. -/
def pairing (h : Fitting offer d s.fixtures.filters t.fixtures.filters s.device t.device)
    (hfew : s.fixtures.filters.length ≤ maxFilters) : Pairing where
  left := s.fixtures
  right := t.fixtures
  offer := offer
  before := d.rendered
  length_eq := h.length_eq
  few := h.length_eq ▸ Nat.lt_of_le_of_lt hfew (by decide)

/-- The driver of a session that has just been opened has been told of no picture. -/
theorem follows {options : Options}
    (h : Fitting offer d s.fixtures.filters t.fixtures.filters s.device t.device)
    (hfew : s.fixtures.filters.length ≤ maxFilters) (hd : d.Unused) (he : e.Unused)
    (hoffers : d.Offers offer) (hcomplies : Complies offer e.driver)
    (hs : Session.open? options d = .ok s) (ht : Session.open? options e = .ok t) :
    Follows (h.pairing hfew) { buffers := s.fixtures.filters.zip t.fixtures.filters } none []
      s.device t.device := by
  obtain ⟨count, hgrown⟩ := h.grown
  have hbalanced := (obeys_balanced hd (.opened hs)).holds
  have hhoused : t.device.Housed t.pool none (holdings (t.window.frames ++ [])) :=
    ((upkeep_complies offer).obeys (fun _ => False.elim) he hcomplies (.opened ht)).holds.1
  rw [(Session.empty_of_open hs).1] at hbalanced
  rw [(Session.empty_of_open ht).1, (Session.empty_of_open ht).2] at hhoused
  have hequipped := equipped_of_open hd hs
  have hleft : ((s.fixtures.filters.zip t.fixtures.filters).map (·.1)).Nodup := by
    rw [List.map_fst_zip (Nat.le_of_eq h.length_eq.symm)]
    exact hequipped.outfit.nodup
  have hright : ((s.fixtures.filters.zip t.fixtures.filters).map (·.2)).Nodup := by
    rw [List.map_snd_zip (Nat.le_of_eq h.length_eq)]
    exact h.fitted.nodup
  exact
    { balanced := hbalanced
      housed := hhoused
      equipped := hequipped
      fitted := h.fitted
      complies := h.complies
      failing := hgrown.atRest.failing
      references := by
        rw [hgrown.caps_eq]
        exact hoffers.references_eq
      capacity := hgrown.capacity_eq ▸ hoffers.capacity_pos
      lt := List.forall_mem_nil _
      naming := ⟨List.nodup_nil, h.created_eq.symm, hleft, hright⟩
      told := ⟨[], hgrown.rendered_eq, h.pictures_eq ▸ .nil⟩ }

end Fitting

/-! ## The same from opening on -/

/-- Moves of callers that keep no pictures. The frames that they hand in are on surfaces of their
own, and what they set the session up for has NV12 surfaces of some size. -/
def Move.Passing : Move → Prop
  | .input frame => ∀ f, frame = some f → f.format.isHardware = true ∧ f.holding? = none
  | .output => False
  | .reconfigure params => ∀ desc, Session.poolFor params = some desc →
    desc.swFormat = .nv12 ∧ desc.width ≠ 0 ∧ desc.height ≠ 0
  | _ => True

namespace Move.Passing

variable {m : Move}

theorem fromOutside (h : m.Passing) : m.FromOutside := by
  cases m with
  | input frame => exact fun f hf => (h f hf).2
  | _ => trivial

theorem meets (h : m.Passing) (t : Pairing) : m.Meets (following δ t) := by
  cases m with
  | input frame =>
    intro f hf
    obtain ⟨hhard, hfree⟩ := h f hf
    refine ⟨hfree, fun _ => ⟨rfl, hfree⟩, fun hsoft => ?_⟩
    rw [hhard] at hsoft
    cases hsoft
  | output => exact h
  | reconfigure params => exact ⟨id, _, renews_following t, h⟩
  | _ => trivial

end Move.Passing

namespace Custody

variable {δ : Type} [Library δ]

/-- There is room for the next picture as long as the numbers last. -/
theorem InStep.room {t : Pairing} {n : Names} {pools : Option (PoolId × PoolId)}
    {inside out : List (Frame × Frame)} {c : Custody Simulator}
    {u : Custody (Display (Logged δ))} (h : InStep (following δ t) n pools inside out c u)
    (hnext : c.session.device.nextId < (Handle.invalid : SurfaceId).value) :
    Room c.session.device := by
  -- nothing is out, since the callers keep nothing and hand in no frames of the pools
  have hnone := h.alone id
  subst hnone
  have hbond := h.sessions.bond
  rw [List.append_nil, sharesOf_eq_nil fun p hp => (h.sessions.seen p hp).2] at hbond
  exact ⟨hbond.1.balanced.sound.accounts.live_eq_nil, hnext⟩

/-- A session on `d` and one on a driver make the moves `ms` from opening on. Their callers are told
the same, and the pictures that the driver is asked for are those that are rendered on the simulated
device, up to names of surfaces and buffers. None of them stands for two, if the driver has not
given the number of a surface again that was destroyed. -/
def Refines (ms : List Move) (d : Simulator) (c : Custody Simulator)
    (u : Custody (Display (Logged δ))) : Prop :=
  ∃ n : Names, Naming n (u.moves ms).session.device.driver.log ∧
    ((created (u.moves ms).session.device.driver.log).Nodup → n.OneToOne) ∧
    List.Forall₂ (Answer.Alike n) (c.answers ms) (u.answers ms) ∧
    ∃ since, (c.moves ms).session.device.submissions = d.submissions ++ since ∧
      List.Forall₂ (AsksFor n) since (picturesIn (u.moves ms).session.device.driver.log)

/-- **A VA device refines the simulated one.** Let a driver comply, and let a simulated device offer
the same. Then a session is opened on both with any options, and whatever moves the callers make
that keep no pictures, they are told the same, and one picture after the other, the driver is asked
for what is rendered on the simulated device, with the flags that were written to the filter
last. -/
theorem refines_of_compliant (options : Options) {d : Simulator} (hd : d.Unused) {path : String}
    {driver : δ} {e : Display (Logged δ)}
    (hopen : openAt path (⟨driver, []⟩ : Logged δ) = .ok e) {offer : Offer}
    (hcomplies : Complies offer (⟨driver, []⟩ : Logged δ)) (hoffers : d.Offers offer) :
    ∃ s t, Session.open? options d = .ok s ∧ Session.open? options e = .ok t ∧
      ∀ ms : List Move, (∀ m ∈ ms, m.Passing) → NumbersLast ms { session := s } →
        Refines ms d { session := s } { session := t } := by
  obtain ⟨he, hleads⟩ := unused_of_openAt hopen
  have hcomplies' := hcomplies.leads hleads
  obtain ⟨version, heq⟩ := eq_of_openAt hopen
  have hlog : e.driver.log = [.called .startDisplay _ _, .called .getDisplay _ _] :=
    congrArg (·.driver.log) heq
  obtain ⟨s, t, hs, ht, hfew, hfitting⟩ := Fitting.exists_open options hd hoffers hcomplies'
    ⟨List.nodup_nil, hlog ▸ rfl⟩ (hlog ▸ rfl) (hlog ▸ rfl)
  refine ⟨s, t, hs, ht, fun ms hms hlast => ?_⟩
  have hfollows := hfitting.follows hfew hd he hoffers hcomplies' hs ht
  have hstart := Session.inStep_of_open (k := following δ (hfitting.pairing hfew)) hs ht rfl rfl rfl
    ⟨hfollows, rfl⟩
  have hstep : InStep (following δ (hfitting.pairing hfew)) _ none [] []
      { session := s } { session := t } := ⟨hstart, rfl, rfl, fun _ => rfl⟩
  have houtside : ∀ m ∈ ms, m.FromOutside := fun m hm => (hms m hm).fromOutside
  obtain ⟨later, pools, inside, out, hgrows, hafter, hanswers⟩ := hstep.moves
    (fun m hm => (hms m hm).meets _)
    fun before hbefore n pools inside out hthere =>
      hthere.room (Nat.lt_of_le_of_lt (nextId_le_of_initial hbefore houtside) hlast)
  obtain ⟨hend, -⟩ := hafter.sessions.bond
  obtain ⟨since, heq, hasks⟩ := hend.told
  refine ⟨later, hend.naming, hend.naming.oneToOne, hanswers, since.reverse, ?_,
    List.rel_reverse hasks⟩
  rw [submissions, heq, List.reverse_append]
  rfl

/-- A simulated device that wants to look at the frame before and at the one after. -/
def pairingSimulator : Simulator :=
  { ({} : Simulator).withReferences 1 1 with filters := [.deinterlacing], algorithms := [.bob] }

/-- A script that offers the same. -/
def pairingScript : Script :=
  { filters := [deinterlacingCode], algorithms := [1], forward := 1, backward := 1 }

/-- What becomes of the driver when it is opened. -/
def pairingDisplay : Display (Logged Driver) where
  driver :=
    { driver :=
        { script := pairingScript, history := [⟨.startDisplay, none⟩, ⟨.getDisplay, none⟩] }
      log := [.called .startDisplay success (1, 0), .called .getDisplay success true] }
  version := (1, 0)

/-- Two frames of two fields each. -/
def broadcast : List Move :=
  [.reconfigure (.hardware 720 576 720 576),
    .input (some { Frame.decoded ⟨1⟩ 720 576 with fields := ⟨3⟩ }),
    .input (some { Frame.decoded ⟨2⟩ 720 576 with fields := ⟨3⟩ }),
    .take, .take, .input none, .take, .take]

theorem passing_broadcast : ∀ m ∈ broadcast, m.Passing := by
  simp only [broadcast, List.forall_mem_cons]
  refine ⟨?_, ?_, ?_, trivial, trivial, ?_, trivial, trivial, List.forall_mem_nil _⟩
  · intro desc hdesc
    cases hdesc
    decide
  · intro f hf
    cases hf
    exact ⟨rfl, rfl⟩
  · intro f hf
    cases hf
    exact ⟨rfl, rfl⟩
  · intro f hf
    cases hf

/-- Four pictures are rendered on either device, one for each field. -/
theorem refines_of_broadcast : ∃ s t, Session.open? {} pairingSimulator = .ok s ∧
    openAt "/dev/null" (⟨{ script := pairingScript }, []⟩ : Logged Driver) = .ok pairingDisplay ∧
    Session.open? {} pairingDisplay = .ok t ∧
    (picturesIn (moves { session := t } broadcast).session.device.driver.log).length = 4 ∧
    Refines broadcast pairingSimulator { session := s } { session := t } := by
  have hopen : openAt "/dev/null" (⟨{ script := pairingScript }, []⟩ : Logged Driver) =
      .ok pairingDisplay := by
    have hpath : "/dev/null".contains (Char.ofNat 0) = false := by simp
    rw [openAt, hpath]
    rfl
  have htruthful : pairingScript.Truthful :=
    ⟨rfl, rfl, rfl, rfl, by decide, rfl, by decide, rfl⟩
  obtain ⟨s, t, hs, ht, hrefines⟩ := refines_of_compliant {} (d := pairingSimulator)
    ⟨rfl, rfl, rfl, rfl, rfl, rfl⟩ hopen (Driver.complies_of_truthful htruthful)
    ⟨rfl, .refl _, fun _ => .rfl, rfl, by decide⟩
  cases hs
  cases ht
  exact ⟨_, _, rfl, hopen, rfl, by decide, hrefines broadcast passing_broadcast (by decide)⟩

end Custody

end Deinterlace
