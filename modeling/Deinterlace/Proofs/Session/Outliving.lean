import Deinterlace.Proofs.Session.Exclusive
import Deinterlace.Proofs.Session.Teardown
import Deinterlace.Proofs.Va.Lasting

/-!
# The display outlives everything made on it

A session on a VA device is closed while its caller still holds frames. Each pool stays until the
last frame on one of its surfaces has been given back, and the display until the last pool is gone;
then it is terminated, and that is the last call. A display on which no session could be opened is
terminated at once (`Custody.outlived_of_reachable`). None of this depends on what the driver
answers.
-/
namespace Deinterlace

/-- What is left of a session when its fixtures have been given back. -/
def Session.emptied {σ : Type} [Device σ] (s : Session σ) : Session σ :=
  let (chain, device) := s.chain.release s.device
  let device := if s.context.isValid then Device.destroyContext s.context device else device
  let device := if s.config.isValid then Device.destroyConfig s.config device else device
  { s with device, chain }

namespace Va.Display

variable {δ : Type}

/-- The display has been terminated, once and as the last call. -/
def Ended (d : Display (Logged δ)) : Prop :=
  ∃ earlier, d.driver.calls = earlier ++ [.terminate] ∧ .terminate ∉ earlier

/-- The surfaces that were made are those of the pools. The surfaces of a pool are destroyed when
the pool is gone, all of them by one call, unless it has none; and no pool is gone that has made the
surface of one of the frames. -/
structure Shelters (d : Display (Logged δ)) (frames : List Frame) : Prop where
  created : (created d.driver.log).Perm (d.pools.flatMap (·.made))
  destroyed : (d.driver.calls.filterMap Call.destroyed?).Perm (goneSurfaces d.pools)
  alive : ∀ share ∈ holdings frames, ∃ l ∈ d.leases.live, l.key = share.lease ∧
    ∃ p, d.pools[l.pool]? = some p ∧ p.isGone = false ∧ share.surface.value ∈ p.made

/-- What is known of a display with the holders `held`: it is open or has been given up, and its log
tells of its pools and its end. -/
def Serves (isOpen : Bool) (pool : Option PoolId) (held : List Holding)
    (d : Display (Logged δ)) : Prop :=
  d.Housed pool none held ∧ d.Booked ∧ d.Lasts isOpen

namespace Serves

variable {isOpen : Bool} {pool : Option PoolId} {d : Display (Logged δ)}

theorem shelters {frames : List Frame} (h : d.Serves isOpen pool (holdings frames)) :
    d.Shelters frames where
  created := h.2.1.created
  destroyed := h.2.1.destroyed
  alive share hshare := by
    obtain ⟨l, hl, hkey, -, hmade⟩ := h.1.exists_pool hshare
    exact ⟨l, hl, hkey, hmade⟩

/-- A display that has been given up is not terminated while a frame is on a surface of a pool. -/
theorem terminate_not_mem {held : List Holding} (h : d.Serves isOpen pool held)
    (hheld : isOpen = false → held ≠ []) : .terminate ∉ d.driver.calls := by
  refine (h.2.2.unended ?_).log
  rintro ⟨hclosed, hgone⟩
  obtain ⟨share, hshare⟩ := List.exists_mem_of_ne_nil _ (hheld hclosed)
  obtain ⟨l, -, -, -, p, hp, hkept, -⟩ := h.1.exists_pool hshare
  rw [hgone p (List.mem_of_getElem? hp)] at hkept
  cases hkept

/-- When nothing is out any more, all pools are gone and the display is terminated. -/
theorem ended (h : d.Serves false none []) : d.Ended ∧ ∀ p ∈ d.pools, p.isGone = true := by
  obtain ⟨hhoused, -, hlasts⟩ := h
  have hgone : ∀ p ∈ d.pools, p.isGone = true := by
    intro p hp
    obtain ⟨i, hi⟩ := List.mem_iff_getElem?.1 hp
    have hsuits := hhoused.suits i p hi
    refine hsuits.left nofun ?_ ?_
    · rw [← Bool.not_eq_true, hsuits.open_iff]
      exact nofun
    · rw [Leases.out, hhoused.accounts.live_eq_nil]
      rfl
  exact ⟨hlasts.once (hlasts.terminated_iff.2 ⟨rfl, hgone⟩), hgone⟩

end Serves

variable [Library δ] {d later : Display (Logged δ)}

theorem upkeep_serves : Upkeep fun d : Display (Logged δ) => d.Booked ∧ d.Lasts true :=
  upkeep_booked.and upkeep_lasts

theorem serves_of_openAt {path : String} {driver : δ}
    (h : openAt path (⟨driver, []⟩ : Logged δ) = .ok d) : d.Serves true none [] := by
  obtain ⟨hunused, hleads⟩ := unused_of_openAt h
  have hnever : .terminate ∉ d.driver.calls := hleads.terminate_not_mem List.not_mem_nil
  exact ⟨.unused hunused, .unused hunused hleads,
    Unended.lasts ⟨hunused.isTerminated, hnever⟩ hunused.isOpen⟩

theorem obeys_serves {path : String} {driver : δ} {options : Options}
    {c : Custody (Display (Logged δ))} (hopen : openAt path (⟨driver, []⟩ : Logged δ) = .ok d)
    (hc : Custody.Reachable Swaps options d c) :
    c.session.Obeys c.session.fixtures (fun pool held d => d.Serves true pool held) c.held := by
  refine upkeep_serves.obeys (fun change hchange => ⟨hchange.replaces, fun e he => ?_⟩)
    (unused_of_openAt hopen).1 (serves_of_openAt hopen).2 hc
  obtain ⟨driver, heq⟩ := hchange e
  rw [heq]
  exact ⟨⟨he.1.destroyed, he.1.created⟩,
    ⟨he.2.isOpen_eq, he.2.terminated_iff, he.2.once, he.2.never⟩⟩

/-! ## Closing -/

theorem Serves.close {held : List Holding} (h : d.Serves true none held) :
    Serves false none held (Device.close d) := by
  obtain ⟨hhoused, hbooked, hlasts⟩ := h
  obtain ⟨hpools, hleases, -⟩ := reclaim_eq { d with isOpen := false }
  exact ⟨hhoused.congr hpools hleases,
    booked_reclaim (d := { d with isOpen := false }) ⟨hbooked.destroyed, hbooked.created⟩,
    hlasts.close⟩

/-- Giving the fixtures of a session back concerns no surfaces. -/
theorem hears_emptied (s : Session (Display δ)) : Hears s.device s.emptied.device := by
  have hbuffers : ∀ (descriptors : List FilterDescriptor) (d : Display δ), Hears d
      (descriptors.foldl (fun d x => Device.destroyBuffer x.buffer d) d) := by
    intro descriptors
    induction descriptors with
    | nil => exact Hears.refl
    | cons x rest ih => exact fun d => (Hears.destroyBuffer x.buffer d).trans (ih _)
  have hcontext : ∀ d : Display δ, Hears d
      (if s.context.isValid then Device.destroyContext s.context d else d) := by
    intro d
    split
    · exact .destroyContext s.context d
    · exact .refl d
  have hconfig : ∀ d : Display δ, Hears d
      (if s.config.isValid then Device.destroyConfig s.config d else d) := by
    intro d
    split
    · exact .destroyConfig s.config d
    · exact .refl d
  exact ((hbuffers s.chain.descriptors s.device).trans (hcontext _)).trans (hconfig _)

/-- Closing a session takes its fixtures away and gives the display up. -/
theorem serves_close {u : Fixtures} {s : Session (Display (Logged δ))} {frames : List Frame}
    (h : s.Obeys u (fun pool held d => d.Serves true pool held) frames) :
    s.close.Serves false none (holdings frames) := by
  have hemptied : s.emptied.Obeys s.emptied.fixtures
      (fun pool held d => d.Serves true pool held) frames :=
    ⟨rfl, h.holds.1.hears (hears_emptied s), upkeep_serves.hears (hears_emptied s) h.holds.2⟩
  have hupholds := upkeep_serves.upholds (δ := Logged δ)
  obtain ⟨hclosed, hnone⟩ := hemptied.closePool (hupholds _)
  have hflushed := (hclosed.seek (hupholds _)).holds
  have hpool : s.emptied.closePool.seek.pool = none := hnone
  rw [hpool] at hflushed
  exact Serves.close hflushed

/-- Opening a session fails on a display that has only been asked for objects. -/
theorem serves_of_open_error {options : Options} {error : Error} (hd : d.Serves true none [])
    (h : Session.open? options d = .error (error, later)) :
    later.Serves false none [] ∧ later.pools = d.pools := by
  have hclose : ∀ e : Display (Logged δ), Hears d e → later = Device.close e →
      later.Serves false none [] ∧ later.pools = d.pools := by
    rintro e hhears rfl
    have hserves : e.Serves true none [] :=
      ⟨hd.1.hears hhears, upkeep_serves.hears hhears hd.2⟩
    refine ⟨hserves.close, (reclaim_eq { e with isOpen := false }).1.trans ?_⟩
    rw [hhears.2]
  rcases Session.eq_of_open_error h with ⟨e, d₁, h₁, heq⟩ | ⟨config, d₁, e, d₂, h₁, h₂, heq⟩ |
    ⟨config, d₁, context, d₂, e, d₃, h₁, h₂, h₃, heq⟩
  all_goals
    have hconfig := Hears.createConfig d
    rw [h₁] at hconfig
  · exact hclose d₁ hconfig heq
  all_goals
    have hcontext := hconfig.trans (Hears.createContext config d₁)
    rw [h₂] at hcontext
  · exact hclose _ (hcontext.trans (.destroyConfig config d₂)) heq
  · have hfilters := hcontext.trans (Hears.queryFilters context d₂)
    rw [h₃] at hfilters
    exact hclose _ ((hfilters.trans (.destroyContext context d₃)).trans (.destroyConfig config _))
      heq

end Va.Display

namespace Custody

open Va.Display

/-- **The display outlives everything made on it**, with any driver. A session keeps the display and
the surfaces that are out at every operation of the device, so as long as the session is open the
display is not terminated, and the surfaces that have been destroyed are those of pools that no
frame is on. When the session has been closed, this stays so until the last frame on a surface of a
pool has been given back, in whatever order; then every pool is gone, each pool's surfaces have been
destroyed by one call, and the display has been terminated once and as the last call. It also has if
no session could be opened. -/
theorem outlived_of_reachable {δ : Type} [Va.Library δ] {path : String} {driver : δ}
    {d : Va.Display (Va.Logged δ)} (options : Options)
    (hopen : openAt path (⟨driver, []⟩ : Va.Logged δ) = .ok d) :
    (∀ error later, Session.open? options d = .error (error, later) →
      later.Ended ∧ later.driver.calls.filterMap Va.Call.destroyed? = []) ∧
    (∀ u, Device.Upholds u fun pool held (d : Va.Display (Va.Logged δ)) =>
      d.Serves true pool held) ∧
    ∀ c : Custody (Va.Display (Va.Logged δ)), Reachable Swaps options d c →
      c.session.device.Shelters c.frames ∧ .terminate ∉ c.session.device.driver.calls ∧
      ∀ gone rest, (gone ++ rest).Perm c.held →
        let later := Device.releaseFrames gone c.session.close
        later.Shelters rest ∧
        (holdings rest ≠ [] → .terminate ∉ later.driver.calls) ∧
        (holdings rest = [] → later.Ended ∧
          (later.driver.calls.filterMap Va.Call.destroyed?).Perm
            ((later.pools.map (·.made)).filter (· ≠ []))) := by
  have hserves := serves_of_openAt hopen
  refine ⟨fun error later hfailed => ?_, upkeep_serves.upholds, fun c hc => ?_⟩
  · obtain ⟨hclosed, hsame⟩ := serves_of_open_error hserves hfailed
    have hdestroyed := hclosed.2.1.destroyed
    rw [hsame, (unused_of_openAt hopen).1.pools] at hdestroyed
    exact ⟨hclosed.ended.1, hdestroyed.eq_nil⟩
  · have hobeys := obeys_serves hopen hc
    have hholds : c.session.device.Serves true c.session.pool (holdings c.frames) := hobeys.holds
    refine ⟨hholds.shelters, hholds.terminate_not_mem nofun, fun gone rest hperm => ?_⟩
    have hclosed := serves_close hobeys
    have hheld : c.session.close.Serves false none (holdings (gone ++ rest)) :=
      ⟨hclosed.1.perm (hperm.symm.filterMap _), hclosed.2⟩
    have hlater := Device.releaseFrames_induction (P := fun held d => Serves false none held d)
      (fun _ _ _ => (upkeep_booked.toEndures.and (endures_lasts false)).release) hheld
    refine ⟨hlater.shelters, fun hrest => hlater.terminate_not_mem fun _ => hrest, fun hrest => ?_⟩
    have hdestroyed := hlater.2.1.destroyed
    rw [hrest] at hlater
    obtain ⟨hended, hgone⟩ := hlater.ended
    rw [Va.goneSurfaces_of_allGone hgone] at hdestroyed
    exact ⟨hended, hdestroyed⟩

/-- Two copies of the picture are on a surface of the pool that has been replaced; the caller drops
its own when the session has been closed. -/
theorem outlived_of_relay :
    ∃ (d : Va.Display (Va.Logged Va.Driver)) (c : Custody (Va.Display (Va.Logged Va.Driver))),
      openAt "/dev/null" (⟨bobDriver, []⟩ : Va.Logged Va.Driver) = .ok d ∧
      Reachable Swaps {} d c ∧ c.held.map (·.surfaceId) = [⟨4⟩] ∧
      c.session.close.driver.calls.filterMap Va.Call.destroyed? = [] ∧
      .terminate ∉ c.session.close.driver.calls ∧
      (Device.releaseFrames c.held c.session.close).driver.calls.filterMap Va.Call.destroyed? =
        [[4]] ∧
      (Device.releaseFrames c.held c.session.close).Ended := by
  obtain ⟨s, hs⟩ : ∃ s, Session.open? {} bobDisplay = .ok s := ⟨_, rfl⟩
  have hreached := (Reachable.opened hs).act (permits_relay Swaps)
  obtain ⟨-, -, houtlived⟩ := outlived_of_reachable {} openAt_bobDriver
  obtain ⟨-, -, hclosed⟩ := houtlived _ hreached
  obtain ⟨-, -, hended⟩ := hclosed (act { session := s } relay).held [] (by rw [List.append_nil])
  cases hs
  refine ⟨_, _, openAt_bobDriver, hreached, by decide, by decide, ?_, by decide, ?_⟩
  · exact (hclosed [] _ (.refl _)).2.1 (by decide)
  · exact (hended rfl).1

end Custody

end Deinterlace
