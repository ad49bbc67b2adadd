import Deinterlace.Proofs.Session.Custody
import Deinterlace.Proofs.Simulator.Stock
import Deinterlace.Proofs.Va.Stock
import Deinterlace.Va.Driver

/-!
# No surface is used twice

Copies of a frame share its surface: the window keeps some as references, the caller holds others,
and both may do so when the pool has long been replaced. Whatever the two have done, a surface that
a pool hands out is on none of these frames (`Custody.exclusive_of_reachable`). Behind this
stands the count of holders, which agrees with the frames that there are, and for a simulated
device the count of each pool's surfaces.
-/
namespace Deinterlace

/-- A surface that the device hands out next is on none of the frames, if the device can be trusted
afterwards. -/
def Device.HandsOutUnused {σ : Type} [Device σ] (trusted : σ → Prop) (device : σ)
    (frames : List Frame) : Prop :=
  ∀ pool surface later, Device.allocate pool device = (.ok surface, later) → trusted later →
    ∀ frame ∈ frames, ∀ used key, frame.surface? = some used → used.lease = some key →
      surface.id ≠ used.id

theorem holding_of_surface? {frames : List Frame} {frame : Frame} {used : Surface} {key : LeaseId}
    (hframe : frame ∈ frames) (hused : frame.surface? = some used) (hkey : used.lease = some key) :
    (⟨key, used.id⟩ : Holding) ∈ holdings frames := by
  refine List.mem_filterMap.2 ⟨frame, hframe, ?_⟩
  simp only [Frame.holding?, hused, Option.bind_some, Surface.holding?, hkey, Option.map_some]

/-- The holders of a lease are the frames on its surface. -/
theorem countP_holdings (frames : List Frame) (key : LeaseId) :
    (holdings frames).countP (·.lease == key) = frames.countP (·.lease? == some key) := by
  induction frames with
  | nil => rfl
  | cons frame rest ih =>
    rw [holdings_cons, List.countP_append, ih, List.countP_cons, frame.lease?_eq]
    cases frame.holding? with
    | none => simp
    | some share => by_cases h : share.lease = key <;> simp [h, Nat.add_comm]

namespace Simulator

/-- What a pool says about its surfaces is right: those that are free are apart from each other and
from those that are out, as many are in use as are out, and one can be had unless all are out. -/
structure Pool.Right (d : Simulator) (i : PoolId) (p : Pool) : Prop where
  apart : p.free.Nodup
  free_ne : ∀ l ∈ d.leases.live, l.surface ∉ p.free
  inUse_eq : p.inUse = d.leases.countOf i
  free_le : p.free.length ≤ p.allocated
  exhausted_iff : d.fails .alloc = false →
    ((∃ e, (Device.allocate i d).1 = .error e) ↔ p.inUse = p.capacity)

variable {d : Simulator} {held : List Holding}

theorem Balanced.right (h : d.Balanced held) {i : PoolId} {p : Pool} (hp : d.pools[i]? = some p) :
    p.Right d i := by
  obtain ⟨heq, hle⟩ := h.tallies i p hp
  have hshelf : p.free ∈ d.stock.shelves :=
    List.mem_map_of_mem (List.mem_of_getElem? hp)
  obtain ⟨hshelves, -, hapart⟩ := List.nodup_append.1 h.sound.sole
  have hinUse : p.inUse = d.leases.countOf i := by
    unfold Pool.inUse
    omega
  refine ⟨(List.nodup_flatten.1 hshelves).1 _ hshelf, ?_, hinUse, by omega, fun hworks => ?_⟩
  · intro l hl hfree
    exact hapart l.surface (List.mem_flatten.2 ⟨p.free, hshelf, hfree⟩) l.surface
      (List.mem_map_of_mem hl) rfl
  · rw [hinUse]
    rcases allocate_cases d i with ⟨e, hallocate, hfails | hfull⟩ |
      ⟨q, id, rest, hq, hfree, -, hallocate⟩ | ⟨q, hq, hfree, hroom, -, hallocate⟩ <;>
      rw [hallocate]
    · rw [hworks] at hfails
      cases hfails
    · obtain ⟨hempty, hfull⟩ := hfull p hp
      rw [hempty, List.length_nil] at heq
      refine ⟨fun _ => ?_, fun _ => ⟨e, rfl⟩⟩
      omega
    · cases hp.symm.trans hq
      rw [hfree, List.length_cons] at heq
      refine ⟨?_, fun hall => by omega⟩
      rintro ⟨e, he⟩
      cases he
    · cases hp.symm.trans hq
      rw [hfree, List.length_nil] at heq
      refine ⟨?_, fun hall => by omega⟩
      rintro ⟨e, he⟩
      cases he

theorem Balanced.handsOutUnused {frames : List Frame} (h : d.Balanced (holdings frames)) :
    Device.HandsOutUnused (fun _ => True) d frames := by
  intro pool surface later hallocate _ frame hframe used key hused hkey
  have hshare := holding_of_surface? hframe hused hkey
  rcases allocate_cases d pool with ⟨e, heq, -⟩ | ⟨p, id, rest, hp, hfree, -, heq⟩ |
    ⟨p, hp, -, -, -, heq⟩ <;> rw [heq] at hallocate <;> cases hallocate
  · have hshelf : p.free ∈ d.stock.shelves := List.mem_map_of_mem (List.mem_of_getElem? hp)
    exact (h.sound.surface_ne hshelf (hfree ▸ List.mem_cons_self) hshare).symm
  · intro heq
    have hlt := h.sound.surface_lt hshare
    show False
    rw [← heq] at hlt
    exact Nat.lt_irrefl _ hlt

theorem Unused.balanced (h : d.Unused) : d.Balanced [] where
  sound := by
    have hstock : d.stock = ⟨[], {}⟩ := by rw [stock, h.pools, h.leases, List.map_nil]
    rw [hstock]
    exact ⟨.empty, List.nodup_nil, fun _ hid => by cases hid⟩
  pool_lt i hi := by
    rw [h.leases] at hi
    cases hi
  tallies i p hp := by
    rw [h.pools] at hp
    cases hp

theorem quiet_open {options : Options} {s : Session Simulator}
    (h : Session.open? options d = .ok s) : Quiet d s.device := by
  refine Session.open_induction h ?_ ?_ ?_ ?_ ?_ (.refl d)
  · intro e he
    rcases createConfig_cases e with ⟨error, heq⟩ | heq <;> rw [heq]
    · exact he
    · exact he.trans ⟨rfl, rfl, rfl, rfl, Nat.le_succ _⟩
  · intro config e he
    rcases createContext_cases e config with ⟨error, heq⟩ | heq <;> rw [heq]
    · exact he
    · exact he.trans ⟨rfl, rfl, rfl, rfl, Nat.le_succ _⟩
  · intro context e he
    rw [queryFilters_snd]
    exact he.trans (.record _ _)
  · intro context e he
    rw [queryAlgorithms_snd]
    exact he.trans (.record _ _)
  · intro context algorithm e he
    rcases createFilter_cases context e algorithm {} with ⟨error, next, hle, heq⟩ | heq <;>
      rw [heq]
    · exact he.trans ⟨rfl, rfl, rfl, rfl, hle⟩
    · exact he.trans ⟨rfl, rfl, rfl, rfl, Nat.le_succ _⟩

/-- In every state that a session can reach, with whatever its caller has done, pools and leases
are in balance. -/
theorem obeys_balanced {options : Options} {c : Custody Simulator} (hd : d.Unused)
    (hc : Custody.Reachable Injects options d c) :
    c.session.Obeys c.session.fixtures (fun _ held (d : Simulator) => d.Balanced held) c.held := by
  refine hc.obeys (fun _ _ held d => d.Balanced held) upholds_balanced ?_ ?_
  · intro u change hchange pool held e he
    obtain ⟨failing, heq⟩ := hchange e
    rw [heq]
    exact ⟨he.sound, he.pool_lt, he.tallies⟩
  · intro s hs
    exact hd.balanced.quiet (quiet_open hs)

end Simulator

namespace Va.Display

variable {δ : Type} [Library δ] {d : Display (Logged δ)}

theorem Tallied.handsOutUnused {pool : Option PoolId} {frames : List Frame}
    (h : d.Housed pool none (holdings frames) ∧ d.Tallied) :
    Device.HandsOutUnused (fun later => Fresh later.driver.log) d frames := by
  obtain ⟨hhoused, htallied⟩ := h
  intro i surface later hallocate hfresh frame hframe used key hused hkey
  have hshare := holding_of_surface? hframe hused hkey
  rcases allocate_cases i d with ⟨e, later, -, heq⟩ | ⟨p, id, rest, hp, hfree, heq⟩ |
    ⟨p, id, driver, -, -, -, hcall, heq⟩ <;> rw [heq] at hallocate <;> cases hallocate
  · exact surface_ne_of_free hhoused htallied hfresh hp (hfree ▸ List.mem_cons_self) hshare
  · -- the number of a new surface is not that of one that there is
    intro hsame
    have hthere := mem_surfaces_of_held hhoused htallied hshare
    rw [← hsame] at hthere
    obtain ⟨inner, rfl⟩ := Logged.eq_of_call hcall
    exact (hfresh.1 id (Event.created?_made _ _ _ _ _ id)).2 hthere

theorem obeys_tallied {path : String} {driver : δ} {options : Options}
    {c : Custody (Display (Logged δ))} (hopen : openAt path (⟨driver, []⟩ : Logged δ) = .ok d)
    (hc : Custody.Reachable Swaps options d c) :
    c.session.Obeys c.session.fixtures (fun pool held d => d.Housed pool none held ∧ d.Tallied)
      c.held := by
  obtain ⟨hd, hleads⟩ := unused_of_openAt hopen
  refine upkeep_tallied.obeys (fun change hchange => ⟨hchange.replaces, fun e he => ?_⟩) hd
    (.unused hd hleads) hc
  obtain ⟨driver, heq⟩ := hchange e
  rw [heq]
  exact he

end Va.Display

/-! ## All states -/

namespace Custody

/-- Whatever the session takes a surface for next, a picture or an upload, it gets one that is on no
frame, if the device can be trusted afterwards. An upload comes after a negotiation, with which the
window may let go of frames. -/
def Exclusive {σ : Type} [Device σ] (trusted : σ → Prop) (c : Custody σ) : Prop :=
  Device.HandsOutUnused trusted c.session.device c.frames ∧
    Device.HandsOutUnused trusted c.session.configure.device
      (c.session.configure.window.frames ++ c.held)

/-- **A surface is never handed out while it is on a frame**, on a simulated device in any
configuration as on a VA device with any driver, whatever calls fail, as long as each surface that
the driver has made had a number that stands for an object and was not in use. Numbers of surfaces
that have been destroyed may be given again. On the simulated device the leases are those of the
frames that there are, and all pools are right about their surfaces. -/
theorem exclusive_of_reachable (options : Options) :
    (∀ (d : Simulator) (c : Custody Simulator), d.Unused →
      Reachable Simulator.Injects options d c → c.Exclusive (fun _ => True) ∧
        (∀ l ∈ c.session.device.leases.live,
          0 < l.holders ∧ l.holders = c.frames.countP (·.lease? == some l.key)) ∧
        ∀ (i : PoolId) (p : Simulator.Pool), c.session.device.pools[i]? = some p →
          p.Right c.session.device i) ∧
    (∀ (δ : Type) [Va.Library δ] (path : String) (driver : δ) (d : Va.Display (Va.Logged δ))
      (c : Custody (Va.Display (Va.Logged δ))),
      Va.Display.openAt path (⟨driver, []⟩ : Va.Logged δ) = .ok d →
      Reachable Va.Display.Swaps options d c →
        c.Exclusive fun later => Va.Fresh later.driver.log) := by
  refine ⟨fun d c hd hc => ?_, fun δ _ path driver d c hopen hc => ?_⟩
  · have hobeys := Simulator.obeys_balanced hd hc
    have hbalanced : c.session.device.Balanced (holdings c.frames) := hobeys.holds
    have hconf := (hobeys.configure (Simulator.upholds_balanced _)).holds
    refine ⟨⟨hbalanced.handsOutUnused, Simulator.Balanced.handsOutUnused hconf⟩, ?_, ?_⟩
    · intro l hl
      refine ⟨hbalanced.sound.accounts.holders_pos l hl, ?_⟩
      rw [← countP_holdings]
      exact hbalanced.sound.accounts.holders_eq l hl
    · exact fun i p hp => hbalanced.right hp
  · have hobeys := Va.Display.obeys_tallied hopen hc
    have hconf := (hobeys.configure (Va.Display.upkeep_tallied.upholds _)).holds
    exact ⟨Va.Display.Tallied.handsOutUnused hobeys.holds,
      Va.Display.Tallied.handsOutUnused hconf⟩

/-- A picture that the caller shares, and hands in again when the pool has been replaced. -/
def relay {σ : Type} : List (Deed σ) :=
  [.call (.reconfigure (.hardware 720 576 720 576)),
    .call (.input (some { Frame.decoded ⟨1⟩ 720 576 with fields := ⟨3⟩ })), .call .output, .share 0,
    .call (.reconfigure (.hardware 720 576 720 576)), .give 0]

theorem permits_relay {σ : Type} [Device σ] (harmless : (σ → σ) → Prop) :
    relay.Forall fun deed => ∀ c : Custody σ, c.Permits harmless deed := by
  refine ⟨fun _ => trivial, ?_, fun _ => trivial, fun _ => trivial, fun _ => trivial,
    fun _ => trivial⟩
  intro c given hgiven
  cases hgiven
  rfl

/-- A driver that deinterlaces with the algorithm of code 1. -/
def bobDriver : Va.Driver := { script := { filters := [Va.deinterlacingCode], algorithms := [1] } }

/-- What becomes of the driver when it is opened. -/
def bobDisplay : Va.Display (Va.Logged Va.Driver) where
  driver :=
    { driver := { bobDriver with history := [⟨.startDisplay, none⟩, ⟨.getDisplay, none⟩] }
      log := [.called .startDisplay Va.success (1, 0), .called .getDisplay Va.success true] }
  version := (1, 0)

theorem openAt_bobDriver :
    Va.Display.openAt "/dev/null" (⟨bobDriver, []⟩ : Va.Logged Va.Driver) = .ok bobDisplay := by
  have hpath : "/dev/null".contains (Char.ofNat 0) = false := by simp
  rw [Va.Display.openAt, hpath]
  rfl

/-- Both copies of the picture are on a surface of the pool that has been replaced. The driver can
be trusted with the next surface. -/
theorem exclusive_of_relay :
    (∃ c : Custody Simulator, Reachable Simulator.Injects {} {} c ∧
      c.frames.map (·.surfaceId) = [⟨0x13⟩, ⟨0x13⟩] ∧ c.Exclusive fun _ => True) ∧
    ∃ (d : Va.Display (Va.Logged Va.Driver)) (c : Custody (Va.Display (Va.Logged Va.Driver))),
      Va.Display.openAt "/dev/null" (⟨bobDriver, []⟩ : Va.Logged Va.Driver) = .ok d ∧
      Reachable Va.Display.Swaps {} d c ∧
      c.frames.map (·.surfaceId) = [⟨4⟩, ⟨4⟩] ∧
      (∃ surface later, Device.allocate 1 c.session.device = (.ok surface, later) ∧
        Va.Fresh later.driver.log) ∧
      c.Exclusive fun later => Va.Fresh later.driver.log := by
  constructor
  · obtain ⟨s, hs⟩ : ∃ s, Session.open? {} ({} : Simulator) = .ok s := ⟨_, rfl⟩
    have hreached : Reachable Simulator.Injects {} {} (act { session := s } relay) :=
      (Reachable.opened hs).act (permits_relay _)
    cases hs
    refine ⟨_, hreached, ?_,
      ((exclusive_of_reachable {}).1 {} _ ⟨rfl, rfl, rfl, rfl, rfl, rfl⟩ hreached).1⟩
    decide
  · obtain ⟨s, hs⟩ : ∃ s, Session.open? {} bobDisplay = .ok s := ⟨_, rfl⟩
    have hreached := (Reachable.opened hs).act (permits_relay Va.Display.Swaps)
    cases hs
    refine ⟨_, _, openAt_bobDriver, hreached, ?_, ⟨_, _, rfl, ?_⟩, (exclusive_of_reachable {}).2
      Va.Driver "/dev/null" bobDriver _ _ openAt_bobDriver hreached⟩
    · decide
    · decide

end Custody

end Deinterlace
