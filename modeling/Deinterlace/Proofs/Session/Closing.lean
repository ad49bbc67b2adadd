import Deinterlace.Proofs.Device.Traced
import Deinterlace.Proofs.Session.Exclusive
import Deinterlace.Proofs.Simulator.Ledger
import Deinterlace.Proofs.Va.Ledger

/-!
# What an output opens it closes

Whatever fails on the way, the calls with which a picture is rendered are in balance
(`Rendering.Closed`): a picture that was begun is ended, and a buffer that was made is destroyed
after that. So between calls no picture is open and nothing is left over, and a picture that could
not be rendered leaves no lease behind (`Custody.closed_of_reachable`).
-/
namespace Deinterlace

namespace Device.Event

def begins : Device.Event → Bool
  | .beginPicture _ (.ok _) => true
  | _ => false

def ends : Device.Event → Bool
  | .endPicture _ => true
  | _ => false

def made? : Device.Event → Option BufferId
  | .createRequest _ (.ok id) => some id
  | _ => none

def destroyed? : Device.Event → Option BufferId
  | .destroyBuffer id => some id
  | _ => none

end Device.Event

namespace Rendering

open Device (Event)

/-- A picture is ended once if it was begun and not at all otherwise. The buffer that was made, if
there was one, is destroyed once, after the end of the picture, and no other. Only a picture that
was begun is rendered, and from the buffer that was made. -/
structure Closed (events : List Event) : Prop where
  ends_eq : events.countP Event.ends = if events.any Event.begins then 1 else 0
  made_le : (events.filterMap Event.made?).length ≤ 1
  destroyed_eq : events.filterMap Event.destroyed? = events.filterMap Event.made?
  destroyed_after : ∀ before id after, events = before ++ .destroyBuffer id :: after →
    ∃ ended, .endPicture ended ∈ before
  rendered_after : ∀ before ids result after,
    events = before ++ .renderPicture ids result :: after →
    (∃ target, .beginPicture target (.ok ()) ∈ before) ∧
      ∃ request id, .createRequest request (.ok id) ∈ before ∧ ids = [id]

/-- What is not among the first elements of a list comes after them. -/
theorem prefix_of_split {α : Type} {front rest before after : List α} {a : α}
    (h : front ++ rest = before ++ a :: after) (ha : a ∉ front) : front <+: before := by
  rcases List.append_eq_append_iff.1 h with ⟨middle, hbefore, -⟩ | ⟨middle, hfront, hrest⟩
  · exact ⟨middle, hbefore.symm⟩
  · cases middle with
    | nil => exact ⟨[], by rw [hfront, List.append_nil, List.append_nil]⟩
    | cons b middle =>
      obtain ⟨rfl, -⟩ := List.cons.inj hrest
      exact absurd (by simp [hfront]) ha

theorem closed_nil : Closed [] where
  ends_eq := rfl
  made_le := Nat.zero_le _
  destroyed_eq := rfl
  destroyed_after before id after h := by simp at h
  rendered_after before ids result after h := by simp at h

theorem closed_of_unmade {events : List Event}
    (hends : events.countP Event.ends = if events.any Event.begins then 1 else 0)
    (hmade : events.filterMap Event.made? = []) (hdestroyed : ∀ id, .destroyBuffer id ∉ events)
    (hrendered : ∀ ids result, .renderPicture ids result ∉ events) : Closed events where
  ends_eq := hends
  made_le := by simp [hmade]
  destroyed_eq := by
    rw [hmade, List.filterMap_eq_nil_iff]
    intro event hevent
    cases event with
    | destroyBuffer id => exact absurd hevent (hdestroyed id)
    | _ => rfl
  destroyed_after before id after h := absurd (h ▸ by simp) (hdestroyed id)
  rendered_after before ids result after h := absurd (h ▸ by simp) (hrendered ids result)

/-- A picture that has been begun and for which a buffer has been made is closed by what follows. -/
theorem closed_of_prepared {front : List Event} {target : SurfaceId} {request : RenderRequest}
    {id : BufferId} {rendered ended : Except DeviceError Unit}
    (hbegun : .beginPicture target (.ok ()) ∈ front) (hmade : front.filterMap Event.made? = [id])
    (hrequest : .createRequest request (.ok id) ∈ front) (hends : front.countP Event.ends = 0)
    (hrenders : ∀ ids result, .renderPicture ids result ∉ front)
    (hdestroys : ∀ x, .destroyBuffer x ∉ front) :
    Closed (front ++ [.renderPicture [id] rendered, .endPicture ended, .destroyBuffer id]) := by
  have hdestroyed : front.filterMap Event.destroyed? = [] := by
    rw [List.filterMap_eq_nil_iff]
    intro event hevent
    cases event with
    | destroyBuffer x => exact absurd hevent (hdestroys x)
    | _ => rfl
  refine ⟨?_, ?_, ?_, ?_, ?_⟩
  · have hany : front.any Event.begins = true := List.any_eq_true.2 ⟨_, hbegun, rfl⟩
    rw [List.countP_append, hends, List.any_append, hany]
    rfl
  · rw [List.filterMap_append, hmade]
    exact Nat.le_refl _
  · rw [List.filterMap_append, List.filterMap_append, hdestroyed, hmade]
    rfl
  · intro before x after heq
    -- the only destruction is the last event, after the end of the picture
    have hsplit : front ++ [.renderPicture [id] rendered, .endPicture ended] ++
        [.destroyBuffer id] = before ++ .destroyBuffer x :: after := by
      rw [← heq, List.append_assoc]
      rfl
    have hprefix := prefix_of_split hsplit (by simp [hdestroys x])
    exact ⟨ended, hprefix.subset (by simp)⟩
  · intro before ids result after heq
    have hprefix := prefix_of_split heq (hrenders ids result)
    have hmem : .renderPicture ids result ∈
        front ++ [.renderPicture [id] rendered, .endPicture ended, .destroyBuffer id] := by
      rw [heq]
      simp
    have hids : ids = [id] := by
      rcases List.mem_append.1 hmem with hfront | hlast
      · exact absurd hfront (hrenders ids result)
      · simp only [List.mem_cons, reduceCtorEq, List.not_mem_nil, or_false,
          Event.renderPicture.injEq] at hlast
        exact hlast.1
    exact ⟨⟨target, hprefix.subset hbegun⟩, request, id, hprefix.subset hrequest, hids⟩

/-- **Every submission closes what it opens.** -/
theorem Transcript.closed {buffer : Option BufferId} {flags : DeintFlags}
    {request : RenderRequest} {result : Except DeviceError Unit} {events : List Event}
    (h : Transcript buffer flags request result events) : Closed events := by
  cases h with
  | refused e => exact closed_of_unmade rfl rfl (by simp) (by simp)
  | unset hbuffer e ended => exact closed_of_unmade rfl rfl (by simp) (by simp)
  | unmade e ended =>
    cases buffer <;> exact closed_of_unmade rfl rfl (by simp [flagEvents]) (by simp [flagEvents])
  | made id rendered ended =>
    have hclosed : Closed ((.beginPicture request.destination (.ok ()) ::
        flagEvents buffer flags ++ [.createRequest request (.ok id)]) ++
          [.renderPicture [id] rendered, .endPicture ended, .destroyBuffer id]) := by
      refine closed_of_prepared List.mem_cons_self ?_ (List.mem_append_right _ List.mem_cons_self)
        ?_ ?_ ?_ <;> cases buffer
      any_goals rfl
      all_goals simp [flagEvents]
    rwa [List.append_assoc] at hclosed

theorem Report.closed {c : Chain} {w : Window} {current : Frame} {picture : Except Error Frame}
    {events : List Event} (h : Report c w current picture events) : Closed events := by
  cases h with
  | unreached e => exact closed_nil
  | failed target htranscript => exact htranscript.closed
  | done target htranscript => exact htranscript.closed

end Rendering

theorem Session.closed_renderEvents {σ : Type} [Device σ] (s : Session σ) :
    Rendering.Closed s.renderEvents := by
  obtain ⟨-, -, ⟨hnone, -⟩ | ⟨current, picture, -, -, -, -, hreport⟩⟩ := s.output_traced
  · rw [hnone]
    exact Rendering.closed_nil
  · exact hreport.closed

/-! ## Leases -/

/-- Every surface that is out has been out before, on the same lease. -/
def Leases.Within (later before : Leases) : Prop :=
  ∀ l ∈ later.live, ∃ old ∈ before.live, old.key = l.key ∧ old.surface = l.surface

theorem Leases.Accounts.within {before later : Leases} {held fewer : List Holding}
    (h : before.Accounts held) (hlater : later.Accounts fewer) (hsub : fewer ⊆ held) :
    later.Within before := by
  intro l hl
  -- a lease has a holder, who has a share in it that has been out before
  have hpos := hlater.holders_pos l hl
  rw [hlater.holders_eq l hl, List.countP_pos_iff] at hpos
  obtain ⟨share, hshare, hkey⟩ := hpos
  have hkey : share.lease = l.key := beq_iff_eq.1 hkey
  obtain ⟨entry, hentry, hentryKey, hentrySurface⟩ := hlater.entered share hshare
  have hsame := hlater.eq_of_key hentry hl (hentryKey.trans hkey)
  obtain ⟨old, hold, holdKey, holdSurface⟩ := h.entered share (hsub hshare)
  refine ⟨old, hold, holdKey.trans hkey, ?_⟩
  rw [holdSurface, ← hsame, hentrySurface]

theorem Session.frames_output_suffix {σ : Type} [Device σ] (s : Session σ) :
    s.output.2.window.frames <:+ s.window.frames := by
  rw [s.window_output]
  split
  · split
    · exact s.window.frames_advanceFrame_suffix
    · exact s.window.frames_advanceField_suffix
  · exact List.suffix_refl _

/-- An output that gives no picture takes no lease. -/
theorem Session.Obeys.within_of_error {σ : Type} [Device σ] {u : Fixtures} {law : Device.Law σ}
    {s : Session σ} {frames : List Frame} (hlaw : Device.Upholds u law)
    (h : s.Obeys u law frames) {leases : σ → Leases}
    (haccounts : ∀ pool held d, law pool held d → (leases d).Accounts held) {error : Error}
    (herror : s.output.1 = .error error) :
    (leases s.output.2.device).Within (leases s.device) := by
  have hlater := h.output hlaw
  rw [herror] at hlater
  refine (haccounts _ _ _ h.holds).within (haccounts _ _ _ hlater.holds) ?_
  show holdings (s.output.2.window.frames ++ frames) ⊆ holdings (s.window.frames ++ frames)
  rw [holdings_append, holdings_append]
  exact ((s.frames_output_suffix.sublist.filterMap _).append_right _).subset

/-! ## All states -/

namespace Simulator

theorem Ordered.liveBuffers_eq {u : Fixtures} {pool : Option PoolId} {d : Simulator}
    (h : d.Ordered u pool) : d.liveBuffers = u.filters.length := by
  have hlength := h.books.buffers_perm.length_eq
  have hview : u.resources.filterMap Resource.buffer? = u.filters := by
    rw [Fixtures.resources, List.filterMap_append, List.filterMap_map]
    simp [Function.comp_def, Resource.buffer?]
  rw [hview, List.length_map] at hlength
  exact hlength

end Simulator

namespace Custody

/-- **Every output closes what it opens**, on any device and whatever fails. So between the calls of
a run there is no open picture on a simulated device, and no buffer but the filters; on a VA device
there is no pending request; and on both an output that fails leaves no surface leased that has not
been leased before. -/
theorem closed_of_reachable (options : Options) :
    (∀ (σ : Type) [Device σ] (s : Session σ), s.traced.output.1 = s.output.1 ∧
      s.traced.output.2.device.device = s.output.2.device ∧ Rendering.Closed s.renderEvents) ∧
    (∀ (d : Simulator) (c : Custody Simulator), d.Unused →
      Reachable Simulator.Injects options d c →
        c.session.device.openPicture = none ∧
        c.session.device.liveBuffers = c.session.chain.descriptors.length ∧
        ∀ error, c.session.output.1 = .error error →
          c.session.output.2.device.leases.Within c.session.device.leases) ∧
    (∀ (δ : Type) [Va.Library δ] (path : String) (driver : δ) (d : Va.Display δ)
      (c : Custody (Va.Display δ)),
      Va.Display.openAt path driver = .ok d → Reachable Va.Display.Replaces options d c →
        c.session.device.pending = [] ∧
        ∀ error, c.session.output.1 = .error error →
          c.session.output.2.device.leases.Within c.session.device.leases) := by
  refine ⟨fun σ _ s => ?_, fun d c hd hc => ?_, fun δ _ path driver d c hopen hc => ?_⟩
  · obtain ⟨hresult, hdevice, -⟩ := s.output_traced
    exact ⟨hresult, hdevice, s.closed_renderEvents⟩
  · have hordered := (Simulator.obeys_ordered hd hc).holds
    refine ⟨hordered.closed, ?_, fun error herror => ?_⟩
    · rw [hordered.liveBuffers_eq]
      exact List.length_map _
    · exact (Simulator.obeys_balanced hd hc).within_of_error (Simulator.upholds_balanced _)
        (fun _ _ _ h => h.sound.accounts) herror
  · have hobeys := Va.Display.obeys_idle (Va.Display.unused_of_openAt hopen).1 hc
    refine ⟨hobeys.holds.2, fun error herror => ?_⟩
    exact hobeys.within_of_error (Va.Display.upkeep_idle.upholds _)
      (fun _ _ _ h => h.1.accounts) herror

/-- A frame is given, and then something goes wrong with the device. -/
def spoilt {σ : Type} (spoil : σ → σ) : List (Deed σ) :=
  [.call (.reconfigure (.hardware 720 576 720 576)),
    .call (.input (some { Frame.decoded ⟨1⟩ 720 576 with fields := ⟨3⟩ })), .call (.alter spoil)]

theorem permits_spoilt {σ : Type} [Device σ] {harmless : (σ → σ) → Prop} {spoil : σ → σ}
    (h : harmless spoil) :
    (spoilt spoil).Forall fun deed => ∀ c : Custody σ, c.Permits harmless deed := by
  refine ⟨fun _ => trivial, ?_, fun _ => h⟩
  intro c given hgiven
  cases hgiven
  rfl

/-- Neither can the picture be rendered nor does its end succeed. -/
def spoilSimulator (d : Simulator) : Simulator := (d.failOn .renderPicture).failOn .endPicture

def spoilDisplay (d : Va.Display (Va.Logged Va.Driver)) : Va.Display (Va.Logged Va.Driver) :=
  let inner := d.driver.driver
  let script := { inner.script with failures := [(.renderPicture, 1), (.endPicture, 1)] }
  { d with driver := { d.driver with driver := { inner with script } } }

/-- The buffer of the request is destroyed although rendering and the end of the picture fail. -/
theorem closed_of_spoilt :
    (∃ (c : Custody Simulator) (error : Error), Reachable Simulator.Injects {} {} c ∧
      c.session.output.1 = .error error ∧
      c.session.renderEvents.filterMap Device.Event.destroyed? = [⟨0x14⟩] ∧
      Rendering.Closed c.session.renderEvents ∧ c.session.device.openPicture = none ∧
      c.session.output.2.device.leases.Within c.session.device.leases) ∧
    ∃ (d : Va.Display (Va.Logged Va.Driver)) (c : Custody (Va.Display (Va.Logged Va.Driver)))
      (error : Error),
      Va.Display.openAt "/dev/null" (⟨bobDriver, []⟩ : Va.Logged Va.Driver) = .ok d ∧
      Reachable Va.Display.Replaces {} d c ∧
      c.session.output.1 = .error error ∧ c.session.device.pending = [] ∧
      c.session.output.2.device.leases.Within c.session.device.leases := by
  constructor
  · obtain ⟨s, hs⟩ : ∃ s, Session.open? {} ({} : Simulator) = .ok s := ⟨_, rfl⟩
    have hspoil : Simulator.Injects spoilSimulator := fun d => ⟨_, rfl⟩
    have hreached := (Reachable.opened hs).act (permits_spoilt hspoil)
    cases hs
    obtain ⟨hclosed, -, hwithin⟩ :=
      (closed_of_reachable {}).2.1 {} _ ⟨rfl, rfl, rfl, rfl, rfl, rfl⟩ hreached
    refine ⟨_, _, hreached, rfl, ?_, ((closed_of_reachable {}).1 _ _).2.2, hclosed, hwithin _ rfl⟩
    rfl
  · obtain ⟨s, hs⟩ : ∃ s, Session.open? {} bobDisplay = .ok s := ⟨_, rfl⟩
    have hspoil : Va.Display.Replaces spoilDisplay := fun d => ⟨_, rfl⟩
    have hreached := (Reachable.opened hs).act (permits_spoilt hspoil)
    cases hs
    obtain ⟨hpending, hwithin⟩ := (closed_of_reachable {}).2.2 (Va.Logged Va.Driver) "/dev/null"
      ⟨bobDriver, []⟩ _ _ openAt_bobDriver hreached
    exact ⟨_, _, _, openAt_bobDriver, hreached, rfl, hpending, hwithin _ rfl⟩

end Custody

end Deinterlace
