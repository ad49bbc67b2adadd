import Deinterlace.Proofs.Device.Traced
import Deinterlace.Proofs.Session.Upkeep
import Deinterlace.Proofs.Simulator.Effects
import Deinterlace.Proofs.Va.Effects
import Deinterlace.Proofs.Va.Scripted
import Mathlib.Data.List.Forall2

/-!
# Runs that differ in what fails

A picture that cannot be rendered is lost, and nothing else is. Two runs from the same session, with
the same calls and the same frames, may differ in which pictures fail, in when the caller gives
pictures back and so in the surfaces that are used (`Call.Alike`). Their windows are the same
nevertheless, after every call, and whatever an output of the one run gives, the output of the other
run at the same point is about the same field of the same frame (`Journal.matched_of_alike`).
-/
namespace Deinterlace

/-- A device whose answers to capability queries depend on a part of its state only, which no call
of a session changes. -/
class Device.Steady (σ : Type) [Device σ] where
  Profile : Type
  profile : σ → Profile
  queryCaps_congr {d e : σ} (h : profile d = profile e) (context : ContextId)
    (filters : List BufferId) :
    (Device.queryCaps context filters d).1.toOption =
      (Device.queryCaps context filters e).1.toOption
  upholds (u : Fixtures) (p : Profile) : Device.Upholds u fun _ _ d => profile d = p

/-! ## Steady devices -/

namespace Simulator

/-- What the device answers to capability queries, and whether it does. -/
def profile (d : Simulator) : PipelineCaps × Bool := (d.caps, d.fails .queryPipelineCaps)

theorem Quiet.profile_eq {d later : Simulator} (h : Quiet d later) : later.profile = d.profile := by
  unfold profile fails
  rw [h.caps_eq, h.failing_eq]

theorem upholds_profile (u : Fixtures) (p : PipelineCaps × Bool) :
    Device.Upholds u fun _ _ (d : Simulator) => d.profile = p where
  perm _ h := h
  retain _ h := h
  release := by
    intro pool held share d h
    show profile (release share.lease d) = p
    unfold release
    rcases d.leases.release? share.lease with ⟨_ | lease, leases⟩ <;> exact h
  queryCaps := by
    intro pool held filters d _ h
    rw [queryCaps_eq]
    exact h
  createPool := by
    intro held desc d h
    rcases createPool_cases d desc with ⟨e, heq⟩ | heq <;> rw [heq] <;> exact h
  closePool h := h
  allocate := by
    intro pool held d h
    rcases allocate_cases d pool with ⟨e, heq, -⟩ | ⟨q, id, rest, -, -, -, heq⟩ |
      ⟨q, -, -, -, -, heq⟩ <;> rw [heq] <;> exact h
  upload := by
    intro pool held target frame d h
    rcases upload_cases d pool target frame with ⟨e, heq⟩ | heq <;> rw [heq] <;> exact h
  submit := by
    intro pool held buffer flags request d _ h
    exact (quiet_submit u.context buffer flags request d).profile_eq.trans h

theorem queryCaps_congr {d e : Simulator} (h : d.profile = e.profile) (context : ContextId)
    (filters : List BufferId) : (Device.queryCaps context filters d).1 =
      (Device.queryCaps context filters e).1 := by
  obtain ⟨hcaps, hfails⟩ := Prod.ext_iff.1 h
  have hcaps : d.caps = e.caps := hcaps
  have hfails : d.fails .queryPipelineCaps = e.fails .queryPipelineCaps := hfails
  rw [queryCaps_eq, queryCaps_eq, hcaps, hfails]

instance : Device.Steady Simulator where
  Profile := PipelineCaps × Bool
  profile := profile
  queryCaps_congr h context filters := congrArg (·.toOption) (queryCaps_congr h context filters)
  upholds := upholds_profile

end Simulator

namespace Va

/-- The capability query of a device. -/
abbrev Call.queryCaps (context : Nat) (filters : List Nat) : Call :=
  .queryPipelineCaps context filters maxStandards maxStandards

/-- A driver whose answers to capability queries depend on a part of its state only, which neither
calls nor writes change. -/
class Library.Steady (δ : Type) [Library δ] where
  Profile : Type
  profile : δ → Profile
  queryCaps_congr {d e : δ} (h : profile d = profile e) (context : Nat) (filters : List Nat) :
    (Library.call (.queryCaps context filters) d).1 =
        (Library.call (.queryCaps context filters) e).1 ∧
      (Library.call (.queryCaps context filters) d).2.1 =
        (Library.call (.queryCaps context filters) e).2.1
  profile_call (c : Call) (d : δ) : profile (Library.call c d).2.2 = profile d
  profile_write (address : Address) (patch : Patch) (d : δ) :
    profile (Library.write address patch d) = profile d

/-- What a script answers to capability queries: a failure, or tables. -/
def Script.profile (s : Script) : Option Int × PipelineTables maxStandards maxStandards :=
  (s.failures.lookup .queryPipelineCaps,
    { input := .fill maxStandards s.inputStandards s.inputCount
      output := .fill maxStandards s.outputStandards s.outputCount
      forward := s.forward
      backward := s.backward })

namespace Driver

/-- The answer to a capability query. -/
theorem call_queryCaps (context : Nat) (filters : List Nat) (d : Driver) :
    (Library.call (.queryCaps context filters) d).1 = d.script.profile.1.getD success ∧
      (Library.call (.queryCaps context filters) d).2.1 =
        if d.script.profile.1.isSome then {} else d.script.profile.2 := by
  have hfailure : d.failure? (.queryCaps context filters) = d.script.profile.1 := rfl
  show (answer (.queryCaps context filters) d).1 = _ ∧
    (answer (.queryCaps context filters) d).2.1 = _
  unfold answer
  rw [hfailure]
  cases d.script.profile.1 <;> exact ⟨rfl, rfl⟩

instance : Library.Steady Driver where
  Profile := Option Int × PipelineTables maxStandards maxStandards
  profile d := d.script.profile
  queryCaps_congr {d e} h context filters := by
    obtain ⟨hstatus, houtput⟩ := d.call_queryCaps context filters
    obtain ⟨hstatus', houtput'⟩ := e.call_queryCaps context filters
    rw [hstatus, houtput, hstatus', houtput', h]
    exact ⟨rfl, rfl⟩
  profile_call c d := congrArg Script.profile (d.script_call c)
  profile_write address patch d := congrArg Script.profile (d.script_write address patch)

end Driver

namespace Display

variable {δ : Type} [Library δ]

theorem toOption_queryCaps (context : ContextId) (filters : List BufferId) (d : Display δ) :
    (Device.queryCaps context filters d).1.toOption =
      let answer := Library.call (.queryCaps context.value (filters.map (·.value))) d.driver
      if answer.1 = success then some (capsOf answer.2.1) else none := by
  show (mapAnswer capsOf (d.ask (.queryCaps context.value (filters.map (·.value))))).1.toOption = _
  rcases ask_cases (.queryCaps context.value (filters.map (·.value))) d with
    ⟨hstatus, heq⟩ | ⟨hstatus, e, heq⟩ <;> rw [heq]
  · exact (if_pos hstatus).symm
  · exact (if_neg hstatus).symm

variable [Library.Steady δ]

theorem profile_of_leads {driver later : δ} (h : Leads (fun _ _ => True) driver later) :
    Library.Steady.profile later = Library.Steady.profile driver := by
  induction h with
  | refl => rfl
  | call c _ _ ih => exact (Library.Steady.profile_call c _).trans ih
  | write address patch _ ih => exact (Library.Steady.profile_write address patch _).trans ih

instance : Device.Steady (Display δ) where
  Profile := Library.Steady.Profile δ
  profile d := Library.Steady.profile d.driver
  queryCaps_congr h context filters := by
    obtain ⟨hstatus, houtput⟩ :=
      Library.Steady.queryCaps_congr h context.value (filters.map (·.value))
    rw [toOption_queryCaps, toOption_queryCaps]
    dsimp only
    rw [hstatus, houtput]
  upholds u p := upholds_of_leads u fun _ _ hleads h => (profile_of_leads hleads).trans h

end Display

end Va

variable {σ : Type} [Device σ] [Device.Steady σ]

open Device (Steady)

/-- Negotiations that start from the same and get the same answer come to the same. -/
theorem Chain.configure_congr (c : Chain) (context : ContextId) (on : Bool) (w : Window) {d e : σ}
    (h : Steady.profile d = Steady.profile e) :
    (c.configure context on w d).1 = (c.configure context on w e).1 ∧
      (c.configure context on w d).2.1 = (c.configure context on w e).2.1 := by
  have hanswer := Steady.queryCaps_congr h context (c.keyFor on).filters
  rw [configure_eq, configure_eq]
  by_cases hlast : c.last = some (c.keyFor on)
  · rw [if_pos hlast, if_pos hlast]
    exact ⟨rfl, rfl⟩
  rw [if_neg hlast, if_neg hlast]
  by_cases hempty : (c.keyFor on).filters.isEmpty = true
  · rw [if_pos hempty, if_pos hempty]
    exact ⟨rfl, rfl⟩
  rw [if_neg hempty, if_neg hempty]
  rcases hd : Device.queryCaps context (c.keyFor on).filters d with ⟨_ | caps, later⟩ <;>
    rcases he : Device.queryCaps context (c.keyFor on).filters e with ⟨_ | others, last⟩ <;>
    rw [hd, he] at hanswer
  · exact ⟨rfl, rfl⟩
  · cases hanswer
  · cases hanswer
  · cases hanswer
    exact ⟨rfl, rfl⟩

/-! ## Calls that are alike -/

namespace Session

def Call.asks : Call σ → Bool
  | .output | .take => true
  | _ => false

/-- Two calls that hand over the same frame, ask for a picture, or set the session up alike. The
picture may be held in the one run and given back at once in the other. The devices may be changed
differently, as long as they go on giving the same answers to capability queries. -/
inductive Call.Alike : Call σ → Call σ → Prop
  | input (frame : Option Frame) (h : ∀ x, frame = some x → x.format.isHardware = true) :
      Alike (.input frame) (.input frame)
  | ask {call other : Call σ} (h : call.asks = true) (hother : other.asks = true) :
      Alike call other
  | seek : Alike .seek .seek
  | switch (on : Bool) : Alike (.switch on) (.switch on)
  | reconfigure (params : StreamParams) : Alike (.reconfigure params) (.reconfigure params)
  | alter {change other : σ → σ}
      (h : ∀ d e, Steady.profile d = Steady.profile e →
        Steady.profile (change d) = Steady.profile (other e)) :
      Alike (.alter change) (.alter other)

/-- The sessions agree in everything that decides what the next output is about. -/
structure Parallel (s t : Session σ) : Prop where
  context_eq : t.context = s.context
  chain_eq : t.chain = s.chain
  window_eq : t.window = s.window
  deinterlacing_eq : t.deinterlacing = s.deinterlacing
  profile_eq : Steady.profile t.device = Steady.profile s.device

section Effects

omit [Device.Steady σ]

variable (s : Session σ)

theorem perform_of_asks {call : Call σ} (h : call.asks = true) :
    ∃ device, s.perform call = { s.output.2 with device } := by
  cases call
  case output => exact ⟨s.output.2.device, rfl⟩
  case take => exact s.take_cases.2
  all_goals cases h

theorem setup_output : s.output.2.context = s.context ∧ s.output.2.chain = s.chain ∧
    s.output.2.deinterlacing = s.deinterlacing := by
  rcases s.output_cases with ⟨-, heq⟩ | ⟨frame, -, -, -, heq⟩ |
    ⟨frame, picture, device, stats, -, -, -, -, heq⟩ <;> rw [heq] <;> exact ⟨rfl, rfl, rfl⟩

theorem context_reconfigure (params : StreamParams) :
    (s.reconfigure params).2.context = s.context := by
  have hforget : s.forget.context = s.context := by
    unfold forget closePool
    split <;> rfl
  rcases s.reconfigure_cases params with ⟨e, device, heq⟩ | ⟨desc, pool, device, -, -, heq⟩ <;>
    rw [heq] <;> exact hforget

theorem deinterlacing_reconfigure (params : StreamParams) :
    (s.reconfigure params).2.deinterlacing = s.deinterlacing := by
  rcases s.reconfigure_cases params with ⟨e, device, heq⟩ | ⟨desc, pool, device, -, -, heq⟩ <;>
    rw [heq] <;> exact s.deinterlacing_forget

end Effects

theorem profile_configure (s : Session σ) :
    Steady.profile s.configure.device = Steady.profile s.device := by
  have h : s.Obeys s.fixtures (fun _ _ d => Steady.profile d = Steady.profile s.device) [] :=
    ⟨rfl, rfl⟩
  exact (h.configure (Steady.upholds _ _)).holds

/-- Nothing that a session does changes what its device answers to capability queries. -/
theorem profile_perform (s : Session σ) {call : Call σ} (h : ∀ change, call ≠ .alter change) :
    Steady.profile (s.perform call).device = Steady.profile s.device := by
  have hbefore : s.Obeys s.fixtures (fun _ _ d => Steady.profile d = Steady.profile s.device)
      (call.given?.toList ++ []) := ⟨rfl, rfl⟩
  have hafter := hbefore.perform (Steady.upholds _ _)
    fun change hchange => absurd hchange (h change)
  exact hafter.holds

/-! ## Single calls -/

namespace Parallel

variable {s t : Session σ}

theorem passesThrough_eq (h : Parallel s t) : t.passesThrough = s.passesThrough := by
  unfold passesThrough
  rw [h.chain_eq, h.window_eq]

theorem configure (h : Parallel s t) : Parallel s.configure t.configure := by
  obtain ⟨hchain, hwindow⟩ :=
    s.chain.configure_congr s.context s.deinterlacing s.window h.profile_eq
  refine ⟨h.context_eq, ?_, ?_, h.deinterlacing_eq, ?_⟩
  · show (t.chain.configure t.context t.deinterlacing t.window t.device).1 = _
    rw [h.chain_eq, h.context_eq, h.deinterlacing_eq, h.window_eq]
    exact hchain
  · show (t.chain.configure t.context t.deinterlacing t.window t.device).2.1 = _
    rw [h.chain_eq, h.context_eq, h.deinterlacing_eq, h.window_eq]
    exact hwindow
  · rw [t.profile_configure, s.profile_configure]
    exact h.profile_eq

theorem input (h : Parallel s t) {frame : Option Frame}
    (hhard : ∀ x, frame = some x → x.format.isHardware = true) :
    Parallel (s.input frame).2 (t.input frame).2 := by
  have hconf := h.configure
  obtain ⟨w, hs, hw⟩ := s.input_of_hardware hhard
  obtain ⟨w', ht, hw'⟩ := t.input_of_hardware hhard
  have hsame : w' = w := by
    rcases hw with ⟨rfl, rfl⟩ | ⟨x, rfl, rfl⟩ <;> rcases hw' with ⟨hx, rfl⟩ | ⟨y, hy, rfl⟩
    · rw [hconf.window_eq]
    · cases hy
    · cases hx
    · cases hy
      rw [hconf.window_eq]
  rw [hs, ht]
  exact ⟨hconf.context_eq, hconf.chain_eq, hsame, hconf.deinterlacing_eq, hconf.profile_eq⟩

theorem output (h : Parallel s t) : Parallel s.output.2 t.output.2 := by
  obtain ⟨hcontext, hchain, hon⟩ := s.setup_output
  obtain ⟨hcontext', hchain', hon'⟩ := t.setup_output
  refine ⟨?_, ?_, ?_, ?_, ?_⟩
  · rw [hcontext', hcontext, h.context_eq]
  · rw [hchain', hchain, h.chain_eq]
  · -- whatever comes of the output, the window moves on in the same way
    rw [t.window_output, s.window_output, h.passesThrough_eq, h.window_eq]
  · rw [hon', hon, h.deinterlacing_eq]
  · have hkept : ∀ r : Session σ,
        Steady.profile (r.perform .output).device = Steady.profile r.device :=
      fun r => r.profile_perform nofun
    show Steady.profile (t.perform .output).device = Steady.profile (s.perform .output).device
    rw [hkept t, hkept s, h.profile_eq]

/-- **Sessions that agree still agree after calls that are alike.** -/
theorem perform (h : Parallel s t) {call other : Call σ} (hcalls : Call.Alike call other) :
    Parallel (s.perform call) (t.perform other) := by
  have hprofile : (∀ change, call ≠ .alter change) → (∀ change, other ≠ .alter change) →
      Steady.profile (t.perform other).device = Steady.profile (s.perform call).device := by
    intro hcall hother
    rw [t.profile_perform hother, s.profile_perform hcall]
    exact h.profile_eq
  cases hcalls with
  | input frame hhard => exact h.input hhard
  | ask hcall hother =>
    -- held or given back at once, an output leaves the same behind but for the device
    have hdevice := hprofile (fun change hchange => by rw [hchange] at hcall; cases hcall)
      (fun change hchange => by rw [hchange] at hother; cases hother)
    have hout := h.output
    obtain ⟨d, hs⟩ := s.perform_of_asks hcall
    obtain ⟨e, ht⟩ := t.perform_of_asks hother
    rw [hs, ht] at hdevice ⊢
    exact ⟨hout.context_eq, hout.chain_eq, hout.window_eq, hout.deinterlacing_eq, hdevice⟩
  | seek =>
    exact ⟨h.context_eq, h.chain_eq, congrArg Window.flush h.window_eq, h.deinterlacing_eq,
      hprofile (fun _ => nofun) (fun _ => nofun)⟩
  | switch on =>
    have hmode : t.chain.options.mode.isEnabled = s.chain.options.mode.isEnabled := by
      rw [h.chain_eq]
    show Parallel (s.setDeinterlacing on).2 (t.setDeinterlacing on).2
    unfold setDeinterlacing
    rw [hmode]
    split
    · exact ⟨h.context_eq, h.chain_eq, h.window_eq, rfl, h.profile_eq⟩
    · exact h
  | reconfigure params =>
    refine ⟨?_, ?_, ?_, ?_, hprofile (fun _ => nofun) (fun _ => nofun)⟩
    · exact (t.context_reconfigure params).trans
        (h.context_eq.trans (s.context_reconfigure params).symm)
    · exact (t.chain_reconfigure params).trans
        ((congrArg Chain.invalidate h.chain_eq).trans (s.chain_reconfigure params).symm)
    · exact (t.window_reconfigure params).trans
        ((congrArg Window.flush h.window_eq).trans (s.window_reconfigure params).symm)
    · exact (t.deinterlacing_reconfigure params).trans
        (h.deinterlacing_eq.trans (s.deinterlacing_reconfigure params).symm)
  | alter hchange =>
    exact ⟨h.context_eq, h.chain_eq, h.window_eq, h.deinterlacing_eq,
      (hchange _ _ h.profile_eq.symm).symm⟩

end Parallel

end Session

/-! ## What outputs are about -/

namespace Device.Event

def request? : Device.Event → Option RenderRequest
  | .createRequest request (.ok _) => some request
  | _ => none

def flags? : Device.Event → Option DeintFlags
  | .updateFlags _ flags (.ok _) => some flags
  | _ => none

end Device.Event

namespace Rendering

open Device (Event)

/-- A picture that was rendered by the request `request`, apart from the surface, with the flags
`flags` set. -/
structure Shown (request : RenderRequest) (flags : List DeintFlags) (picture : Frame)
    (events : List Event) : Prop where
  request_eq : events.filterMap Event.request? =
    [{ request with destination := picture.surfaceId }]
  flags_eq : events.filterMap Event.flags? = flags

theorem request?_flagEvents (buffer : Option BufferId) (flags : DeintFlags) :
    (flagEvents buffer flags).filterMap Event.request? = [] := by
  cases buffer <;> rfl

theorem flags?_flagEvents (buffer : Option BufferId) (flags : DeintFlags) :
    (flagEvents buffer flags).filterMap Event.flags? = buffer.toList.map fun _ => flags := by
  cases buffer <;> rfl

theorem Report.shown {c : Chain} {w : Window} {current picture : Frame} {events : List Event}
    (h : Report c w current (.ok picture) events) :
    (∃ target, picture = pictureOf w current target) ∧
      Shown (buildRequest c w current .invalid)
        (c.deinterlaceBuffer?.toList.map fun _ => .ofField (fieldOf w) w.topFieldFirst) picture
        events := by
  generalize hresult : (Except.ok picture : Except Error Frame) = result at h
  cases h with
  | unreached e => cases hresult
  | failed target htranscript => cases hresult
  | done target htranscript =>
    cases hresult
    refine ⟨⟨target, rfl⟩, ?_⟩
    generalize hdone : (Except.ok () : Except DeviceError Unit) = done at htranscript
    cases htranscript with
    | refused e => cases hdone
    | unset hbuffer e ended => cases hdone
    | unmade e ended => cases hdone
    | made id rendered ended =>
      refine ⟨?_, ?_⟩
      · rw [List.filterMap_append, List.filterMap_cons_none rfl, request?_flagEvents]
        rfl
      · rw [List.filterMap_append, List.filterMap_cons_none rfl, flags?_flagEvents]
        simp [Event.flags?]

end Rendering

/-- Two ticks of the same field of the same frame. One may have failed and the other not, but
pictures from both show the same, on whatever surfaces they are. -/
structure Tick.Counterpart (t u : Tick) : Prop where
  turn_eq : u = { t with result := u.result }
  passed_eq : t.rendered = false → u.result = t.result
  picture_eq : ∀ p q, t.result = .ok p → u.result = .ok q → q = { p with content := q.content }

namespace Journal

omit [Device.Steady σ] in
theorem tick?_output (j : Journal σ) {current : Frame} (result : Except Error Frame)
    (hcur : j.session.window.current? = some current)
    (hresult : j.session.output.1 = result.map some) :
    j.tick? .output = some (j.tick current result) := by
  simp [tick?, hresult, Session.gave?_map, hcur]

/-- The sessions agree, and the same has been written down of what went in. -/
structure Parallel (a b : Journal σ) : Prop where
  session : Session.Parallel a.session b.session
  accepted_eq : b.accepted = a.accepted
  switched_eq : b.switched = a.switched

omit [Device.Steady σ] in
/-- What the next outputs of two sessions amount to: neither gives anything, or both are about the
same field, and pictures from both are rendered by the same request. -/
inductive Matched (a b : Journal σ) : Prop
  | nothing (ha : a.session.output.1 = .ok none) (hb : b.session.output.1 = .ok none)
  | ticks {t u : Tick} (ha : a.tick? .output = some t) (hb : b.tick? .output = some u)
      (h : t.Counterpart u)
      (hshown : t.rendered = true → ∃ request flags,
        (∀ p, t.result = .ok p → Rendering.Shown request flags p a.session.renderEvents) ∧
        ∀ q, u.result = .ok q → Rendering.Shown request flags q b.session.renderEvents)

namespace Parallel

variable {a b : Journal σ}

theorem next (h : Parallel a b) {call other : Session.Call σ}
    (hcalls : Session.Call.Alike call other) : Parallel (a.next call) (b.next other) := by
  have hsession := h.session.perform hcalls
  cases hcalls with
  | input frame hhard =>
    refine ⟨hsession, ?_, h.session.deinterlacing_eq⟩
    show b.accepted ++ (b.session.taken? (.input frame)).toList =
      a.accepted ++ (a.session.taken? (.input frame)).toList
    rw [h.accepted_eq]
    cases frame with
    | none => rfl
    | some frame =>
      have htaken := hhard frame rfl
      rw [a.session.taken?_of_hardware htaken, b.session.taken?_of_hardware htaken]
  | ask hcall hother =>
    have hnone : ∀ (j : Journal σ) (c : Session.Call σ), c.asks = true →
        (j.next c).accepted = j.accepted ++ [] ∧ (j.next c).switched = j.switched := by
      intro j c hc
      cases c
      case output => exact ⟨rfl, rfl⟩
      case take => exact ⟨rfl, rfl⟩
      all_goals cases hc
    obtain ⟨haccepted, hswitched⟩ := hnone a call hcall
    obtain ⟨haccepted', hswitched'⟩ := hnone b other hother
    exact ⟨hsession, by rw [haccepted', haccepted, h.accepted_eq],
      by rw [hswitched', hswitched, h.switched_eq]⟩
  | seek => exact ⟨hsession, congrArg (· ++ []) h.accepted_eq, h.switched_eq⟩
  | switch on => exact ⟨hsession, congrArg (· ++ []) h.accepted_eq, h.switched_eq⟩
  | reconfigure params => exact ⟨hsession, congrArg (· ++ []) h.accepted_eq, h.switched_eq⟩
  | alter hchange => exact ⟨hsession, congrArg (· ++ []) h.accepted_eq, h.switched_eq⟩

theorem foldl {calls others : List (Session.Call σ)}
    (hcalls : List.Forall₂ Session.Call.Alike calls others) (h : Parallel a b) :
    Parallel (calls.foldl Journal.next a) (others.foldl Journal.next b) := by
  induction hcalls generalizing a b with
  | nil => exact h
  | cons hcall _ ih => exact ih (h.next hcall)

theorem tick_eq (h : Parallel a b) (frame : Frame) (result : Except Error Frame) :
    b.tick frame result = a.tick frame result := by
  unfold tick
  rw [h.session.window_eq, h.session.passesThrough_eq, h.session.chain_eq, h.accepted_eq,
    h.switched_eq]

theorem matched_of_passed (h : Parallel a b) {frame : Frame}
    (hout : a.session.window.hasOutput = true) (hcur : a.session.window.current? = some frame)
    (hpass : a.session.passesThrough = true) : Matched a b := by
  have hwindow := h.session.window_eq
  have heq := Session.output_of_passed hout hcur hpass
  have heq' := Session.output_of_passed (s := b.session) (hwindow ▸ hout) (hwindow ▸ hcur)
    (h.session.passesThrough_eq.trans hpass)
  have htick := a.tick?_output (.ok frame) hcur (by rw [heq]; rfl)
  have htick' := b.tick?_output (.ok frame) (hwindow ▸ hcur) (by rw [heq']; rfl)
  rw [h.tick_eq] at htick'
  have hrendered : (a.tick frame (.ok frame)).rendered = false := by simp [tick, hpass]
  refine .ticks htick htick' ⟨rfl, fun _ => rfl, ?_⟩ fun htrue => ?_
  · intro p q hp hq
    cases hp.symm.trans hq
    rfl
  · cases hrendered.symm.trans htrue

/-- Where a picture is to be rendered, the two runs render it by the same request, as far as they
get. -/
theorem matched_of_rendered (h : Parallel a b) (hout : a.session.window.hasOutput = true)
    (hpass : a.session.passesThrough = false) : Matched a b := by
  have hwindow := h.session.window_eq
  obtain ⟨current, picture, hcur, hresult, hreport⟩ := Session.output_reported hout hpass
  obtain ⟨current', picture', hcur', hresult', hreport'⟩ :=
    Session.output_reported (s := b.session) (hwindow ▸ hout)
      (h.session.passesThrough_eq.trans hpass)
  have hsame : current' = current := by
    rw [hwindow] at hcur'
    exact Option.some.inj (hcur'.symm.trans hcur)
  subst hsame
  rw [h.session.chain_eq, hwindow] at hreport'
  have htick := a.tick?_output picture hcur hresult
  have htick' := b.tick?_output picture' hcur' hresult'
  rw [h.tick_eq] at htick'
  have hrendered : (a.tick current' picture).rendered = true := by simp [tick, hpass]
  refine .ticks htick htick' ⟨rfl, fun hfalse => ?_, ?_⟩ fun _ =>
    ⟨Rendering.buildRequest a.session.chain a.session.window current' .invalid,
      a.session.chain.deinterlaceBuffer?.toList.map fun _ =>
        .ofField (Rendering.fieldOf a.session.window) a.session.window.topFieldFirst, ?_, ?_⟩
  · cases hrendered.symm.trans hfalse
  · rintro p q rfl rfl
    obtain ⟨⟨target, hp⟩, -⟩ := hreport.shown
    obtain ⟨⟨target', hq⟩, -⟩ := hreport'.shown
    rw [hp, hq]
    rfl
  · rintro p rfl
    exact hreport.shown.2
  · rintro q rfl
    exact hreport'.shown.2

theorem matched (h : Parallel a b) : Matched a b := by
  rcases a.session.output_cases with ⟨hout, heq⟩ | ⟨frame, hout, hcur, hpass, -⟩ |
    ⟨frame, picture, device, stats, hout, -, hpass, -⟩
  · have heq' := Session.output_of_idle (s := b.session) (h.session.window_eq ▸ hout)
    exact .nothing (by rw [heq]) (by rw [heq'])
  · exact h.matched_of_passed hout hcur hpass
  · exact h.matched_of_rendered hout hpass

end Parallel

/-- **A failure costs its own picture only.** After every beginning of two runs from the same
session with calls that are alike, the windows are the same. What the next outputs give, held or
given back at once, are both nothing, or both pictures or failures of the same field of the same
frame; and where both give pictures these are alike, and so are the requests. -/
theorem matched_of_alike (s : Session σ) {calls others : List (Session.Call σ)}
    (h : List.Forall₂ Session.Call.Alike calls others) (n : Nat) :
    (s.follow (others.take n)).session.window = (s.follow (calls.take n)).session.window ∧
      Matched (s.follow (calls.take n)) (s.follow (others.take n)) := by
  have hsame : Parallel (σ := σ) { session := s } { session := s } :=
    ⟨⟨rfl, rfl, rfl, rfl, rfl⟩, rfl, rfl⟩
  have hparallel := hsame.foldl (List.forall₂_take n h)
  exact ⟨hparallel.session.window_eq, hparallel.matched⟩

/-- A run in which every picture is held. -/
def smooth : List (Session.Call Simulator) :=
  [.reconfigure (.hardware 720 576 720 576),
    .input (some { Frame.decoded ⟨1⟩ 720 576 with fields := ⟨3⟩ }),
    .input none, .alter id, .output, .alter Simulator.clearFailures, .output]

/-- A run in which the first picture is lost. -/
def rough : List (Session.Call Simulator) :=
  [.reconfigure (.hardware 720 576 720 576),
    .input (some { Frame.decoded ⟨1⟩ 720 576 with fields := ⟨3⟩ }),
    .input none, .alter (·.failOn .beginPicture), .take, .alter Simulator.clearFailures, .take]

theorem forall₂_alike_rough : List.Forall₂ Session.Call.Alike smooth rough := by
  refine .cons (.reconfigure _) (.cons (.input _ ?_) (.cons (.input none fun _ => nofun)
    (.cons (.alter ?_) (.cons (.ask rfl rfl) (.cons (.alter ?_) (.cons (.ask rfl rfl) .nil))))))
  · intro x hx
    cases hx
    rfl
  · intro d e h
    exact h
  · intro d e h
    obtain ⟨hcaps, -⟩ := Prod.ext_iff.1 h
    exact Prod.ext hcaps rfl

/-- The second fields are rendered in both runs, onto different surfaces. -/
theorem matched_of_rough :
    ∃ s : Session Simulator, Session.open? {} {} = .ok s ∧
      (s.follow smooth).ticks.map (·.result.toOption.map (·.surfaceId)) =
        [some ⟨0x13⟩, some ⟨0x15⟩] ∧
      (s.follow rough).ticks.map (·.result.toOption.map (·.surfaceId)) = [none, some ⟨0x13⟩] ∧
      List.Forall₂ Session.Call.Alike smooth rough ∧
      Matched (s.follow (smooth.take 6)) (s.follow (rough.take 6)) := by
  refine ⟨_, rfl, by decide, by decide, forall₂_alike_rough, ?_⟩
  exact (matched_of_alike _ forall₂_alike_rough 6).2

end Journal

end Deinterlace
