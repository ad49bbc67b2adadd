import Deinterlace.Proofs.Probe.Course
import Deinterlace.Proofs.Simulator.Ledger
import Mathlib.Data.List.Nodup

/-!
# Probing the simulated device

On the simulated device no two objects have one number, so what a probe makes there is destroyed
exactly once, and the buffers that were there stay (`Simulator.probe_leaves_no_trace`). What is
written down of the probe agrees with the log that the device keeps itself.
-/
namespace Deinterlace

open Simulator (Resource)

/-- The entry that a call leaves in the log of a simulated device, if any. -/
def Probe.Event.call? : Probe.Event → Option Simulator.Call
  | createConfig (.ok config) => some (.createConfig config)
  | createContext _ (.ok context) => some (.createContext context)
  | queryFilters _ _ => some .queryFilters
  | queryAlgorithms _ _ => some .queryAlgorithms
  | createFilter _ _ (.ok buffer) => some (.createFilter buffer)
  | queryCaps _ filters _ => some (.queryCaps filters)
  | destroyBuffer buffer => some (.destroyBuffer buffer)
  | destroyContext context => some (.destroyContext context)
  | destroyConfig config => some (.destroyConfig config)
  | _ => none

namespace Watched

open Probe (Event)

/-- What was written down since `start` agrees with the log, and no number was given twice. -/
structure Faithful (start : Simulator) (w : Watched Simulator) : Prop where
  calls_eq : w.device.calls = start.calls ++ w.events.reverse.filterMap Event.call?
  nodup : (w.events.filterMap Event.makes?).Nodup
  made_lt : ∀ r ∈ w.events.filterMap Event.makes?, r.number < w.device.nextId

namespace Faithful

variable {start later : Simulator} {w : Watched Simulator} {event : Event}

theorem next (h : w.Faithful start) (hcalls : later.calls = w.device.calls ++ event.call?.toList)
    (hnext : w.device.nextId ≤ later.nextId)
    (hmakes : ∀ r, event.makes? = some r →
      r.number = w.device.nextId ∧ later.nextId = w.device.nextId + 1) :
    Faithful start ⟨later, event :: w.events⟩ := by
  have hlog : (event :: w.events).reverse.filterMap Event.call? =
      w.events.reverse.filterMap Event.call? ++ event.call?.toList := by
    rw [List.reverse_cons, List.filterMap_append]
    cases hcall : event.call? <;> simp [hcall]
  refine ⟨?_, ?_, ?_⟩
  · rw [hlog, hcalls, h.calls_eq, List.append_assoc]
  · cases hevent : event.makes? with
    | none =>
      rw [List.filterMap_cons_none hevent]
      exact h.nodup
    | some r =>
      rw [List.filterMap_cons_some hevent]
      refine List.nodup_cons.2 ⟨fun hmem => ?_, h.nodup⟩
      -- every number given so far is below the one that is given now
      have hlt := h.made_lt r hmem
      have hnumber := (hmakes r hevent).1
      omega
  · intro r hr
    obtain ⟨made, hmem, hmade⟩ := List.mem_filterMap.1 hr
    rcases List.mem_cons.1 hmem with rfl | hmem
    · obtain ⟨hnumber, hlater⟩ := hmakes r hmade
      show r.number < later.nextId
      omega
    · have hlt := h.made_lt r (List.mem_filterMap.2 ⟨made, hmem, hmade⟩)
      show r.number < later.nextId
      omega

/-- A call that makes nothing and leaves one entry. -/
theorem noted (h : w.Faithful start) {call : Simulator.Call}
    (hhistory : later.history = call :: w.device.history) (hcall : event.call? = some call)
    (hnext : w.device.nextId ≤ later.nextId) (hmakes : event.makes? = none) :
    Faithful start ⟨later, event :: w.events⟩ := by
  refine h.next ?_ hnext fun r hr => by cases hmakes.symm.trans hr
  rw [hcall]
  exact Simulator.calls_of_history hhistory

/-- A call that fails and leaves no entry. -/
theorem failed (h : w.Faithful start) (hhistory : later.history = w.device.history)
    (hcall : event.call? = none) (hnext : w.device.nextId ≤ later.nextId)
    (hmakes : event.makes? = none) : Faithful start ⟨later, event :: w.events⟩ := by
  refine h.next ?_ hnext fun r hr => by cases hmakes.symm.trans hr
  rw [hcall, Simulator.calls, Simulator.calls, hhistory]
  exact (List.append_nil _).symm

/-- A call that gives the next number to what it makes. -/
theorem made (h : w.Faithful start) {call : Simulator.Call} {r : Resource}
    (hhistory : later.history = call :: w.device.history) (hcall : event.call? = some call)
    (hnext : later.nextId = w.device.nextId + 1) (hmakes : event.makes? = some r)
    (hnumber : r.number = w.device.nextId) : Faithful start ⟨later, event :: w.events⟩ := by
  refine h.next ?_ (by omega) fun other hother => ?_
  · rw [hcall]
    exact Simulator.calls_of_history hhistory
  · cases hmakes.symm.trans hother
    exact ⟨hnumber, hnext⟩

end Faithful

theorem faithful_probe (d : Simulator) : (probe (Watched.mk d [])).2.Faithful d := by
  have hstart : Faithful d ⟨d, []⟩ :=
    ⟨(List.append_nil _).symm, List.nodup_nil, fun r hr => by cases hr⟩
  refine Probe.probe_induction ?_ ?_ ?_ ?_ ?_ ?_ ?_ ?_ ?_ hstart
  · intro w hw
    show Faithful d ⟨(Device.createConfig w.device).2,
      .createConfig (Device.createConfig w.device).1 :: w.events⟩
    rcases Simulator.createConfig_cases w.device with ⟨e, heq⟩ | heq <;> rw [heq]
    · exact hw.failed rfl rfl (Nat.le_refl _) rfl
    · exact hw.made rfl rfl rfl rfl rfl
  · intro config w hw
    show Faithful d ⟨(Device.createContext config w.device).2,
      .createContext config (Device.createContext config w.device).1 :: w.events⟩
    rcases Simulator.createContext_cases w.device config with ⟨e, heq⟩ | heq <;> rw [heq]
    · exact hw.failed rfl rfl (Nat.le_refl _) rfl
    · exact hw.made rfl rfl rfl rfl rfl
  · intro context w hw
    show Faithful d ⟨(Device.queryFilters context w.device).2, _ :: w.events⟩
    rw [Simulator.queryFilters_snd]
    exact hw.noted rfl rfl (Nat.le_refl _) rfl
  · intro context w hw
    show Faithful d ⟨(Device.queryAlgorithms context w.device).2, _ :: w.events⟩
    rw [Simulator.queryAlgorithms_snd]
    exact hw.noted rfl rfl (Nat.le_refl _) rfl
  · intro context algorithm w hw
    show Faithful d ⟨(Device.createFilter context algorithm {} w.device).2,
      .createFilter context algorithm (Device.createFilter context algorithm {} w.device).1 ::
        w.events⟩
    rcases Simulator.createFilter_cases context w.device algorithm {} with
      ⟨e, next, hle, heq⟩ | heq <;> rw [heq]
    · exact hw.failed rfl rfl hle rfl
    · exact hw.made rfl rfl rfl rfl rfl
  · intro context filters w hw
    show Faithful d ⟨(Device.queryCaps context filters w.device).2, _ :: w.events⟩
    rw [Simulator.queryCaps_eq]
    exact hw.noted rfl rfl (Nat.le_refl _) rfl
  · exact fun buffer w hw => hw.noted rfl rfl (Nat.le_refl _) rfl
  · exact fun context w hw => hw.noted rfl rfl (Nat.le_refl _) rfl
  · exact fun config w hw => hw.noted rfl rfl (Nat.le_refl _) rfl

end Watched

theorem Probe.countP_makes_of_nodup {events : List Probe.Event} {event : Probe.Event}
    {r : Resource} (hnodup : (events.filterMap Event.makes?).Nodup) (hevent : event ∈ events)
    (hmakes : event.makes? = some r) : events.countP (·.makes? = some r) = 1 := by
  have hmem : r ∈ events.filterMap Event.makes? := List.mem_filterMap.2 ⟨event, hevent, hmakes⟩
  have hcount : (events.filterMap Event.makes?).count r = 1 := List.count_eq_one_of_mem hnodup hmem
  rw [List.count, List.countP_filterMap] at hcount
  rw [← hcount]
  refine List.countP_congr fun event _ => ?_
  cases event.makes? <;> simp

namespace Simulator

open Probe (Event Alive Reports Stops)

/-! ## Buffers -/

/-- The buffers are as they were, and their numbers are not given again. -/
structure Unbuffered (start later : Simulator) : Prop where
  buffers_eq : later.buffers = start.buffers
  nextId_le : start.nextId ≤ later.nextId

namespace Unbuffered

variable {start d later : Simulator}

theorem refl (d : Simulator) : d.Unbuffered d := ⟨rfl, Nat.le_refl _⟩

theorem trans (h : start.Unbuffered d) (hlater : d.Unbuffered later) : start.Unbuffered later :=
  ⟨hlater.buffers_eq.trans h.buffers_eq, Nat.le_trans h.nextId_le hlater.nextId_le⟩

end Unbuffered

variable {d : Simulator}

/-- The filter of an algorithm is the only buffer with its number, so it goes alone. -/
theorem unbuffered_algorithmReport (hfresh : ∀ entry ∈ d.buffers, entry.1.value < d.nextId)
    (context : ContextId) (algorithm : Algorithm) :
    d.Unbuffered (Probe.algorithmReport context algorithm d).2 := by
  unfold Probe.algorithmReport
  rcases createFilter_cases context d algorithm {} with ⟨e, next, hle, heq⟩ | heq <;> rw [heq]
  · exact ⟨rfl, hle⟩
  have hothers : ∀ entry ∈ d.buffers, (entry.1 != ⟨d.nextId⟩) = true := by
    intro entry hentry
    have hlt := hfresh entry hentry
    refine bne_iff_ne.2 fun hsame => ?_
    rw [hsame] at hlt
    exact Nat.lt_irrefl _ hlt
  have hdestroyed : ∀ made : Simulator, made.buffers = d.buffers ++ [(⟨d.nextId⟩, .filter {})] →
      made.nextId = d.nextId + 1 → d.Unbuffered (Device.destroyBuffer ⟨d.nextId⟩ made) := by
    intro made hbuffers hnext
    refine ⟨?_, ?_⟩
    · show made.buffers.filter (·.1 != ⟨d.nextId⟩) = d.buffers
      rw [hbuffers, List.filter_append, List.filter_eq_self.2 hothers,
        List.filter_cons_of_neg (by simp), List.filter_nil, List.append_nil]
    · show d.nextId ≤ made.nextId
      omega
  have hlater := congrArg Prod.snd (queryCaps_eq context
    ((d.bump.addBuffer ⟨d.nextId⟩ (.filter {})).record (.createFilter ⟨d.nextId⟩)) [⟨d.nextId⟩])
  dsimp only at hlater ⊢
  rcases hasked : Device.queryCaps context [⟨d.nextId⟩]
    ((d.bump.addBuffer ⟨d.nextId⟩ (.filter {})).record (.createFilter ⟨d.nextId⟩)) with
      ⟨e | caps, asked⟩ <;> rw [hasked] at hlater <;> subst hlater
  · exact hdestroyed _ rfl rfl
  · exact hdestroyed _ rfl rfl

theorem unbuffered_algorithmReports (context : ContextId) (algorithms : List Algorithm)
    {d : Simulator} (hfresh : ∀ entry ∈ d.buffers, entry.1.value < d.nextId) :
    d.Unbuffered (Probe.algorithmReports context algorithms d).2 := by
  induction algorithms generalizing d with
  | nil => exact .refl d
  | cons algorithm rest ih =>
    have hfirst := unbuffered_algorithmReport hfresh context algorithm
    refine hfirst.trans (ih ?_)
    rw [hfirst.buffers_eq]
    exact fun entry hentry => Nat.lt_of_lt_of_le (hfresh entry hentry) hfirst.nextId_le

theorem unbuffered_contextReport (hfresh : ∀ entry ∈ d.buffers, entry.1.value < d.nextId)
    (context : ContextId) : d.Unbuffered (Probe.contextReport context d).2 := by
  have hlisted : d.Unbuffered (Device.queryFilters context d).2 := by
    rw [queryFilters_snd]
    exact ⟨rfl, Nat.le_refl _⟩
  unfold Probe.contextReport
  rcases hlist : Device.queryFilters context d with ⟨e | filters, listed⟩ <;> rw [hlist] at hlisted
  · exact hlisted
  dsimp only
  split
  · exact hlisted
  have hqueried : listed.Unbuffered (Device.queryAlgorithms context listed).2 := by
    rw [queryAlgorithms_snd]
    exact ⟨rfl, Nat.le_refl _⟩
  rcases hquery : Device.queryAlgorithms context listed with ⟨e | algorithms, queried⟩ <;>
    rw [hquery] at hqueried
  · exact hlisted.trans hqueried
  have hready := hlisted.trans hqueried
  refine hready.trans (unbuffered_algorithmReports context algorithms ?_)
  rw [hready.buffers_eq]
  exact fun entry hentry => Nat.lt_of_lt_of_le (hfresh entry hentry) hready.nextId_le

theorem buffers_probe (hfresh : ∀ entry ∈ d.buffers, entry.1.value < d.nextId) :
    (probe d).2.buffers = d.buffers := by
  unfold probe
  rcases createConfig_cases d with ⟨e, heq⟩ | heq
  · rw [heq]
  rw [heq]
  dsimp only
  rcases createContext_cases (d.bump.record (.createConfig ⟨d.nextId⟩)) ⟨d.nextId⟩ with
    ⟨e, heq⟩ | heq
  · rw [heq]
    rfl
  rw [heq]
  let ready : Simulator := (d.bump.record (.createConfig ⟨d.nextId⟩)).bump.record
    (.createContext ⟨d.nextId + 1⟩)
  have hnext : ready.nextId = d.nextId + 2 := rfl
  have hreport : ready.Unbuffered (Probe.contextReport ⟨d.nextId + 1⟩ ready).2 := by
    refine unbuffered_contextReport (fun entry hentry => ?_) _
    have hlt := hfresh entry hentry
    omega
  exact hreport.buffers_eq

/-! ## The probe -/

/-- **Probing leaves no trace and reports exactly what worked.** A device that writes down what a
probe does sees the same calls as the log. Every object that is made is made once and destroyed
once, never before it was made; at any time there is at most one filter; and the buffers are the
same in the end. What is reported is what the calls say, and nothing is reported where a call failed
that a probe cannot do without. -/
theorem probe_leaves_no_trace (d : Simulator)
    (hfresh : ∀ entry ∈ d.buffers, entry.1.value < d.nextId) :
    ∃ events, probe (Watched.mk d []) = ((probe d).1, ⟨(probe d).2, events.reverse⟩) ∧
      (probe d).2.calls = d.calls ++ events.filterMap Event.call? ∧
      (∀ r, (∃ event ∈ events, event.makes? = some r) →
        events.countP (·.makes? = some r) = 1 ∧ events.countP (·.destroys? = some r) = 1) ∧
      (∀ before rest, events = before ++ rest →
        (∀ r, before.countP (·.destroys? = some r) ≤ before.countP (·.makes? = some r)) ∧
        ∀ a b, Alive before (.buffer a) → Alive before (.buffer b) → a = b) ∧
      (probe d).2.buffers = d.buffers ∧ (probe d).2.liveBuffers = d.liveBuffers ∧
      (∀ report, (probe d).1 = .ok report → ∃ context, Reports context report events) ∧
      ((∃ e, (probe d).1 = .error e) ↔ Stops events) := by
  obtain ⟨events, hcourse, hwatched⟩ := Probe.probe_watched d
  have hfaithful := Watched.faithful_probe d
  rw [hwatched] at hfaithful
  obtain ⟨hcalls, hnodup, -⟩ := hfaithful
  have hbuffers := buffers_probe hfresh
  refine ⟨events, hwatched, ?_, ?_, ?_, hbuffers, congrArg List.length hbuffers, ?_,
    hcourse.error_iff⟩
  · simpa using hcalls
  · rintro r ⟨event, hevent, hmakes⟩
    have honce : events.countP (·.makes? = some r) = 1 :=
      Probe.countP_makes_of_nodup (by simpa [List.nodup_reverse] using hnodup) hevent hmakes
    exact ⟨honce, (hcourse.stacked.countP_destroys r).trans honce⟩
  · rintro before rest rfl
    obtain ⟨middle, hbefore, -⟩ := hcourse.stacked.exists_middle
    exact ⟨hbefore.countP_destroys_le, fun a b => hbefore.eq_of_alive⟩
  · intro report hreport
    rw [hreport] at hcourse
    exact hcourse.reports

/-- A device with a buffer on it, an algorithm offered twice, and filters that cannot be asked
about: each of the three algorithms was tried, and none is reported. -/
theorem probe_leaves_no_trace_unanswered :
    let d : Simulator :=
      { algorithms := [.bob, .weave, .bob], failing := [.queryPipelineCaps]
        buffers := [(⟨5⟩, .filter {})] }
    (∀ entry ∈ d.buffers, entry.1.value < d.nextId) ∧
      (probe d).2.liveBuffers = 1 ∧
      (probe d).1 = .ok ⟨"mock", d.filters, [.bob, .weave, .bob], []⟩ ∧
      ∃ events : List Event, (probe d).2.calls = events.filterMap Event.call? ∧
        events.countP (·.destroys? = some (.buffer ⟨20⟩)) = 1 := by
  intro d
  have hfresh : ∀ entry ∈ d.buffers, entry.1.value < d.nextId := by decide
  obtain ⟨events, -, hcalls, honce, -, -, hlive, -⟩ := probe_leaves_no_trace d hfresh
  refine ⟨hfresh, hlive.trans rfl, rfl, events, hcalls, ?_⟩
  have hmade : Call.createFilter ⟨20⟩ ∈ events.filterMap Event.call? := by
    have hmem : Call.createFilter ⟨20⟩ ∈ (probe d).2.calls := by decide
    rw [hcalls] at hmem
    exact hmem
  obtain ⟨event, hevent, hcall⟩ := List.mem_filterMap.1 hmade
  refine (honce (.buffer ⟨20⟩) ⟨event, hevent, ?_⟩).2
  unfold Event.call? at hcall
  split at hcall <;> cases hcall
  rfl

end Simulator

end Deinterlace
