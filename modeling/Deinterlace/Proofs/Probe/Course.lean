import Deinterlace.Probe
import Deinterlace.Proofs.Simulator.Lifetimes

/-!
# The course of a probe

`Watched σ` is a device that passes every call on to a device with states `σ` and writes down the
calls of a probe, each with its outcome. What is written down is a `Probe.Course`, whatever fails on
the way (`Probe.probe_watched`). In a course objects are made and destroyed as on a stack, with one
filter on it at most (`Probe.Course.stacked`). It tells what is reported (`Probe.Course.reports`)
and when nothing is (`Probe.Course.error_iff`).
-/
namespace Deinterlace

open Simulator (Resource)

namespace Probe

/-- A call and its outcome. Calls that no probe makes are all the same. -/
inductive Event
  | createConfig (result : Except DeviceError ConfigId)
  | createContext (config : ConfigId) (result : Except DeviceError ContextId)
  | queryFilters (context : ContextId) (result : Except DeviceError (List FilterType))
  | queryAlgorithms (context : ContextId) (result : Except DeviceError (List Algorithm))
  | createFilter (context : ContextId) (algorithm : Algorithm)
      (result : Except DeviceError BufferId)
  | queryCaps (context : ContextId) (filters : List BufferId)
      (result : Except DeviceError PipelineCaps)
  | destroyBuffer (buffer : BufferId)
  | destroyContext (context : ContextId)
  | destroyConfig (config : ConfigId)
  | other

namespace Event

def makes? : Event → Option Resource
  | createConfig (.ok config) => some (.config config)
  | createContext _ (.ok context) => some (.context context)
  | createFilter _ _ (.ok buffer) => some (.buffer buffer)
  | _ => none

def destroys? : Event → Option Resource
  | destroyBuffer buffer => some (.buffer buffer)
  | destroyContext context => some (.context context)
  | destroyConfig config => some (.config config)
  | _ => none

/-- Whether a call concerns a filter: that it is made, asked about or destroyed. -/
def isTrial : Event → Bool
  | createFilter .. | queryCaps .. | destroyBuffer _ => true
  | _ => false

end Event

/-- The object has been made and not destroyed. -/
def Alive (events : List Event) (r : Resource) : Prop :=
  (∃ event ∈ events, event.makes? = some r) ∧ ∀ event ∈ events, event.destroys? ≠ some r

end Probe

/-- A device that writes down what a probe does. -/
structure Watched (σ : Type) where
  device : σ
  /-- Latest first. -/
  events : List Probe.Event := []

variable {σ : Type}

namespace Watched

open Probe (Event)

variable {α : Type}

/-- A call that has an outcome. -/
def asking (event : Except DeviceError α → Event) (call : σ → Outcome σ α) (w : Watched σ) :
    Outcome (Watched σ) α :=
  ((call w.device).1, ⟨(call w.device).2, event (call w.device).1 :: w.events⟩)

/-- A call that always succeeds. -/
def doing (event : Event) (change : σ → σ) (w : Watched σ) : Watched σ :=
  ⟨change w.device, event :: w.events⟩

/-- A call with an outcome that no probe makes. -/
def passing (call : σ → Outcome σ α) : Watched σ → Outcome (Watched σ) α :=
  asking (fun _ => .other) call

variable [Device σ]

instance : Device (Watched σ) where
  name := Device.name σ
  createConfig := asking .createConfig Device.createConfig
  destroyConfig config := doing (.destroyConfig config) (Device.destroyConfig config)
  createContext config := asking (.createContext config) (Device.createContext config)
  destroyContext context := doing (.destroyContext context) (Device.destroyContext context)
  queryFilters context := asking (.queryFilters context) (Device.queryFilters context)
  queryAlgorithms context := asking (.queryAlgorithms context) (Device.queryAlgorithms context)
  createFilter context algorithm flags :=
    asking (.createFilter context algorithm) (Device.createFilter context algorithm flags)
  updateFlags buffer flags := passing (Device.updateFlags buffer flags)
  queryCaps context filters :=
    asking (.queryCaps context filters) (Device.queryCaps context filters)
  beginPicture context target := passing (Device.beginPicture context target)
  createRequest context request := passing (Device.createRequest context request)
  renderPicture context buffers := passing (Device.renderPicture context buffers)
  endPicture context := passing (Device.endPicture context)
  destroyBuffer buffer := doing (.destroyBuffer buffer) (Device.destroyBuffer buffer)
  createPool desc := passing (Device.createPool desc)
  closePool pool := doing .other (Device.closePool pool)
  allocate pool := passing (Device.allocate pool)
  upload pool target frame := passing (Device.upload pool target frame)
  retain lease := doing .other (Device.retain lease)
  release lease := doing .other (Device.release lease)
  close := doing .other Device.close

/-- The device after `events`, in order. -/
def after (w : Watched σ) (device : σ) (events : List Event) : Watched σ :=
  ⟨device, events.reverse ++ w.events⟩

omit [Device σ] in
theorem device_after (w : Watched σ) (device : σ) (events : List Event) :
    (w.after device events).device = device := rfl

omit [Device σ] in
theorem after_after (w : Watched σ) (d later : σ) (xs ys : List Event) :
    (w.after d xs).after later ys = w.after later (xs ++ ys) := by
  simp [after]

end Watched

namespace Probe

open Watched (after)

/-- What every call of a probe preserves is preserved by the whole of it. -/
theorem probe_induction [Device σ] {motive : σ → Prop}
    (createConfig : ∀ d, motive d → motive (Device.createConfig d).2)
    (createContext : ∀ config d, motive d → motive (Device.createContext config d).2)
    (queryFilters : ∀ context d, motive d → motive (Device.queryFilters context d).2)
    (queryAlgorithms : ∀ context d, motive d → motive (Device.queryAlgorithms context d).2)
    (createFilter : ∀ context algorithm d, motive d →
      motive (Device.createFilter context algorithm {} d).2)
    (queryCaps : ∀ context filters d, motive d → motive (Device.queryCaps context filters d).2)
    (destroyBuffer : ∀ buffer d, motive d → motive (Device.destroyBuffer buffer d))
    (destroyContext : ∀ context d, motive d → motive (Device.destroyContext context d))
    (destroyConfig : ∀ config d, motive d → motive (Device.destroyConfig config d))
    {d : σ} (h : motive d) : motive (probe d).2 := by
  have htrial : ∀ context algorithm d, motive d →
      motive (algorithmReport context algorithm d).2 := by
    intro context algorithm d hd
    have hmade := createFilter context algorithm d hd
    unfold algorithmReport
    rcases hcall : Device.createFilter context algorithm {} d with ⟨e | buffer, made⟩ <;>
      rw [hcall] at hmade
    · exact hmade
    have hasked := queryCaps context [buffer] made hmade
    dsimp only
    rcases hcall : Device.queryCaps context [buffer] made with ⟨e | caps, asked⟩ <;>
      rw [hcall] at hasked
    · exact destroyBuffer buffer asked hasked
    · exact destroyBuffer buffer asked hasked
  have htrials : ∀ context algorithms d, motive d →
      motive (algorithmReports context algorithms d).2 := by
    intro context algorithms
    induction algorithms with
    | nil => exact fun d hd => hd
    | cons algorithm rest ih => exact fun d hd => ih _ (htrial context algorithm d hd)
  have hsurvey : ∀ context d, motive d → motive (contextReport context d).2 := by
    intro context d hd
    have hlisted := queryFilters context d hd
    unfold contextReport
    rcases hcall : Device.queryFilters context d with ⟨e | filters, listed⟩ <;>
      rw [hcall] at hlisted
    · exact hlisted
    dsimp only
    split
    · exact hlisted
    have hqueried := queryAlgorithms context listed hlisted
    rcases hcall : Device.queryAlgorithms context listed with ⟨e | algorithms, queried⟩ <;>
      rw [hcall] at hqueried
    · exact hqueried
    · exact htrials context algorithms queried hqueried
  have hconfigured := createConfig d h
  unfold probe
  rcases hcall : Device.createConfig d with ⟨e | config, configured⟩ <;> rw [hcall] at hconfigured
  · exact hconfigured
  have hready := createContext config configured hconfigured
  dsimp only
  rcases hcall : Device.createContext config configured with ⟨e | context, ready⟩ <;>
    rw [hcall] at hready
  · exact destroyConfig config ready hready
  · exact destroyConfig config _ (destroyContext context _ (hsurvey context ready hready))

/-! ## What becomes of an algorithm -/

/-- What becomes of one algorithm: no filter can be made of it, its filter cannot be asked about, or
its needs are known. -/
inductive Trial
  | refused (algorithm : Algorithm) (e : DeviceError)
  | unanswered (algorithm : Algorithm) (buffer : BufferId) (e : DeviceError)
  | answered (algorithm : Algorithm) (buffer : BufferId) (caps : PipelineCaps)

namespace Trial

def algorithm : Trial → Algorithm
  | refused algorithm _ => algorithm
  | unanswered algorithm _ _ => algorithm
  | answered algorithm _ _ => algorithm

/-- What is reported of an algorithm that worked. -/
def report? : Trial → Option AlgorithmReport
  | answered algorithm _ caps => some ⟨algorithm, caps⟩
  | _ => none

/-- The calls made for an algorithm. Its filter is asked about alone. -/
def events (context : ContextId) : Trial → List Event
  | refused algorithm e => [.createFilter context algorithm (.error e)]
  | unanswered algorithm buffer e =>
    [.createFilter context algorithm (.ok buffer), .queryCaps context [buffer] (.error e),
      .destroyBuffer buffer]
  | answered algorithm buffer caps =>
    [.createFilter context algorithm (.ok buffer), .queryCaps context [buffer] (.ok caps),
      .destroyBuffer buffer]

end Trial

/-- The calls on a context, and what is reported. -/
inductive Survey (name : String) (context : ContextId) :
    Except Error DeviceReport → List Event → Prop
  | unlisted (e : DeviceError) :
      Survey name context (.error (.openingFailed e)) [.queryFilters context (.error e)]
  | plain (filters : List FilterType) (h : FilterType.deinterlacing ∉ filters) :
      Survey name context (.ok ⟨name, filters, [], []⟩) [.queryFilters context (.ok filters)]
  | unanswered (filters : List FilterType) (h : FilterType.deinterlacing ∈ filters)
      (e : DeviceError) :
      Survey name context (.error (.queryFailed e))
        [.queryFilters context (.ok filters), .queryAlgorithms context (.error e)]
  | tried (filters : List FilterType) (h : FilterType.deinterlacing ∈ filters)
      (trials : List Trial) :
      Survey name context
        (.ok ⟨name, filters, trials.map Trial.algorithm, trials.filterMap Trial.report?⟩)
        (.queryFilters context (.ok filters) ::
          .queryAlgorithms context (.ok (trials.map Trial.algorithm)) ::
          trials.flatMap (Trial.events context))

/-- The calls of a probe, and what is reported. -/
inductive Course (name : String) : Except Error DeviceReport → List Event → Prop
  | unconfigured (e : DeviceError) :
      Course name (.error (.openingFailed e)) [.createConfig (.error e)]
  | noContext (config : ConfigId) (e : DeviceError) :
      Course name (.error (.openingFailed e))
        [.createConfig (.ok config), .createContext config (.error e), .destroyConfig config]
  | surveyed (config : ConfigId) (context : ContextId) {result : Except Error DeviceReport}
      {events : List Event} (h : Survey name context result events) :
      Course name result (.createConfig (.ok config) :: .createContext config (.ok context) ::
        events ++ [.destroyContext context, .destroyConfig config])

section Watching

variable [Device σ]

theorem algorithmReport_watched (context : ContextId) (algorithm : Algorithm) (w : Watched σ) :
    ∃ trial : Trial, trial.algorithm = algorithm ∧
      (algorithmReport context algorithm w.device).1 = trial.report? ∧
      algorithmReport context algorithm w =
        (trial.report?, w.after (algorithmReport context algorithm w.device).2
          (trial.events context)) := by
  have hmake : Device.createFilter context algorithm {} w =
      Watched.asking (.createFilter context algorithm)
        (Device.createFilter context algorithm {}) w := rfl
  unfold algorithmReport
  rw [hmake, Watched.asking]
  rcases Device.createFilter context algorithm {} w.device with ⟨e | buffer, made⟩
  · exact ⟨.refused algorithm e, rfl, rfl, rfl⟩
  · have hask : ∀ events, Device.queryCaps context [buffer] (Watched.mk made events) =
        Watched.asking (.queryCaps context [buffer]) (Device.queryCaps context [buffer])
          ⟨made, events⟩ := fun _ => rfl
    dsimp only
    rw [hask, Watched.asking]
    rcases Device.queryCaps context [buffer] made with ⟨e | caps, asked⟩
    · exact ⟨.unanswered algorithm buffer e, rfl, rfl, rfl⟩
    · exact ⟨.answered algorithm buffer caps, rfl, rfl, rfl⟩

theorem algorithmReports_watched (context : ContextId) (algorithms : List Algorithm)
    (w : Watched σ) :
    ∃ trials : List Trial, trials.map Trial.algorithm = algorithms ∧
      (algorithmReports context algorithms w.device).1 = trials.filterMap Trial.report? ∧
      algorithmReports context algorithms w = (trials.filterMap Trial.report?,
        w.after (algorithmReports context algorithms w.device).2
          (trials.flatMap (Trial.events context))) := by
  induction algorithms generalizing w with
  | nil => exact ⟨[], rfl, rfl, rfl⟩
  | cons algorithm rest ih =>
    obtain ⟨trial, halgorithm, hreport, hwatched⟩ := algorithmReport_watched context algorithm w
    obtain ⟨trials, halgorithms, hreports, hrest⟩ :=
      ih (w.after (algorithmReport context algorithm w.device).2 (trial.events context))
    rw [Watched.device_after] at hreports hrest
    have hlist : (trial :: trials).filterMap Trial.report? =
        trial.report?.toList ++ trials.filterMap Trial.report? := by
      rw [List.filterMap_cons]
      cases trial.report? <;> rfl
    refine ⟨trial :: trials, by rw [List.map_cons, halgorithm, halgorithms], ?_, ?_⟩
    · simp only [algorithmReports]
      rw [hlist, hreport, hreports]
    · simp only [algorithmReports, hwatched, hrest, Watched.after_after]
      rw [hlist, List.flatMap_cons]

theorem contextReport_watched (context : ContextId) (w : Watched σ) :
    ∃ events, Survey (Device.name σ) context (contextReport context w.device).1 events ∧
      contextReport context w = ((contextReport context w.device).1,
        w.after (contextReport context w.device).2 events) := by
  have hlist : Device.queryFilters context w =
      Watched.asking (.queryFilters context) (Device.queryFilters context) w := rfl
  unfold contextReport
  rw [hlist, Watched.asking]
  rcases Device.queryFilters context w.device with ⟨e | filters, listed⟩
  · exact ⟨_, .unlisted e, rfl⟩
  dsimp only
  by_cases hoffered : FilterType.deinterlacing ∈ filters
  · have hcontains : ¬(!filters.contains .deinterlacing) = true := by simpa using hoffered
    have hquery : ∀ events, Device.queryAlgorithms context (Watched.mk listed events) =
        Watched.asking (.queryAlgorithms context) (Device.queryAlgorithms context)
          ⟨listed, events⟩ := fun _ => rfl
    rw [if_neg hcontains, if_neg hcontains, hquery, Watched.asking]
    rcases Device.queryAlgorithms context listed with ⟨e | algorithms, queried⟩
    · exact ⟨_, .unanswered filters hoffered e, rfl⟩
    dsimp only
    have hafter : Watched.mk queried (.queryAlgorithms context (.ok algorithms) ::
        .queryFilters context (.ok filters) :: w.events) = w.after queried
          [.queryFilters context (.ok filters), .queryAlgorithms context (.ok algorithms)] := rfl
    obtain ⟨trials, rfl, hreports, htried⟩ := algorithmReports_watched context algorithms
      (w.after queried
        [.queryFilters context (.ok filters), .queryAlgorithms context (.ok algorithms)])
    rw [Watched.device_after] at hreports htried
    rw [hafter, htried, hreports]
    exact ⟨_, .tried filters hoffered trials, by rw [Watched.after_after]; rfl⟩
  · have hcontains : (!filters.contains .deinterlacing) = true := by simpa using hoffered
    rw [if_pos hcontains, if_pos hcontains]
    exact ⟨_, .plain filters hoffered, rfl⟩

/-- **What is written down of a probe is a course**, and writing it down makes no difference. -/
theorem probe_watched (d : σ) :
    ∃ events, Course (Device.name σ) (probe d).1 events ∧
      probe (Watched.mk d []) = ((probe d).1, ⟨(probe d).2, events.reverse⟩) := by
  have hconfigure : Device.createConfig (Watched.mk d []) =
      Watched.asking .createConfig Device.createConfig ⟨d, []⟩ := rfl
  unfold probe
  rw [hconfigure, Watched.asking]
  rcases Device.createConfig d with ⟨e | config, configured⟩
  · exact ⟨_, .unconfigured e, rfl⟩
  have hcontext : ∀ events, Device.createContext config (Watched.mk configured events) =
      Watched.asking (.createContext config) (Device.createContext config)
        ⟨configured, events⟩ := fun _ => rfl
  dsimp only
  rw [hcontext, Watched.asking]
  rcases Device.createContext config configured with ⟨e | context, ready⟩
  · exact ⟨_, .noContext config e, rfl⟩
  dsimp only
  obtain ⟨events, hsurvey, hwatched⟩ := contextReport_watched context
    (Watched.mk ready [.createContext config (.ok context), .createConfig (.ok config)])
  rw [hwatched]
  refine ⟨_, .surveyed config context hsurvey, ?_⟩
  have hlog : (Event.createConfig (.ok config) :: .createContext config (.ok context) :: events ++
      [Event.destroyContext context, .destroyConfig config]).reverse =
        Event.destroyConfig config :: Event.destroyContext context :: (events.reverse ++
          [.createContext config (.ok context), .createConfig (.ok config)]) := by
    simp
  rw [hlog]
  rfl

end Watching

/-! ## Objects on a stack -/

/-- A call that makes an object puts it on the stack, one that destroys an object takes it off the
top, and any other leaves the stack. -/
inductive Step : List Resource → Event → List Resource → Prop
  | make {alive : List Resource} {event : Event} {r : Resource} (hmakes : event.makes? = some r)
      (hdestroys : event.destroys? = none) : Step alive event (r :: alive)
  | destroy {alive : List Resource} {event : Event} {r : Resource} (hmakes : event.makes? = none)
      (hdestroys : event.destroys? = some r) : Step (r :: alive) event alive
  | look {alive : List Resource} {event : Event} (hmakes : event.makes? = none)
      (hdestroys : event.destroys? = none) : Step alive event alive

/-- There is one filter at most. -/
def OneFilter (alive : List Resource) : Prop := (alive.filterMap Resource.buffer?).length ≤ 1

/-- Calls that use a stack with one filter on it at most, all along the way. -/
inductive Stacked : List Resource → List Event → List Resource → Prop
  | nil {alive : List Resource} (h : OneFilter alive) : Stacked alive [] alive
  | cons {alive middle later : List Resource} {event : Event} {events : List Event}
      (h : OneFilter alive) (hstep : Step alive event middle)
      (hrest : Stacked middle events later) : Stacked alive (event :: events) later

namespace Stacked

variable {alive middle later : List Resource} {events more : List Event}

theorem oneFilter (h : Stacked alive events later) : OneFilter later := by
  induction h with
  | nil h => exact h
  | cons h hstep hrest ih => exact ih

theorem append (h : Stacked alive events middle) (hmore : Stacked middle more later) :
    Stacked alive (events ++ more) later := by
  induction h with
  | nil => exact hmore
  | cons h hstep hrest ih => exact .cons h hstep (ih hmore)

/-- The first of the calls use the stack the same way. -/
theorem exists_middle (h : Stacked alive (events ++ more) later) :
    ∃ middle, Stacked alive events middle ∧ Stacked middle more later := by
  induction events generalizing alive with
  | nil =>
    refine ⟨alive, .nil ?_, h⟩
    cases h with
    | nil h => exact h
    | cons h hstep hrest => exact h
  | cons event events ih =>
    cases h with
    | cons h hstep hrest =>
      obtain ⟨middle, hfirst, hlast⟩ := ih hrest
      exact ⟨middle, .cons h hstep hfirst, hlast⟩

/-- What is on the stack has been made once more than it has been destroyed. -/
theorem count_add (h : Stacked alive events later) (r : Resource) :
    later.count r + events.countP (·.destroys? = some r) =
      alive.count r + events.countP (·.makes? = some r) := by
  induction h with
  | nil => rfl
  | @cons alive middle later event events h hstep hrest ih =>
    have hmiddle : middle.count r + (if event.destroys? = some r then 1 else 0) =
        alive.count r + (if event.makes? = some r then 1 else 0) := by
      cases hstep with
      | @make _ _ made hmakes hdestroys =>
        simp [hmakes, hdestroys, List.count_cons]
      | @destroy _ _ gone hmakes hdestroys =>
        simp [hmakes, hdestroys, List.count_cons]
      | look hmakes hdestroys => simp [hmakes, hdestroys]
    simp only [List.countP_cons, decide_eq_true_eq]
    omega

/-- Calls after which the stack is as before destroy everything that they make. -/
theorem countP_destroys (h : Stacked alive events alive) (r : Resource) :
    events.countP (·.destroys? = some r) = events.countP (·.makes? = some r) := by
  have hcount := h.count_add r
  omega

/-- Nothing is destroyed more often than it has been made. -/
theorem countP_destroys_le (h : Stacked [] events later) (r : Resource) :
    events.countP (·.destroys? = some r) ≤ events.countP (·.makes? = some r) := by
  have hcount := h.count_add r
  rw [List.count_nil] at hcount
  omega

/-- What has been made and not destroyed is on the stack. -/
theorem mem_of_alive (h : Stacked [] events later) {r : Resource} (halive : Alive events r) :
    r ∈ later := by
  obtain ⟨⟨event, hmem, hmakes⟩, hnot⟩ := halive
  have hmade : 0 < events.countP (·.makes? = some r) :=
    List.countP_pos_iff.2 ⟨event, hmem, by simpa using hmakes⟩
  have hgone : events.countP (·.destroys? = some r) = 0 :=
    List.countP_eq_zero.2 fun entry hentry => by simpa using hnot entry hentry
  have hcount := h.count_add r
  rw [List.count_nil] at hcount
  exact List.count_pos_iff.1 (by omega)

theorem eq_of_alive (h : Stacked [] events later) {a b : BufferId}
    (ha : Alive events (.buffer a)) (hb : Alive events (.buffer b)) : a = b := by
  have hmem : ∀ id, Alive events (.buffer id) → id ∈ later.filterMap Resource.buffer? :=
    fun id hid => List.mem_filterMap.2 ⟨_, h.mem_of_alive hid, rfl⟩
  have hone : (later.filterMap Resource.buffer?).length ≤ 1 := h.oneFilter
  have ha' := hmem a ha
  have hb' := hmem b hb
  rcases hbuffers : later.filterMap Resource.buffer? with _ | ⟨first, _ | ⟨second, rest⟩⟩
  · rw [hbuffers] at ha'
    cases ha'
  · rw [hbuffers] at ha' hb'
    exact (List.mem_singleton.1 ha').trans (List.mem_singleton.1 hb').symm
  · rw [hbuffers] at hone
    simp at hone

end Stacked

/-! ## What a course does -/

variable {name : String} {context : ContextId} {result : Except Error DeviceReport}
  {events : List Event}

/-- Trying an algorithm leaves no filter behind. -/
theorem Trial.stacked (trial : Trial) {alive : List Resource}
    (h : alive.filterMap Resource.buffer? = []) : Stacked alive (trial.events context) alive := by
  have hnone : OneFilter alive := by simp [OneFilter, h]
  have hone : ∀ buffer, OneFilter (.buffer buffer :: alive) := by
    intro buffer
    simp [OneFilter, h, Resource.buffer?]
  cases trial with
  | refused algorithm e => exact .cons hnone (.look rfl rfl) (.nil hnone)
  | unanswered algorithm buffer e =>
    exact .cons hnone (.make rfl rfl) (.cons (hone buffer) (.look rfl rfl)
      (.cons (hone buffer) (.destroy rfl rfl) (.nil hnone)))
  | answered algorithm buffer caps =>
    exact .cons hnone (.make rfl rfl) (.cons (hone buffer) (.look rfl rfl)
      (.cons (hone buffer) (.destroy rfl rfl) (.nil hnone)))

theorem stacked_trials (trials : List Trial) {alive : List Resource}
    (h : alive.filterMap Resource.buffer? = []) :
    Stacked alive (trials.flatMap (Trial.events context)) alive := by
  induction trials with
  | nil => exact .nil (by simp [OneFilter, h])
  | cons trial rest ih =>
    rw [List.flatMap_cons]
    exact (trial.stacked h).append ih

theorem Survey.stacked (h : Survey name context result events) {alive : List Resource}
    (halive : alive.filterMap Resource.buffer? = []) : Stacked alive events alive := by
  have hnone : OneFilter alive := by simp [OneFilter, halive]
  cases h with
  | unlisted e => exact .cons hnone (.look rfl rfl) (.nil hnone)
  | plain filters h => exact .cons hnone (.look rfl rfl) (.nil hnone)
  | unanswered filters h e =>
    exact .cons hnone (.look rfl rfl) (.cons hnone (.look rfl rfl) (.nil hnone))
  | tried filters h trials =>
    exact .cons hnone (.look rfl rfl) (.cons hnone (.look rfl rfl) (stacked_trials trials halive))

namespace Course

/-- **A probe leaves nothing behind.** -/
theorem stacked (h : Course name result events) : Stacked [] events [] := by
  have hnil : OneFilter [] := Nat.zero_le _
  cases h with
  | unconfigured e => exact .cons hnil (.look rfl rfl) (.nil hnil)
  | noContext config e =>
    have hconfig : OneFilter [.config config] := Nat.zero_le _
    exact .cons hnil (.make rfl rfl) (.cons hconfig (.look rfl rfl)
      (.cons hconfig (.destroy rfl rfl) (.nil hnil)))
  | surveyed config context hsurvey =>
    have hconfig : OneFilter [.config config] := Nat.zero_le _
    have hcontext : OneFilter [.context context, .config config] := Nat.zero_le _
    have hclosing : Stacked [.context context, .config config]
        [.destroyContext context, .destroyConfig config] [] :=
      .cons hcontext (.destroy rfl rfl) (.cons hconfig (.destroy rfl rfl) (.nil hnil))
    exact .cons hnil (.make rfl rfl) (.cons hconfig (.make rfl rfl)
      ((hsurvey.stacked rfl).append hclosing))

end Course

/-! ## What a course tells -/

/-- The calls for an algorithm are about its filter. -/
theorem isTrial_of_mem {trials : List Trial} {event : Event}
    (h : event ∈ trials.flatMap (Trial.events context)) : event.isTrial = true := by
  obtain ⟨trial, -, hmem⟩ := List.mem_flatMap.1 h
  cases trial <;> simp only [Trial.events, List.mem_cons, List.not_mem_nil, or_false] at hmem
  · rw [hmem]
    rfl
  · rcases hmem with rfl | rfl | rfl <;> rfl
  · rcases hmem with rfl | rfl | rfl <;> rfl

/-- What a report says of the calls on the context: what was listed, and that each algorithm was
tried in turn. The needs of those that worked are reported. -/
structure Reports (context : ContextId) (report : DeviceReport) (events : List Event) : Prop where
  listed : .queryFilters context (.ok report.filters) ∈ events
  queried : .deinterlacing ∈ report.filters →
    .queryAlgorithms context (.ok report.algorithms) ∈ events
  plain : .deinterlacing ∉ report.filters → report.algorithms = [] ∧ report.pipelines = []
  tried : ∃ trials : List Trial, trials.map Trial.algorithm = report.algorithms ∧
    events.filter Event.isTrial = trials.flatMap (Trial.events context) ∧
    report.pipelines = trials.filterMap Trial.report?

theorem Survey.reports {report : DeviceReport} (h : Survey name context (.ok report) events) :
    Reports context report events := by
  cases h with
  | plain filters h =>
    exact ⟨by simp, fun hoffered => absurd hoffered h, fun _ => ⟨rfl, rfl⟩, [], rfl, rfl, rfl⟩
  | tried filters h trials =>
    refine ⟨by simp, fun _ => by simp, fun hplain => absurd h hplain, trials, rfl, ?_, rfl⟩
    rw [List.filter_cons_of_neg (by simp [Event.isTrial]),
      List.filter_cons_of_neg (by simp [Event.isTrial])]
    exact List.filter_eq_self.2 fun event hevent => isTrial_of_mem hevent

/-- A call that a probe cannot do without has failed. -/
inductive Stops (events : List Event) : Prop
  | config (e : DeviceError) (h : .createConfig (.error e) ∈ events)
  | context (config : ConfigId) (e : DeviceError) (h : .createContext config (.error e) ∈ events)
  | filters (context : ContextId) (e : DeviceError) (h : .queryFilters context (.error e) ∈ events)
  | algorithms (context : ContextId) (filters : List FilterType) (e : DeviceError)
      (hlisted : .queryFilters context (.ok filters) ∈ events)
      (hoffered : .deinterlacing ∈ filters)
      (h : .queryAlgorithms context (.error e) ∈ events)

namespace Event

/-- Whether a call has failed that a probe cannot do without. -/
def isStop : Event → Bool
  | createConfig (.error _) | createContext _ (.error _) | queryFilters _ (.error _)
  | queryAlgorithms _ (.error _) => true
  | _ => false

theorem isStop_of_isTrial {event : Event} (h : event.isTrial = true) : event.isStop = false := by
  cases event <;> first | rfl | cases h

end Event

theorem Survey.no_stop {report : DeviceReport} (h : Survey name context (.ok report) events) :
    ∀ event ∈ events, event.isStop = false := by
  intro event hevent
  cases h with
  | plain filters h =>
    rw [List.mem_singleton.1 hevent]
    rfl
  | tried filters h trials =>
    rcases List.mem_cons.1 hevent with rfl | hevent
    · rfl
    rcases List.mem_cons.1 hevent with rfl | hevent
    · rfl
    exact Event.isStop_of_isTrial (isTrial_of_mem hevent)

theorem Survey.stops {e : Error} (h : Survey name context (.error e) events) : Stops events := by
  cases h with
  | unlisted e => exact .filters context e (by simp)
  | unanswered filters h e => exact .algorithms context filters e (by simp) h (by simp)

theorem Stops.mono {more : List Event} (h : Stops events) (hsub : events ⊆ more) : Stops more := by
  cases h with
  | config e h => exact .config e (hsub h)
  | context config e h => exact .context config e (hsub h)
  | filters context e h => exact .filters context e (hsub h)
  | algorithms context filters e hlisted hoffered h =>
    exact .algorithms context filters e (hsub hlisted) hoffered (hsub h)

theorem Stops.exists_isStop (h : Stops events) : ∃ event ∈ events, event.isStop = true := by
  cases h with
  | config e h => exact ⟨_, h, rfl⟩
  | context config e h => exact ⟨_, h, rfl⟩
  | filters context e h => exact ⟨_, h, rfl⟩
  | algorithms context filters e hlisted hoffered h => exact ⟨_, h, rfl⟩

namespace Course

theorem reports {report : DeviceReport} (h : Course name (.ok report) events) :
    ∃ context, Reports context report events := by
  cases h with
  | @surveyed config context _ events hsurvey =>
    obtain ⟨hlisted, hqueried, hplain, trials, halgorithms, hevents, hpipelines⟩ := hsurvey.reports
    refine ⟨context, by simp [hlisted], fun hoffered => by simp [hqueried hoffered], hplain, trials,
      halgorithms, ?_, hpipelines⟩
    simpa [List.filter_append, Event.isTrial] using hevents

/-- **A probe fails where a call fails that it cannot do without.** -/
theorem error_iff (h : Course name result events) : (∃ e, result = .error e) ↔ Stops events := by
  constructor
  · rintro ⟨e, rfl⟩
    cases h with
    | unconfigured e => exact .config e (by simp)
    | noContext config e => exact .context config e (by simp)
    | @surveyed config context _ events hsurvey =>
      refine hsurvey.stops.mono fun event hevent => ?_
      simp [hevent]
  · intro hstops
    cases result with
    | error e => exact ⟨e, rfl⟩
    | ok report =>
      obtain ⟨event, hevent, hstop⟩ := hstops.exists_isStop
      cases h with
      | @surveyed config context _ events hsurvey =>
        have hall : event.isStop = false := by
          simp only [List.cons_append, List.mem_cons, List.mem_append, List.not_mem_nil,
            or_false] at hevent
          rcases hevent with rfl | rfl | hevent | rfl | rfl
          · rfl
          · rfl
          · exact hsurvey.no_stop event hevent
          · rfl
          · rfl
        cases hstop.symm.trans hall

end Course

end Probe

end Deinterlace
