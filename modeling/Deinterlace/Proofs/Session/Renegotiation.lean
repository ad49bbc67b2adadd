import Deinterlace.Proofs.Device.Recorded
import Deinterlace.Proofs.Session.Afresh
import Deinterlace.Proofs.Session.Depths
import Deinterlace.Proofs.Session.Feeding
import Deinterlace.Proofs.Simulator.Indifferent

/-!
# Negotiating at every input

A session negotiates at an input only if something has changed since the last time. One that
forgets the last negotiation before every input (`Session.performAnew`) negotiates each time, and
cannot be told from it: with a device that keeps giving the same answers to capability queries, and
takes no notice of them otherwise (`Device.Indifferent`), both have the same windows, chains and
answers after every call. All that is saved is the queries (`Session.performAnew_calls`).

The outcome of a negotiation is in three places: what was negotiated about, and the caps, are with
the chain, and the window has been set up. `Session.Told` says that they fit together and that the
caps are what the device answers.
-/
namespace Deinterlace

variable {σ : Type} [Device σ]

/-- Whether an operation asks what a chain of filters needs. -/
def Device.Operation.isQuery : Device.Operation → Bool
  | .queryCaps .. => true
  | _ => false

namespace Session

/-! ## Negotiating anew -/

/-- The session before a call that negotiates from scratch: the last negotiation is forgotten. -/
def anew (s : Session σ) : Call σ → Session σ
  | .input _ => { s with chain := s.chain.invalidate }
  | _ => s

/-- The session after a call that negotiates from scratch. -/
def performAnew (s : Session σ) (call : Call σ) : Session σ := (s.anew call).perform call

/-- What the caller of a session that negotiates at every input is told, call by call. -/
def answersAnew (s : Session σ) : List (Call σ) → List Answer
  | [] => []
  | call :: calls => (s.anew call).answer call :: (s.performAnew call).answersAnew calls

/-- The device answers capability queries as `answer` says; errors are all the same. -/
def Replies (s : Session σ) (answer : List BufferId → Option PipelineCaps) : Prop :=
  ∀ filters, (Device.queryCaps s.context filters s.device).1.toOption = answer filters

/-- The window and the chain agree, and what the device was told to need is what it answers. -/
structure Told (s : Session σ) (answer : List BufferId → Option PipelineCaps) : Prop where
  agrees : s.Agrees
  stands : ∃ pushed passed, s.window.StandsAt pushed passed
  caps_eq : ∀ key, s.chain.last = some key → key.filters ≠ [] → s.chain.caps = answer key.filters

variable {s t : Session σ} {answer : List BufferId → Option PipelineCaps} {same : σ → σ → Prop}

theorem told_of_open {options : Options} {device : σ} (h : open? options device = .ok s) :
    s.Told answer where
  agrees := agrees_of_open h
  stands := standsAt_calls h []
  caps_eq key hkey := by
    obtain ⟨config, d₁, context, d₂, available, d₃, descriptors, later, -, -, -, -, rfl⟩ :=
      eq_of_open h
    cases hkey

/-- What a negotiation finds out is what the device answers. -/
theorem Told.caps_configure (h : s.Told answer) (hreplies : s.Replies answer) :
    ∀ key, s.configure.chain.last = some key → key.filters ≠ [] →
      s.configure.chain.caps = answer key.filters := by
  intro key hkey hfilters
  rw [configure_eq] at hkey ⊢
  rcases Chain.configure_cases s.chain s.context s.deinterlacing s.window s.device with
    ⟨-, heq⟩ | ⟨-, later, hdeclined, heq⟩ | ⟨-, -, caps, later, hquery, heq⟩ <;>
    rw [heq] at hkey ⊢
  · exact h.caps_eq key hkey hfilters
  · cases hkey
    rcases hdeclined with ⟨hnone, -⟩ | ⟨e, hquery⟩
    · exact absurd hnone hfilters
    · rw [← hreplies, hquery]
      rfl
  · cases hkey
    rw [← hreplies, hquery]
    rfl

theorem Told.perform (h : s.Told answer) (hreplies : s.Replies answer) (call : Call σ) :
    (s.perform call).Told answer where
  agrees := h.agrees.perform call
  stands := standsAt_perform h.stands call
  caps_eq := by
    rcases s.chain_perform_cases call with ⟨frame, -, heq⟩ | ⟨params, -, heq⟩ | ⟨-, -, heq⟩ <;>
      rw [heq]
    · exact h.caps_configure hreplies
    · exact nofun
    · exact h.caps_eq

/-- A negotiation from scratch, on a device that cannot be told from the session's, comes to the
same as the session's own. -/
theorem Told.configure_anew (hsame : Device.Indifferent same) (h : s.Told answer)
    (hreplies : s.Replies answer) (hst : s.Beside same t) :
    s.configure.Beside same { t with chain := t.chain.invalidate }.configure := by
  obtain ⟨e, rfl, hde⟩ := hst.exists_on
  have hagrees : (s.on e).Agrees := h.agrees.congr rfl rfl rfl rfl h.agrees.held
  obtain ⟨pushed, passed, hstand⟩ := h.stands
  have hinformed : (s.on e).Informed := by
    intro key hkey hfilters
    have hanswer := (hsame.bisimulation.queryCaps s.context key.filters hde).answer_eq
    show s.chain.caps = (Device.queryCaps s.context key.filters e).1.toOption
    rw [hanswer, hreplies]
    exact h.caps_eq key hkey hfilters
  have hconfigure : s.configure.Beside same (s.on e).configure :=
    hsame.bisimulation.configure hst
  rcases configure_invalidate hagrees hstand.cursor_le_depth hinformed with heq | ⟨filters, heq⟩ <;>
    rw [heq]
  · exact hconfigure
  · obtain ⟨e', heq', hde'⟩ := hconfigure.exists_on
    rw [heq']
    exact ⟨rfl, hsame.asked _ filters hde'⟩

/-- **A call that negotiates from scratch makes no difference.** -/
theorem Told.perform_anew (hsame : Device.Indifferent same) (h : s.Told answer)
    (hreplies : s.Replies answer) (hst : s.Beside same t) {call : Call σ}
    (hcall : call.Beside same call) :
    (t.anew call).answer call = s.answer call ∧
      (s.perform call).Beside same (t.performAnew call) := by
  by_cases hinput : ∃ frame, call = .input frame
  · obtain ⟨frame, rfl⟩ := hinput
    obtain ⟨hanswer, hlater⟩ := hsame.bisimulation.input_of_configure
      (t := t.anew (.input frame)) (h.configure_anew hsame hreplies hst) frame
    exact ⟨congrArg Answer.accepted hanswer, hlater⟩
  · have hanew : t.anew call = t := by
      cases call with
      | input frame => exact absurd ⟨frame, rfl⟩ hinput
      | _ => rfl
    rw [performAnew, hanew]
    exact hsame.bisimulation.perform hst hcall

/-- Sessions that negotiate at every input are told the same and stay the same. -/
theorem Told.run_anew (hsame : Device.Indifferent same) (h : s.Told answer)
    (hst : s.Beside same t) {calls : List (Call σ)} (hcalls : ∀ call ∈ calls, call.Beside same call)
    (hreplies : ∀ before, before <+: calls → (before.foldl Session.perform s).Replies answer) :
    t.answersAnew calls = s.answers calls ∧
      (calls.foldl Session.perform s).Beside same (calls.foldl performAnew t) := by
  induction calls generalizing s t with
  | nil => exact ⟨rfl, hst⟩
  | cons call calls ih =>
    have hnow : s.Replies answer := hreplies [] List.nil_prefix
    obtain ⟨hanswer, hnext⟩ := h.perform_anew hsame hnow hst (hcalls call List.mem_cons_self)
    obtain ⟨hanswers, hlater⟩ := ih (h.perform hnow call) hnext
      (fun c hc => hcalls c (List.mem_cons_of_mem _ hc))
      (fun before hbefore => hreplies (call :: before) (List.cons_prefix_cons.2 ⟨rfl, hbefore⟩))
    exact ⟨by rw [answersAnew, answers, hanswer, hanswers], hlater⟩

/-! ## When the device is asked -/

/-- How deinterlacing was switched at the latest input since the session was opened or set up for a
stream, if there has been one. -/
def latestSwitch (latest : Option Bool) (s : Session σ) : List (Call σ) → Option Bool
  | [] => latest
  | .input frame :: calls => latestSwitch (some s.deinterlacing) (s.perform (.input frame)) calls
  | .reconfigure params :: calls => latestSwitch none (s.perform (.reconfigure params)) calls
  | call :: calls => latestSwitch latest (s.perform call) calls

/-- The last negotiation was made at the latest input. -/
theorem latestSwitch_eq (h : s.Agrees) (calls : List (Call σ)) :
    latestSwitch (s.chain.last.map (·.deinterlace)) s calls =
      (calls.foldl perform s).chain.last.map (·.deinterlace) := by
  induction calls generalizing s with
  | nil => rfl
  | cons call calls ih =>
    rw [List.foldl_cons, ← ih (h.perform call)]
    rcases s.chain_perform_cases call with ⟨frame, rfl, heq⟩ | ⟨params, rfl, heq⟩ |
      ⟨hinput, hreconfigure, heq⟩ <;> rw [heq]
    · rw [(configure_agrees h).2]
      rfl
    · rfl
    · cases call with
      | input frame => exact absurd rfl (hinput frame)
      | reconfigure params => exact absurd rfl (hreconfigure params)
      | _ => rfl

omit [Device σ] in
/-- A negotiation asks the device if it is switched on, has filters to ask about and has not been
made for the same switch before. -/
theorem Agrees.asks_iff (h : s.Agrees) : s.chain.Asks s.deinterlacing ↔
    s.deinterlacing = true ∧ s.chain.descriptors ≠ [] ∧
      s.chain.last.map (·.deinterlace) ≠ some s.deinterlacing := by
  have hlast : s.chain.last = some (s.chain.keyFor s.deinterlacing) ↔
      s.chain.last.map (·.deinterlace) = some s.deinterlacing := by
    constructor
    · intro heq
      rw [heq]
      rfl
    · intro heq
      obtain ⟨key, hkey, hon⟩ := Option.map_eq_some_iff.1 heq
      obtain ⟨hfilters, -⟩ := h.settled key hkey
      rw [hkey, Chain.keyFor, ← hon, ← hfilters]
  have hfilters : s.chain.filtersFor s.deinterlacing ≠ [] ↔
      s.deinterlacing = true ∧ s.chain.descriptors ≠ [] := by
    cases hon : s.deinterlacing with
    | true => simp [Chain.filtersFor_true]
    | false => simp [Chain.filtersFor_false h.descriptors]
  rw [Chain.Asks, Ne, hlast, hfilters]
  tauto

/-- **The last negotiation is kept, and nobody notices.** Take any run of a session on a device that
answers every capability query about the same filters alike, and takes no notice of queries
otherwise. If the last negotiation is forgotten before every input, the caller is told the same, and
after every call the session is the same, but for the state of the device, which cannot be told from
what it would have been. As it is, an input asks the device what the filters need exactly if
deinterlacing is on, there are filters, and it is the first input since the session was opened or
set up for a stream, or deinterlacing was off at the input before; and it asks once. -/
theorem performAnew_calls {options : Options} {device : σ} {opened : Session σ}
    (hopen : open? options device = .ok opened) (hsame : Device.Indifferent same)
    {calls : List (Call σ)} (hcalls : ∀ call ∈ calls, call.Beside same call)
    (hreplies : ∀ before, before <+: calls → (before.foldl perform opened).Replies answer) :
    opened.answersAnew calls = opened.answers calls ∧
    (∀ before, before <+: calls → ∃ d, same (before.foldl perform opened).device d ∧
      before.foldl performAnew opened = (before.foldl perform opened).on d) ∧
    ∀ before frame after s, calls = before ++ .input frame :: after →
      before.foldl perform opened = s →
      (s.operations (.input frame)).filter (·.isQuery) =
        if s.deinterlacing = true ∧ opened.chain.descriptors ≠ [] ∧
          latestSwitch none opened before ≠ some s.deinterlacing
        then [.queryCaps s.context (opened.chain.descriptors.map (·.buffer))] else [] := by
  have hnew : opened.chain.last = none := by
    obtain ⟨config, d₁, context, d₂, available, d₃, descriptors, later, -, -, -, -, rfl⟩ :=
      eq_of_open hopen
    rfl
  have hbeside : opened.Beside same opened := ⟨rfl, hsame.refl _⟩
  refine ⟨?_, ?_, ?_⟩
  · exact ((told_of_open hopen).run_anew hsame hbeside hcalls hreplies).1
  · intro before hbefore
    obtain ⟨-, heq, hrelated⟩ := (told_of_open hopen).run_anew hsame hbeside
      (fun call hcall => hcalls call (hbefore.subset hcall))
      (fun earlier hearlier => hreplies earlier (hearlier.trans hbefore))
    exact ⟨_, hrelated, heq⟩
  · rintro before frame after s rfl rfl
    have hagrees := agrees_calls (agrees_of_open hopen) before
    have hlatest := latestSwitch_eq (agrees_of_open hopen) before
    rw [hnew, Option.map_none] at hlatest
    obtain ⟨-, hbuilt⟩ := opened.built_calls before
    rw [filter_operations_input _ _ (fun _ => rfl) (.inl ⟨fun _ => rfl, fun _ _ _ => rfl⟩),
      hlatest, ← hbuilt, Chain.questions]
    by_cases hasks : (before.foldl perform opened).chain.Asks
        (before.foldl perform opened).deinterlacing
    · have hwhen := hagrees.asks_iff.1 hasks
      rw [if_pos hasks, if_pos hwhen, hwhen.1, Chain.filtersFor_true]
      rfl
    · rw [if_neg hasks, if_neg (mt hagrees.asks_iff.2 hasks)]
      rfl

theorem replies_of_caps {s : Session Simulator} {caps : PipelineCaps}
    (hcaps : s.device.caps = caps) (hfails : s.device.fails .queryPipelineCaps = false) :
    s.Replies fun _ => some caps := by
  intro filters
  rw [Simulator.queryCaps_eq, hfails, hcaps]
  rfl

/-- Deinterlacing is switched off and on again in the middle of a stream. -/
def toggled : List (Call Simulator) :=
  [.reconfigure (.hardware 720 576 720 576), .input (some (Frame.decoded ⟨1⟩ 720 576)),
    .input (some (Frame.decoded ⟨2⟩ 720 576)), .output, .switch false,
    .input (some (Frame.decoded ⟨3⟩ 720 576)), .take, .switch true, .seek,
    .input (some (Frame.decoded ⟨4⟩ 720 576)), .input none, .output]

/-- Of five inputs two ask the device. -/
theorem performAnew_toggled : ∃ s, open? {} (({} : Simulator).withReferences 1 1) = .ok s ∧
    s.answersAnew toggled = s.answers toggled ∧
    (s.allOperations toggled).countP (·.isQuery) = 2 := by
  obtain ⟨s, hs⟩ : ∃ s, open? {} (({} : Simulator).withReferences 1 1) = .ok s := ⟨_, rfl⟩
  have hcalls : ∀ call ∈ toggled, call.Beside Simulator.Alike call := by
    have hnone : ∀ call ∈ toggled, ∀ change, call ≠ .alter change := by simp [toggled]
    exact fun call hcall => Call.beside_self (hnone call hcall)
  have hreplies : ∀ before, before <+: toggled → (before.foldl perform s).Replies fun _ =>
      some ⟨[.bt601, .bt709], [.bt601, .bt709], 1, 1⟩ := by
    have hsteady : ∀ n ≤ toggled.length,
        ((toggled.take n).foldl perform s).device.caps =
            ⟨[.bt601, .bt709], [.bt601, .bt709], 1, 1⟩ ∧
          ((toggled.take n).foldl perform s).device.fails .queryPipelineCaps = false := by
      cases hs
      decide
    intro before hbefore
    obtain ⟨hcaps, hfails⟩ := hsteady before.length hbefore.length_le
    rw [← List.prefix_iff_eq_take.1 hbefore] at hcaps hfails
    exact replies_of_caps hcaps hfails
  have hanew := performAnew_calls hs Simulator.indifferent hcalls hreplies
  cases hs
  exact ⟨_, rfl, hanew.1, by decide⟩

end Session

end Deinterlace
