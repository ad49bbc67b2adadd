import Deinterlace.Proofs.Session.Depths
import Deinterlace.Proofs.Session.Feeding
import Deinterlace.Stream

/-!
# Driving a stream

`Session.drive` bounds the number of outputs that it takes after each frame. The bound is never
reached, and no error on the way is fatal, so driving a stream is feeding it, and its end
(`Session.drive_of_feeds`). What is counted on the way adds up: the account of the stream agrees
with what the session itself has counted, and every frame that was taken in has come out once or
twice (`Session.drive_accounts`).
-/
namespace Deinterlace

variable {σ : Type} [Device σ]

/-! ## Errors -/

theorem Rendering.isFatal_render {context : ContextId} {c : Chain} {w : Window}
    {pool : Option PoolId} {current : Frame} {d : σ} {e : Error}
    (h : (render context c w pool current d).1 = .error e) : e.isFatal = false := by
  unfold render at h
  dsimp only at h
  repeat' split at h
  all_goals
    cases h
    try rfl

namespace Session

theorem isFatal_upload {pool : Option PoolId} {frame : Frame} {d : σ} {e : Error}
    (h : (upload pool frame d).1 = .error e) : e.isFatal = false := by
  unfold upload at h
  repeat' split at h
  all_goals cases h
  all_goals rfl

/-- No error of an input is fatal. -/
theorem isFatal_input {s : Session σ} {frame : Option Frame} {e : Error}
    (h : (s.input frame).1 = .error e) : e.isFatal = false := by
  cases frame with
  | none => cases h
  | some frame =>
    unfold input at h
    dsimp only at h
    split at h
    · cases h
    · split at h
      · rename_i hupload
        cases h
        exact isFatal_upload hupload
      · cases h

/-- No error of an output is fatal. -/
theorem isFatal_take {s : Session σ} {e : Error} (h : s.take.1 = .error e) : e.isFatal = false := by
  rw [s.take_cases.1] at h
  rcases s.output_cases with ⟨-, heq⟩ | ⟨frame, -, -, -, heq⟩ |
    ⟨frame, picture, device, stats, -, -, -, hrender, heq⟩ <;> rw [heq] at h
  · cases h
  · cases h
  · cases picture with
    | ok picture => cases h
    | error e' =>
      cases h
      have hfirst := congrArg Prod.fst hrender
      exact Rendering.isFatal_render hfirst

theorem Drains.isFatal_eq {s later : Session σ} {results : List (Except Error Frame)}
    (h : s.Drains results later) {e : Error} (he : .error e ∈ results) : e.isFatal = false := by
  induction h with
  | done => cases he
  | @more s later result rest hgave _ ih =>
    rcases List.mem_cons.1 he with rfl | hrest
    · rcases htake : s.take.1 with e' | _ | picture <;> rw [htake] at hgave <;> cases hgave
      exact isFatal_take htake
    · exact ih hrest

theorem Feeds.isFatal_eq {s later : Session σ} {frames : List (Option Frame)}
    {inputs : List (Except Error Unit)} {outputs : List (Except Error Frame)}
    (h : s.Feeds frames inputs outputs later) {e : Error}
    (he : .error e ∈ inputs ∨ .error e ∈ outputs) : e.isFatal = false := by
  induction h with
  | done => rcases he with he | he <;> cases he
  | refused hinput _ ih =>
    rcases he with he | he
    · rcases List.mem_cons.1 he with heq | hrest
      · cases heq
        exact isFatal_input hinput
      · exact ih (.inl hrest)
    · exact ih (.inr he)
  | taken _ hdrains _ ih =>
    rcases he with he | he
    · rcases List.mem_cons.1 he with heq | hrest
      · cases heq
      · exact ih (.inl hrest)
    · rcases List.mem_append.1 he with hfirst | hrest
      · exact hdrains.isFatal_eq hfirst
      · exact ih (.inr hrest)

end Session

/-! ## What is counted -/

/-- How an output is counted that gave something. -/
def Stats.count (stats : Stats) (rendered : Bool) : Except Error Frame → Stats
  | .ok _ =>
    if rendered then { stats with rendered := stats.rendered + 1 }
    else { stats with passedThrough := stats.passedThrough + 1 }
  | .error _ => { stats with failed := stats.failed + 1 }

/-- How the outputs of a journal are counted. -/
def Stats.tally (stats : Stats) (ticks : List Tick) : Stats :=
  ticks.foldl (fun stats t => stats.count t.rendered t.result) stats

namespace Stats

theorem tally_concat (stats : Stats) (ticks : List Tick) (t : Tick) :
    stats.tally (ticks ++ [t]) = (stats.tally ticks).count t.rendered t.result := by
  simp [tally, List.foldl_append]

/-- Pictures are counted as rendered or as passed through, errors as failed. -/
theorem tally_sum (stats : Stats) (ticks : List Tick) :
    (stats.tally ticks).rendered + (stats.tally ticks).passedThrough =
        stats.rendered + stats.passedThrough + (ticks.map (·.result)).countP (·.isOk) ∧
      (stats.tally ticks).failed = stats.failed + (ticks.map (·.result)).countP (!·.isOk) := by
  induction ticks generalizing stats with
  | nil => exact ⟨rfl, rfl⟩
  | cons t ticks ih =>
    obtain ⟨hok, herror⟩ := ih (stats.count t.rendered t.result)
    have htally : stats.tally (t :: ticks) = (stats.count t.rendered t.result).tally ticks := rfl
    rw [htally, hok, herror]
    rcases hresult : t.result with e | picture
    · simp [hresult, count, Except.isOk, Except.toBool]
      omega
    · cases hrendered : t.rendered <;>
        simp [hresult, count, Except.isOk, Except.toBool] <;> omega

end Stats

namespace Session

theorem stats_configure (s : Session σ) : s.configure.stats = s.stats := by
  rw [configure_eq]
  rfl

theorem stats_input (s : Session σ) (frame : Option Frame) :
    (s.input frame).2.stats = s.stats := by
  rcases s.input_cases frame with ⟨-, heq⟩ | ⟨given, -, -, heq⟩ |
    ⟨given, uploaded, device, -, -, heq⟩ | ⟨given, e, device, -, -, heq⟩ <;>
    rw [heq] <;> exact s.stats_configure

theorem stats_take (s : Session σ) {result : Except Error Frame}
    (h : gave? s.take.1 = some result) :
    s.take.2.stats = s.stats.count (!s.passesThrough) result := by
  have hout := hasOutput_of_gave h
  obtain ⟨hsame, device, heq⟩ := s.take_cases
  rw [hsame] at h
  rw [heq]
  show s.output.2.stats = _
  obtain ⟨frame, hcur⟩ := Option.isSome_iff_exists.1 ((Bool.and_eq_true _ _).mp hout).1
  cases hpass : s.passesThrough with
  | true =>
    rw [output_of_passed hout hcur hpass] at h ⊢
    cases h
    rfl
  | false =>
    rcases hrender : Rendering.render s.context s.chain s.window s.pool frame s.device with
      ⟨e | picture, later⟩ <;>
      simp only [output, hout, hcur, hpass, hrender, Bool.not_true, Bool.false_eq_true,
        if_false] at h ⊢ <;>
      cases h <;> rfl

end Session

namespace Journal

/-- The session has counted what is in the journal. -/
def Tallied (start : Stats) (j : Journal σ) : Prop := j.session.stats = start.tally j.ticks

theorem Tallied.next {start : Stats} {j : Journal σ} (h : j.Tallied start) {call : Session.Call σ}
    (hcall : call = .take ∨ ∃ frame, call = .input frame) : (j.next call).Tallied start := by
  rcases hcall with rfl | ⟨frame, rfl⟩
  · cases hgave : Session.gave? j.session.take.1 with
    | none =>
      have hnone := Session.gave?_eq_none.1 hgave
      rw [j.session.take_cases.1] at hnone
      rwa [next_take_of_none (Session.hasOutput_of_none hnone)]
    | some result =>
      have hstats := j.session.stats_take hgave
      rw [j.session.take_cases.1] at hgave
      obtain ⟨frame, -, hticks⟩ := ticks_next_take hgave
      show j.session.take.2.stats = start.tally (j.next .take).ticks
      rw [hstats, hticks, Stats.tally_concat, ← h]
      rfl
  · show (j.session.input frame).2.stats = start.tally (j.ticks ++ [])
    rw [j.session.stats_input, List.append_nil]
    exact h

theorem Tallied.follow (s : Session σ) {calls : List (Session.Call σ)}
    (hcalls : ∀ c ∈ calls, c = .take ∨ ∃ frame, c = .input frame) :
    (s.follow calls).Tallied s.stats :=
  List.foldlRecOn (motive := fun j : Journal σ => j.Tallied s.stats) calls Journal.next rfl
    fun _ hj call hcall => hj.next (hcalls call hcall)

/-- A frame whose turn it has been has come out once or twice. -/
theorem Turn.length_bounds {accepted : List Frame} {place : Nat} {ticks : List Tick}
    (h : Turn accepted place ticks) : 1 ≤ ticks.length ∧ ticks.length ≤ 2 := by
  rcases h.shape with ⟨only, rfl, -⟩ | ⟨first, second, rfl, -⟩ <;> simp

theorem Account.length_bounds {w : Window} {accepted : List Frame} {ticks : List Tick}
    {passed : Nat} {turns : List (List Tick)} {begun : List Tick}
    (h : Account w accepted ticks passed turns begun) (hended : w.ended = true)
    (hdone : w.hasOutput = false) :
    accepted.length ≤ ticks.length ∧ ticks.length ≤ 2 * accepted.length := by
  have hpassed := h.stands.passed_eq_length hended hdone
  have hsecond : w.secondField = false := by
    cases hs : w.secondField with
    | false => rfl
    | true =>
      have hlt := h.stands.second_lt hs
      omega
  have hbounds : ∀ turns : List (List Tick), (∀ turn ∈ turns, 1 ≤ turn.length ∧ turn.length ≤ 2) →
      turns.length ≤ turns.flatten.length ∧ turns.flatten.length ≤ 2 * turns.length := by
    intro turns hturns
    induction turns with
    | nil => decide
    | cons turn turns ih =>
      have hfirst := hturns turn List.mem_cons_self
      have hrest := ih fun other hother => hturns other (List.mem_cons_of_mem _ hother)
      simp only [List.flatten_cons, List.length_append, List.length_cons]
      omega
  have hturns := hbounds turns fun turn hturn => by
    obtain ⟨n, hn⟩ := List.getElem?_of_mem hturn
    exact (h.turn n turn hn).length_bounds
  rw [h.ticks_eq, h.none_begun hsecond, List.append_nil, ← hpassed, ← h.length_eq]
  exact hturns

end Journal

/-! ## The driver -/

namespace Passage

variable {α : Type} (emit : Frame → α)

/-- The account after some more frames have been given, with what has come of the inputs and of the
outputs. -/
def after (p : Passage σ α) (later : Session σ) (frames : List (Option Frame))
    (inputs : List (Except Error Unit)) (outputs : List (Except Error Frame)) : Passage σ α where
  session := later
  summary :=
    { inputs := p.summary.inputs + frames.countP (·.isSome)
      outputs := p.summary.outputs + outputs.countP (·.isOk)
      droppedInputs := p.summary.droppedInputs + inputs.countP (!·.isOk)
      failedOutputs := p.summary.failedOutputs + outputs.countP (!·.isOk) }
  emitted := p.emitted ++ ((outputs.filterMap (·.toOption)).map emit).toArray
  failure := p.failure

omit [Device σ] in
theorem after_after (p : Passage σ α) (s later : Session σ) (frames frames' : List (Option Frame))
    (inputs inputs' : List (Except Error Unit)) (outputs outputs' : List (Except Error Frame)) :
    (p.after emit s frames inputs outputs).after emit later frames' inputs' outputs' =
      p.after emit later (frames ++ frames') (inputs ++ inputs') (outputs ++ outputs') := by
  simp [after, Nat.add_assoc]

theorem takeOutputs_of_none {p : Passage σ α} (limit : Nat) (h : p.session.take.1 = .ok none) :
    takeOutputs emit (limit + 1) p = p.after emit p.session.take.2 [] [] [] := by
  have hidle := Session.hasOutput_of_none (p.session.take_cases.1 ▸ h)
  simp [takeOutputs, after, Session.output_of_idle hidle, Session.take_of_idle hidle]

theorem takeOutputs_of_gave {p : Passage σ α} (limit : Nat) {result : Except Error Frame}
    (h : Session.gave? p.session.take.1 = some result) :
    takeOutputs emit (limit + 1) p =
      takeOutputs emit limit (p.after emit p.session.take.2 [] [] [result]) := by
  rcases hout : p.session.output with ⟨e | _ | picture, later⟩
  · have htake : p.session.take = (.error e, later) := by simp only [Session.take, hout]
    have hfatal : e.isFatal = false := Session.isFatal_take (by rw [htake])
    rw [htake] at h ⊢
    cases h
    simp [takeOutputs, hout, hfatal, after, Except.isOk, Except.toBool, Except.toOption]
  · have htake : p.session.take = (.ok none, later) := by simp only [Session.take, hout]
    rw [htake] at h
    cases h
  · have htake : p.session.take = (.ok (some picture), later.dropFrame picture) := by
      simp only [Session.take, hout]
    rw [htake] at h ⊢
    cases h
    simp [takeOutputs, hout, after, Except.isOk, Except.toBool, Except.toOption]

/-- The bound on the number of outputs is not reached. -/
theorem takeOutputs_of_drains {s later : Session σ} {outputs : List (Except Error Frame)}
    (h : s.Drains outputs later) {p : Passage σ α} (hp : p.session = s) {limit : Nat}
    (hlimit : outputs.length < limit) :
    takeOutputs emit limit p = p.after emit later [] [] outputs := by
  induction h generalizing p limit with
  | @done s hnone =>
    subst hp
    obtain ⟨limit, rfl⟩ := Nat.exists_eq_succ_of_ne_zero (Nat.ne_of_gt hlimit)
    exact takeOutputs_of_none emit limit hnone
  | @more s later result rest hgave _ ih =>
    subst hp
    obtain ⟨limit, rfl⟩ := Nat.exists_eq_succ_of_ne_zero (Nat.ne_of_gt (Nat.zero_lt_of_lt hlimit))
    rw [takeOutputs_of_gave emit limit hgave,
      ih (p := p.after emit p.session.take.2 [] [] [result]) rfl (Nat.lt_of_succ_lt_succ hlimit),
      after_after]
    rfl

theorem step_of_refused {p : Passage σ α} (hfailure : p.failure = none) {frame : Option Frame}
    {e : Error} (h : (p.session.input frame).1 = .error e) :
    p.step emit frame = p.after emit (p.session.input frame).2 [frame] [.error e] [] := by
  have hfatal := Session.isFatal_input h
  rcases hinput : p.session.input frame with ⟨result, later⟩
  rw [hinput] at h
  cases h
  cases frame <;>
    simp [step, hfailure, hinput, hfatal, countInput, after, Except.isOk, Except.toBool]

theorem step_of_taken {p : Passage σ α} (hfailure : p.failure = none) {frame : Option Frame}
    (h : (p.session.input frame).1 = .ok ()) {first : List (Except Error Frame)}
    {drained : Session σ} (hdrains : (p.session.input frame).2.Drains first drained) :
    p.step emit frame = p.after emit drained [frame] [.ok ()] first := by
  have hlimit := Nat.lt_succ_of_le hdrains.length_le
  rcases hinput : p.session.input frame with ⟨result, later⟩
  rw [hinput] at h hdrains hlimit
  cases h
  simp only [step, hfailure, Option.isSome_none, Bool.false_eq_true, if_false, hinput]
  rw [takeOutputs_of_drains emit hdrains rfl hlimit]
  cases frame <;> simp [countInput, after, hfailure, Except.isOk, Except.toBool]

/-- **Driving a stream is feeding it.** -/
theorem foldl_step_of_feeds {s later : Session σ} {frames : List (Option Frame)}
    {inputs : List (Except Error Unit)} {outputs : List (Except Error Frame)}
    (h : s.Feeds frames inputs outputs later) {p : Passage σ α} (hp : p.session = s)
    (hfailure : p.failure = none) :
    frames.foldl (step emit) p = p.after emit later frames inputs outputs := by
  induction h generalizing p with
  | done =>
    subst hp
    simp [after]
  | @refused s later frame frames e inputs outputs hinput _ ih =>
    subst hp
    rw [List.foldl_cons, step_of_refused emit hfailure hinput,
      ih (p := p.after emit (p.session.input frame).2 [frame] [.error e] []) rfl hfailure,
      after_after]
    rfl
  | @taken s drained later frame frames inputs first rest hinput hdrains _ ih =>
    subst hp
    rw [List.foldl_cons, step_of_taken emit hfailure hinput hdrains,
      ih (p := p.after emit drained [frame] [.ok ()] first) rfl hfailure, after_after]
    rfl

end Passage

/-- Nothing is pending once the stream has ended and all outputs have been had. -/
theorem Window.pending_eq_zero {w : Window} (hended : w.ended = true)
    (hdone : w.hasOutput = false) : w.pending = 0 := by
  have hcur : w.current? = none := by
    simpa [hasOutput, needsInput, hended] using hdone
  have hlength := List.getElem?_eq_none_iff.1 hcur
  unfold pending
  omega

namespace Session

/-- Driving a stream ends as feeding it and its end does. -/
theorem drive_of_feeds {α : Type} {s later : Session σ} {frames : List Frame}
    {inputs : List (Except Error Unit)} {outputs : List (Except Error Frame)}
    (h : s.Feeds (frames.map some ++ [none]) inputs outputs later) (emit : Frame → α) :
    s.drive frames emit =
      { session := later
        summary :=
          { inputs := frames.length
            outputs := outputs.countP (·.isOk)
            droppedInputs := inputs.countP (!·.isOk)
            failedOutputs := outputs.countP (!·.isOk) }
        emitted := ((outputs.filterMap (·.toOption)).map emit).toArray } := by
  have hdrive := Passage.foldl_step_of_feeds emit h (p := { session := s }) rfl rfl
  rw [drive, hdrive]
  simp [Passage.after, List.countP_map, Function.comp_def]

/-- Every frame that was taken in has come out once or twice. -/
theorem Feeds.length_bounds {s later : Session σ} {frames : List Frame}
    {inputs : List (Except Error Unit)} {outputs : List (Except Error Frame)}
    (h : s.Feeds (frames.map some ++ [none]) inputs outputs later)
    (hstand : s.window.StandsAt [] 0) :
    inputs.countP (!·.isOk) ≤ frames.length ∧
      frames.length - inputs.countP (!·.isOk) ≤ outputs.length ∧
      outputs.length ≤ 2 * (frames.length - inputs.countP (!·.isOk)) := by
  obtain ⟨-, hended, hdone⟩ := h.of_end
  obtain ⟨calls, hcalls, -, rfl, hticks, haccepted⟩ := h.follow (j := { session := s }) rfl
  have hstart : Journal.Account s.window [] [] 0 [] [] :=
    ⟨hstand, rfl, rfl, by simp, fun _ => rfl,
      fun hs => absurd (hstand.second_lt hs) (Nat.lt_irrefl 0)⟩
  obtain ⟨passed, turns, begun, haccount⟩ := List.foldlRecOn
    (motive := fun j : Journal σ => j.Accounted) calls Journal.next
    (b := { session := s }) ⟨0, [], [], hstart⟩ fun j hj c hc => by
      rcases hcalls c hc with rfl | ⟨frame, -, rfl⟩
      · exact hj.next rfl
      · exact hj.next rfl
  have hbounds := haccount.length_bounds hended hdone
  have hlength : (calls.foldl Journal.next { session := s }).ticks.length = outputs.length := by
    simpa using congrArg List.length hticks
  simp only [List.length_nil, List.filterMap_append, List.filterMap_map, List.length_append,
    Function.comp_def, id_eq, List.filterMap_some] at haccepted
  simp at haccepted
  omega

/-- The session has counted the outputs. -/
theorem Feeds.stats_eq {s later : Session σ} {frames : List (Option Frame)}
    {inputs : List (Except Error Unit)} {outputs : List (Except Error Frame)}
    (h : s.Feeds frames inputs outputs later) :
    later.stats.rendered + later.stats.passedThrough =
        s.stats.rendered + s.stats.passedThrough + outputs.countP (·.isOk) ∧
      later.stats.failed = s.stats.failed + outputs.countP (!·.isOk) := by
  obtain ⟨calls, hcalls, -, rfl, hticks, -⟩ := h.follow (j := { session := s }) rfl
  have htallied : (s.follow calls).Tallied s.stats := .follow s fun c hc => by
    rcases hcalls c hc with htake | ⟨frame, -, hinput⟩
    · exact .inl htake
    · exact .inr ⟨frame, hinput⟩
  have hresults : (s.follow calls).ticks.map (·.result) = outputs := hticks
  rw [← hresults]
  show (s.follow calls).session.stats.rendered + (s.follow calls).session.stats.passedThrough = _ ∧
    (s.follow calls).session.stats.failed = _
  rw [htallied]
  exact s.stats.tally_sum _

/-- **The account of a stream is right, whatever fails.** A stream of any frames is fed to a session
that has been opened, on any device. That comes to an end, and no error on the way is fatal. All the
pictures have been shown to the caller. The account has counted the frames, those that were dropped,
the pictures and the errors, and the session has counted the same pictures and errors. Nothing is
left pending; and in a session without frames every frame that was not dropped has come out once or
twice. -/
theorem drive_accounts {options : Options} {device : σ} {opened s : Session σ}
    (hopen : open? options device = .ok opened) (calls : List (Call σ))
    (hs : calls.foldl perform opened = s) {α : Type} (frames : List Frame) (emit : Frame → α)
    {p : Passage σ α} (hp : s.drive frames emit = p) :
    ∃ inputs outputs, s.Feeds (frames.map some ++ [none]) inputs outputs p.session ∧
      p.failure = none ∧
      (∀ e, .error e ∈ inputs ∨ .error e ∈ outputs → e.isFatal = false) ∧
      p.emitted.toList = (outputs.filterMap (·.toOption)).map emit ∧
      p.summary =
        { inputs := frames.length
          outputs := outputs.countP (·.isOk)
          droppedInputs := inputs.countP (!·.isOk)
          failedOutputs := outputs.countP (!·.isOk) } ∧
      p.session.stats.rendered + p.session.stats.passedThrough =
        s.stats.rendered + s.stats.passedThrough + p.summary.outputs ∧
      p.session.stats.failed = s.stats.failed + p.summary.failedOutputs ∧
      p.session.window.pending = 0 ∧
      (s.window.frames = [] →
        p.summary.droppedInputs ≤ p.summary.inputs ∧
        p.summary.inputs - p.summary.droppedInputs ≤
          p.summary.outputs + p.summary.failedOutputs ∧
        p.summary.outputs + p.summary.failedOutputs ≤
          2 * (p.summary.inputs - p.summary.droppedInputs)) := by
  obtain ⟨inputs, outputs, later, h⟩ := exists_feeds s (frames.map some ++ [none])
  obtain ⟨-, hended, hdone⟩ := h.of_end
  rw [drive_of_feeds h emit] at hp
  subst hp
  refine ⟨inputs, outputs, h, rfl, fun e he => h.isFatal_eq he, rfl, rfl, ?_, ?_,
    Window.pending_eq_zero hended hdone, fun hempty => ?_⟩
  · exact h.stats_eq.1
  · exact h.stats_eq.2
  · have hstand : s.window.StandsAt [] 0 := by
      subst hs
      exact standsAt_of_empty hopen calls hempty
    have hbounds := h.length_bounds hstand
    have hlength : outputs.countP (·.isOk) + outputs.countP (!·.isOk) = outputs.length := by
      rw [List.length_eq_countP_add_countP (·.isOk)]
      simp
    dsimp only
    rw [hlength]
    exact hbounds

/-- Two interlaced frames in memory, and one on the device. -/
def crowdedFrames : List Frame :=
  let image := { Frame.ofImage (.filled .nv12 2 2 0) with fields := ⟨3⟩ }
  [image, image, { Frame.decoded ⟨1⟩ 2 2 with fields := ⟨3⟩ }]

/-- A pool of a single surface, which the first frame takes: the second frame is dropped, both
pictures of the first one fail, and those of the third one do not. -/
theorem drive_accounts_of_crowdedFrames :
    ∃ s : Session Simulator, open? {} { poolCapacity := 1 } = .ok s ∧
      ∃ p : Passage Simulator SurfaceId,
        (s.reconfigure (.hardware 2 2 2 2)).2.drive crowdedFrames (·.surfaceId) = p ∧
        p.summary = ⟨3, 2, 1, 2⟩ ∧ p.failure = none ∧
        p.session.stats.failed = p.summary.failedOutputs ∧
        p.session.window.pending = 0 ∧
        p.summary.outputs + p.summary.failedOutputs ≤
          2 * (p.summary.inputs - p.summary.droppedInputs) := by
  obtain ⟨s, hs⟩ : ∃ s, open? {} ({ poolCapacity := 1 } : Simulator) = .ok s := ⟨_, rfl⟩
  have hdrive := drive_accounts hs [.reconfigure (.hardware 2 2 2 2)] rfl crowdedFrames
    (·.surfaceId) rfl
  cases hs
  obtain ⟨inputs, outputs, -, hfailure, -, -, -, -, hfailed, hpending, hbounds⟩ := hdrive
  exact ⟨_, rfl, _, rfl, rfl, hfailure, hfailed.trans (Nat.zero_add _), hpending,
    (hbounds rfl).2.2⟩

end Session

end Deinterlace
