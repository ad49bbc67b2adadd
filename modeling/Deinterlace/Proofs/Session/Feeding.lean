import Deinterlace.Proofs.Session.Agreement
import Deinterlace.Proofs.Session.Draining

/-!
# Feeding a stream

How a stream goes through a session, said without a bound on the number of outputs: outputs are
taken until there is none (`Session.Drains`), and frames are given one after the other, each one
that is taken in being followed by its outputs (`Session.Feeds`). Every list of frames can be fed to
every session, whatever fails on the way (`Session.exists_feeds`), for an output that gives
something, be it an error, leaves less to output. Feeding is a run of calls
(`Session.Feeds.follow`), so that what holds of all journals holds of it.
-/
namespace Deinterlace

variable {σ : Type} [Device σ]

namespace Session

/-- Outputs are taken, and given back at once, until there is none. -/
inductive Drains : Session σ → List (Except Error Frame) → Session σ → Prop
  | done {s : Session σ} (h : s.take.1 = .ok none) : Drains s [] s.take.2
  | more {s later : Session σ} {result : Except Error Frame} {rest : List (Except Error Frame)}
      (h : gave? s.take.1 = some result) (hrest : Drains s.take.2 rest later) :
      Drains s (result :: rest) later

/-- Frames, or the end of the stream, are given one after the other. The outputs are drained after
each one that is taken in. -/
inductive Feeds : Session σ → List (Option Frame) → List (Except Error Unit) →
    List (Except Error Frame) → Session σ → Prop
  | done (s : Session σ) : Feeds s [] [] [] s
  | refused {s later : Session σ} {frame : Option Frame} {frames : List (Option Frame)} {e : Error}
      {inputs : List (Except Error Unit)} {outputs : List (Except Error Frame)}
      (h : (s.input frame).1 = .error e)
      (hrest : Feeds (s.input frame).2 frames inputs outputs later) :
      Feeds s (frame :: frames) (.error e :: inputs) outputs later
  | taken {s drained later : Session σ} {frame : Option Frame} {frames : List (Option Frame)}
      {inputs : List (Except Error Unit)} {first rest : List (Except Error Frame)}
      (h : (s.input frame).1 = .ok ()) (hdrains : Drains (s.input frame).2 first drained)
      (hrest : Feeds drained frames inputs rest later) :
      Feeds s (frame :: frames) (.ok () :: inputs) (first ++ rest) later

/-! ## Feeding comes to an end -/

theorem take_of_idle {s : Session σ} (h : s.window.hasOutput = false) : s.take = (.ok none, s) := by
  simp only [take, output_of_idle h]

theorem gave?_eq_none {result : Except Error (Option Frame)} :
    gave? result = none ↔ result = .ok none := by
  rcases result with e | _ | picture <;> simp [gave?]

theorem hasOutput_of_gave {s : Session σ} {result : Except Error Frame}
    (h : gave? s.take.1 = some result) : s.window.hasOutput = true := by
  cases hout : s.window.hasOutput with
  | true => rfl
  | false =>
    rw [take_of_idle hout] at h
    cases h

theorem ticksLeft_take {s : Session σ} (h : s.window.hasOutput = true) :
    s.take.2.window.ticksLeft < s.window.ticksLeft :=
  Journal.ticksLeft_next_take (j := { session := s }) h

theorem ended_output (s : Session σ) : s.output.2.window.ended = s.window.ended := by
  rw [window_output]
  split
  · split
    · exact s.window.ended_advanceFrame
    · exact s.window.ended_advanceField
  · rfl

theorem exists_drains (s : Session σ) : ∃ results later, s.Drains results later := by
  induction hleft : s.window.ticksLeft using Nat.strongRecOn generalizing s with
  | ind left ih =>
    subst hleft
    rcases hgave : gave? s.take.1 with _ | result
    · exact ⟨[], _, .done (gave?_eq_none.1 hgave)⟩
    · obtain ⟨rest, later, hrest⟩ := ih _ (ticksLeft_take (hasOutput_of_gave hgave)) _ rfl
      exact ⟨result :: rest, later, .more hgave hrest⟩

/-- **Feeding a stream comes to an end**, whatever the device and whatever fails. -/
theorem exists_feeds (s : Session σ) (frames : List (Option Frame)) :
    ∃ inputs outputs later, s.Feeds frames inputs outputs later := by
  induction frames generalizing s with
  | nil => exact ⟨[], [], s, .done s⟩
  | cons frame frames ih =>
    rcases hinput : (s.input frame).1 with e | _
    · obtain ⟨inputs, outputs, later, hrest⟩ := ih (s.input frame).2
      exact ⟨_, _, later, .refused hinput hrest⟩
    · obtain ⟨first, drained, hdrains⟩ := exists_drains (s.input frame).2
      obtain ⟨inputs, rest, later, hrest⟩ := ih drained
      exact ⟨_, _, later, .taken hinput hdrains hrest⟩

namespace Drains

variable {s later : Session σ} {results : List (Except Error Frame)}

theorem hasOutput_eq (h : s.Drains results later) : later.window.hasOutput = false := by
  induction h with
  | @done s hnone =>
    have hout : s.output.1 = .ok none := s.take_cases.1 ▸ hnone
    have hidle := hasOutput_of_none hout
    rwa [take_of_idle hidle]
  | more _ _ ih => exact ih

/-- The window bounds the number of outputs. -/
theorem length_le (h : s.Drains results later) : results.length ≤ s.window.ticksLeft := by
  induction h with
  | done => exact Nat.zero_le _
  | more hgave _ ih =>
    have hlt := ticksLeft_take (hasOutput_of_gave hgave)
    rw [List.length_cons]
    omega

theorem ended_eq (h : s.Drains results later) : later.window.ended = s.window.ended := by
  have htake : ∀ s : Session σ, s.take.2.window.ended = s.window.ended := by
    intro s
    obtain ⟨-, device, heq⟩ := s.take_cases
    rw [heq]
    exact s.ended_output
  induction h with
  | @done s _ => exact htake s
  | @more s later result rest _ _ ih => exact ih.trans (htake s)

/-- Draining is a run of outputs. -/
theorem follow (h : s.Drains results later) {j : Journal σ} (hj : j.session = s) :
    ∃ calls : List (Call σ), (∀ c ∈ calls, c = .take) ∧
      (calls.foldl Journal.next j).session = later ∧
      (calls.foldl Journal.next j).accepted = j.accepted ∧
      (calls.foldl Journal.next j).ticks.map (·.result) = j.ticks.map (·.result) ++ results := by
  induction h generalizing j with
  | @done s hnone =>
    have hout : s.output.1 = .ok none := s.take_cases.1 ▸ hnone
    rw [take_of_idle (hasOutput_of_none hout)]
    exact ⟨[], by simp, hj, rfl, by simp⟩
  | @more s later result rest hgave _ ih =>
    subst hj
    obtain ⟨calls, hcalls, hsession, haccepted, hticks⟩ := ih (j := j.next .take) rfl
    refine ⟨.take :: calls, by simpa using hcalls, hsession, ?_, ?_⟩
    · rw [List.foldl_cons, haccepted]
      exact List.append_nil _
    · rw [j.session.take_cases.1] at hgave
      rw [List.foldl_cons, hticks, Journal.results_next_take hgave, List.append_assoc]
      rfl

end Drains

namespace Feeds

variable {s drained later : Session σ} {frames more : List (Option Frame)}
  {inputs inputs' : List (Except Error Unit)} {outputs outputs' : List (Except Error Frame)}

theorem append (h : s.Feeds frames inputs outputs drained)
    (hmore : drained.Feeds more inputs' outputs' later) :
    s.Feeds (frames ++ more) (inputs ++ inputs') (outputs ++ outputs') later := by
  induction h with
  | done => exact hmore
  | refused h _ ih => exact .refused h (ih hmore)
  | taken h hdrains _ ih =>
    rw [List.append_assoc]
    exact .taken h hdrains (ih hmore)

/-- Feeding can be broken off in between. -/
theorem exists_append (h : s.Feeds (frames ++ more) inputs outputs later) :
    ∃ drained inputs₁ inputs₂ outputs₁ outputs₂, inputs = inputs₁ ++ inputs₂ ∧
      outputs = outputs₁ ++ outputs₂ ∧ s.Feeds frames inputs₁ outputs₁ drained ∧
      drained.Feeds more inputs₂ outputs₂ later := by
  induction frames generalizing s inputs outputs with
  | nil => exact ⟨s, [], inputs, [], outputs, rfl, rfl, .done s, h⟩
  | cons frame frames ih =>
    cases h with
    | @refused _ _ _ _ e inputs outputs hinput hrest =>
      obtain ⟨drained, inputs₁, inputs₂, outputs₁, outputs₂, rfl, rfl, hfirst, hmore⟩ := ih hrest
      exact ⟨drained, .error e :: inputs₁, inputs₂, outputs₁, outputs₂, rfl, rfl,
        .refused hinput hfirst, hmore⟩
    | @taken _ _ _ _ _ inputs first rest hinput hdrains hrest =>
      obtain ⟨drained, inputs₁, inputs₂, outputs₁, outputs₂, rfl, rfl, hfirst, hmore⟩ := ih hrest
      exact ⟨drained, .ok () :: inputs₁, inputs₂, first ++ outputs₁, outputs₂, rfl,
        (List.append_assoc _ _ _).symm, .taken hinput hdrains hfirst, hmore⟩

theorem length_inputs (h : s.Feeds frames inputs outputs later) :
    inputs.length = frames.length := by
  induction h with
  | done => rfl
  | refused _ _ ih | taken _ _ _ ih => simp [ih]

theorem length_taken {frame : Option Frame} (h : (s.input frame).1 = .ok ()) :
    (s.taken? (.input frame)).toList.length = frame.toList.length := by
  rcases s.input_cases frame with ⟨rfl, -⟩ | ⟨given, rfl, hhard, heq⟩ |
    ⟨given, uploaded, device, rfl, -, heq⟩ | ⟨given, e, device, -, -, heq⟩
  · rfl
  · rw [s.taken?_of_hardware hhard]
  · simp [taken?, heq, pushFrame, Window.push]
  · rw [heq] at h
    cases h

omit [Device σ] in
theorem calls_cons {frame : Option Frame} {calls : List (Call σ)}
    (h : ∀ c ∈ calls, c = .take ∨ ∃ x ∈ frames, c = .input x) :
    ∀ c ∈ Call.input frame :: calls, c = .take ∨ ∃ x ∈ frame :: frames, c = .input x := by
  intro c hc
  rcases List.mem_cons.1 hc with rfl | hc
  · exact .inr ⟨frame, List.mem_cons_self, rfl⟩
  · rcases h c hc with htake | ⟨x, hx, heq⟩
    · exact .inl htake
    · exact .inr ⟨x, List.mem_cons_of_mem _ hx, heq⟩

/-- Feeding is a run of inputs and outputs. The frames that were refused have not been taken in. -/
theorem follow (h : s.Feeds frames inputs outputs later) {j : Journal σ} (hj : j.session = s) :
    ∃ calls : List (Call σ),
      (∀ c ∈ calls, c = .take ∨ ∃ frame ∈ frames, c = .input frame) ∧
      calls.filterMap (·.given?) = frames.filterMap id ∧
      (calls.foldl Journal.next j).session = later ∧
      (calls.foldl Journal.next j).ticks.map (·.result) = j.ticks.map (·.result) ++ outputs ∧
      (calls.foldl Journal.next j).accepted.length + inputs.countP (!·.isOk) =
        j.accepted.length + (frames.filterMap id).length := by
  induction h generalizing j with
  | done => exact ⟨[], by simp, rfl, hj, by simp, by simp⟩
  | @refused s later frame frames e inputs outputs hinput _ ih =>
    -- the call is made, and leaves the lists of the journal as they were
    subst hj
    obtain ⟨given, rfl⟩ : ∃ given, frame = some given := by
      cases frame with
      | none => cases hinput
      | some given => exact ⟨given, rfl⟩
    have htaken : j.session.taken? (.input (some given)) = none := by simp [taken?, hinput]
    have hsame : (j.next (.input (some given))).accepted = j.accepted := by
      simp [Journal.next, htaken]
    obtain ⟨calls, hcalls, hgiven, hsession, hticks, haccepted⟩ :=
      ih (j := j.next (.input (some given))) rfl
    refine ⟨.input (some given) :: calls, calls_cons hcalls, ?_, hsession, ?_, ?_⟩
    · simp [Call.given?] at hgiven ⊢
      exact hgiven
    · rw [List.foldl_cons, hticks]
      simp [Journal.next, Journal.tick?]
    · rw [hsame] at haccepted
      simp [Except.isOk, Except.toBool] at haccepted ⊢
      omega
  | @taken s drained later frame frames inputs first rest hinput hdrains _ ih =>
    subst hj
    have hnew : (j.next (.input frame)).accepted.length =
        j.accepted.length + frame.toList.length := by
      show (j.accepted ++ _).length = _
      rw [List.length_append, length_taken hinput]
    obtain ⟨takes, htakes, hdrained, hsame, hfirst⟩ :=
      hdrains.follow (j := j.next (.input frame)) rfl
    obtain ⟨calls, hcalls, hgiven, hsession, hticks, haccepted⟩ := ih hdrained
    refine ⟨.input frame :: (takes ++ calls), calls_cons ?_, ?_, ?_, ?_, ?_⟩
    · intro c hc
      rcases List.mem_append.1 hc with hc | hc
      · exact .inl (htakes c hc)
      · exact hcalls c hc
    · have hnone : takes.filterMap (·.given?) = [] := by
        rw [List.filterMap_eq_nil_iff]
        intro c hc
        rw [htakes c hc]
        rfl
      rw [List.filterMap_cons, List.filterMap_append, hnone, hgiven]
      cases frame <;> simp [Call.given?]
    · rw [List.foldl_cons, List.foldl_append]
      exact hsession
    · rw [List.foldl_cons, List.foldl_append, hticks, hfirst]
      simp [Journal.next, Journal.tick?]
    · rw [hsame, hnew] at haccepted
      rw [List.foldl_cons, List.foldl_append]
      cases frame <;> simp [Except.isOk, Except.toBool] at haccepted ⊢ <;> omega

/-- After a frame that was taken in, or the end of the stream, no further output can be had. -/
theorem hasOutput_eq (h : s.Feeds frames inputs outputs later)
    (htaken : inputs.getLast? = some (.ok ())) : later.window.hasOutput = false := by
  induction h with
  | done => cases htaken
  | @refused s later frame frames e inputs outputs hinput hrest ih =>
    cases hrest with
    | done => cases htaken
    | refused | taken =>
      rw [List.getLast?_cons_cons] at htaken
      exact ih htaken
  | @taken s drained later frame frames inputs first rest hinput hdrains hrest ih =>
    cases hrest with
    | done => exact hdrains.hasOutput_eq
    | refused | taken =>
      rw [List.getLast?_cons_cons] at htaken
      exact ih htaken

/-- The end of the stream is always taken in, and then all outputs have been had. -/
theorem of_end (h : s.Feeds (frames ++ [none]) inputs outputs later) :
    inputs.getLast? = some (.ok ()) ∧ later.window.ended = true ∧
      later.window.hasOutput = false := by
  obtain ⟨drained, inputs₁, inputs₂, outputs₁, outputs₂, rfl, -, -, hend⟩ := h.exists_append
  cases hend with
  | refused hinput => cases hinput
  | taken hinput hdrains hrest =>
    cases hrest
    exact ⟨by simp, hdrains.ended_eq, hdrains.hasOutput_eq⟩

/-- No frame on the device is refused. -/
theorem inputs_of_hardware (h : s.Feeds frames inputs outputs later)
    (hhard : ∀ x, some x ∈ frames → x.format.isHardware = true) :
    ∀ r ∈ inputs, r = .ok () := by
  induction h with
  | done => simp
  | @refused s later frame frames e inputs outputs hinput _ ih =>
    cases frame with
    | none => cases hinput
    | some given =>
      have heq : (s.input (some given)).1 = .ok () := by
        simp [input, hhard given List.mem_cons_self]
      rw [heq] at hinput
      cases hinput
  | taken _ _ _ ih =>
    have hrest := ih fun x hx => hhard x (List.mem_cons_of_mem _ hx)
    simpa using hrest

/-- Frames on the device are taken in as they are given. -/
theorem follow_of_hardware (h : s.Feeds frames inputs outputs later)
    (hhard : ∀ x, some x ∈ frames → x.format.isHardware = true) :
    ∃ calls : List (Call σ), (∀ c ∈ calls, c = .take ∨ ∃ frame ∈ frames, c = .input frame) ∧
      (s.follow calls).session = later ∧ (s.follow calls).accepted = frames.filterMap id ∧
      (s.follow calls).ticks.map (·.result) = outputs := by
  obtain ⟨calls, hcalls, hgiven, hsession, hticks, -⟩ := h.follow (j := { session := s }) rfl
  refine ⟨calls, hcalls, hsession, ?_, hticks⟩
  rw [← hgiven]
  refine Journal.accepted_foldl { session := s } fun x hx => ?_
  rcases hcalls _ hx with hx | ⟨frame, hframe, heq⟩
  · cases hx
  · cases heq
    exact hhard x hframe

end Feeds

/-! ## What the first input settles -/

/-- The last negotiation was about what there is to negotiate about now. -/
def Settled (s : Session σ) : Prop := s.chain.last = some (s.chain.keyFor s.deinterlacing)

theorem chain_output (s : Session σ) : s.output.2.chain = s.chain := by
  have hchain : (s.perform .output).chain = s.chain := s.chain_perform rfl fun _ => nofun
  exact hchain

theorem deinterlacing_output (s : Session σ) : s.output.2.deinterlacing = s.deinterlacing := by
  rcases s.output_cases with ⟨-, heq⟩ | ⟨frame, -, -, -, heq⟩ |
    ⟨frame, picture, device, stats, -, -, -, -, heq⟩ <;> rw [heq] <;> rfl

theorem forwardDepth_output (s : Session σ) :
    s.output.2.window.forwardDepth = s.window.forwardDepth := by
  rw [window_output]
  split
  · split
    · exact s.window.forwardDepth_advanceFrame
    · exact s.window.forwardDepth_advanceField
  · rfl

theorem Drains.settings_eq {s later : Session σ} {results : List (Except Error Frame)}
    (h : s.Drains results later) : later.chain = s.chain ∧ later.deinterlacing = s.deinterlacing ∧
      later.window.forwardDepth = s.window.forwardDepth := by
  have htake : ∀ s : Session σ, s.take.2.chain = s.chain ∧
      s.take.2.deinterlacing = s.deinterlacing ∧
        s.take.2.window.forwardDepth = s.window.forwardDepth := by
    intro s
    obtain ⟨-, device, heq⟩ := s.take_cases
    rw [heq]
    exact ⟨s.chain_output, s.deinterlacing_output, s.forwardDepth_output⟩
  induction h with
  | @done s _ => exact htake s
  | @more s later result rest _ _ ih =>
    obtain ⟨hchain, hon, hdepth⟩ := htake s
    exact ⟨ih.1.trans hchain, ih.2.1.trans hon, ih.2.2.trans hdepth⟩

theorem forwardDepth_input (s : Session σ) (frame : Option Frame) :
    (s.input frame).2.window.forwardDepth = s.configure.window.forwardDepth := by
  rcases s.input_cases frame with ⟨-, heq⟩ | ⟨given, -, -, heq⟩ |
    ⟨given, uploaded, device, -, -, heq⟩ | ⟨given, e, device, -, -, heq⟩ <;> exact heq ▸ rfl

theorem deinterlacing_input (s : Session σ) (frame : Option Frame) :
    (s.input frame).2.deinterlacing = s.deinterlacing := by
  rcases s.input_cases frame with ⟨-, heq⟩ | ⟨given, -, -, heq⟩ |
    ⟨given, uploaded, device, -, -, heq⟩ | ⟨given, e, device, -, -, heq⟩ <;> exact heq ▸ rfl

/-- An input settles what there is to negotiate. -/
theorem settled_input {s : Session σ} (h : s.Agrees) (frame : Option Frame) :
    (s.input frame).2.Settled := by
  have hkey : s.configure.chain.keyFor s.deinterlacing = s.chain.keyFor s.deinterlacing := by
    simp only [Chain.keyFor, Chain.filtersFor, s.filters_configure.2]
  unfold Settled
  rw [s.chain_input, s.deinterlacing_input, hkey]
  exact (configure_agrees h).2

/-- Nothing is negotiated anew in a session that is settled. -/
theorem Feeds.settled {s later : Session σ} {frames : List (Option Frame)}
    {inputs : List (Except Error Unit)} {outputs : List (Except Error Frame)}
    (h : s.Feeds frames inputs outputs later) (hsettled : s.Settled) :
    later.chain = s.chain ∧ later.deinterlacing = s.deinterlacing ∧
      later.window.forwardDepth = s.window.forwardDepth := by
  have hinput : ∀ {s : Session σ} (frame : Option Frame), s.Settled →
      (s.input frame).2.chain = s.chain ∧ (s.input frame).2.deinterlacing = s.deinterlacing ∧
        (s.input frame).2.window.forwardDepth = s.window.forwardDepth := by
    intro s frame hs
    rw [s.chain_input, s.forwardDepth_input, configure_of_last hs]
    exact ⟨rfl, s.deinterlacing_input frame, rfl⟩
  induction h with
  | done => exact ⟨rfl, rfl, rfl⟩
  | @refused s later frame frames e inputs outputs _ _ ih =>
    obtain ⟨hchain, hon, hdepth⟩ := hinput frame hsettled
    obtain ⟨hchain', hon', hdepth'⟩ := ih (by rw [Settled, hchain, hon]; exact hsettled)
    exact ⟨hchain'.trans hchain, hon'.trans hon, hdepth'.trans hdepth⟩
  | @taken s drained later frame frames inputs first rest _ hdrains _ ih =>
    obtain ⟨hchain, hon, hdepth⟩ := hinput frame hsettled
    obtain ⟨hchain', hon', hdepth'⟩ := hdrains.settings_eq
    rw [hchain] at hchain'
    rw [hon] at hon'
    obtain ⟨hchain'', hon'', hdepth''⟩ := ih (by rw [Settled, hchain', hon']; exact hsettled)
    exact ⟨hchain''.trans hchain', hon''.trans hon', hdepth''.trans (hdepth'.trans hdepth)⟩

/-- The first input settles what the session does to the stream. -/
theorem Feeds.negotiated {s later : Session σ} {frames : List (Option Frame)}
    {inputs : List (Except Error Unit)} {outputs : List (Except Error Frame)}
    (h : s.Feeds frames inputs outputs later) (hagrees : s.Agrees) (hne : frames ≠ []) :
    later.chain = s.configure.chain ∧
      later.window.forwardDepth = s.configure.window.forwardDepth := by
  cases h with
  | done => exact absurd rfl hne
  | @refused _ _ frame frames e inputs outputs _ hrest =>
    obtain ⟨hchain, -, hdepth⟩ := hrest.settled (settled_input hagrees frame)
    exact ⟨hchain.trans (s.chain_input frame), hdepth.trans (s.forwardDepth_input frame)⟩
  | @taken _ drained _ frame frames inputs first rest _ hdrains hrest =>
    obtain ⟨hchain, hon, hdepth⟩ := hdrains.settings_eq
    have hsettled : drained.Settled := by
      rw [Settled, hchain, hon]
      exact settled_input hagrees frame
    obtain ⟨hchain', -, hdepth'⟩ := hrest.settled hsettled
    exact ⟨hchain'.trans (hchain.trans (s.chain_input frame)),
      hdepth'.trans (hdepth.trans (s.forwardDepth_input frame))⟩

/-! ## Where the window stands -/

/-- Wherever a session has come to, its window stands among some frames. -/
theorem standsAt_perform {s : Session σ}
    (h : ∃ pushed passed, s.window.StandsAt pushed passed) (call : Call σ) :
    ∃ pushed passed, (s.perform call).window.StandsAt pushed passed := by
  obtain ⟨pushed, passed, hstand⟩ := h
  have hout : ∃ passed, s.output.2.window.StandsAt pushed passed := by
    rw [window_output]
    split
    · rename_i hout
      have hlt := hstand.lt_of_hasOutput hout
      split
      · exact ⟨_, hstand.advanceFrame hlt⟩
      · exact ⟨_, hstand.advanceField hlt⟩
    · exact ⟨passed, hstand⟩
  cases call with
  | input frame => exact ⟨_, passed, standsAt_input hstand frame⟩
  | output => exact ⟨pushed, hout⟩
  | take =>
    obtain ⟨-, device, heq⟩ := s.take_cases
    show ∃ pushed passed, s.take.2.window.StandsAt pushed passed
    rw [heq]
    exact ⟨pushed, hout⟩
  | seek => exact ⟨[], 0, .flush s.window⟩
  | reconfigure params =>
    refine ⟨[], 0, ?_⟩
    show (s.reconfigure params).2.window.StandsAt [] 0
    rw [s.window_reconfigure]
    exact .flush s.window
  | switch on =>
    refine ⟨pushed, passed, ?_⟩
    show (s.setDeinterlacing on).2.window.StandsAt pushed passed
    unfold setDeinterlacing
    split <;> exact hstand
  | alter change => exact ⟨pushed, passed, hstand⟩

theorem standsAt_calls {options : Options} {device : σ} {opened : Session σ}
    (hopen : open? options device = .ok opened) (calls : List (Call σ)) :
    ∃ pushed passed, (calls.foldl perform opened).window.StandsAt pushed passed := by
  have hopened : ∃ pushed passed, opened.window.StandsAt pushed passed := by
    obtain ⟨config, d₁, context, d₂, available, d₃, descriptors, later, -, -, -, -, rfl⟩ :=
      eq_of_open hopen
    exact ⟨[], 0, .flush {}⟩
  exact List.foldlRecOn
    (motive := fun s : Session σ => ∃ pushed passed, s.window.StandsAt pushed passed)
    calls perform hopened fun s hs call _ => standsAt_perform hs call

/-- A session that has been opened and holds no frames is at the beginning of a stream. -/
theorem standsAt_of_empty {options : Options} {device : σ} {opened : Session σ}
    (hopen : open? options device = .ok opened) (calls : List (Call σ))
    (hempty : (calls.foldl perform opened).window.frames = []) :
    (calls.foldl perform opened).window.StandsAt [] 0 := by
  obtain ⟨pushed, passed, hstand⟩ := standsAt_calls hopen calls
  have hlength := hstand.length_eq
  rw [hempty, List.length_nil] at hlength
  have hcursor := hstand.cursor_le
  have hpassed := hstand.passed_le
  refine .empty hempty (by omega) ?_
  cases hsecond : (calls.foldl perform opened).window.secondField with
  | false => rfl
  | true =>
    have hlt := hstand.second_lt hsecond
    omega

end Session

end Deinterlace
