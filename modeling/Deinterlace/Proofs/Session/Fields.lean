import Deinterlace.Device.Simulator
import Deinterlace.Proofs.Session.Agreement
import Deinterlace.Proofs.Session.Journal
import Mathlib.Data.List.Induction
import Mathlib.Data.List.Pairwise
import Mathlib.Tactic.IntervalCases

/-!
# Fields and whole frames

A frame of which both fields are output should not come out as a whole as well. Switching
deinterlacing takes effect at the next input, and this may lie between the two fields of a frame.
Two outputs of one frame are its two fields exactly when filters were still in force at the second
one; on a device that can always say what the filters need, exactly when deinterlacing was still
switched on at the latest input before it (`Journal.keepsApart_iff`).
-/
namespace Deinterlace

namespace Tick

/-- Two outputs that gave pictures of one and the same frame. -/
def ShareFrame (first second : Tick) : Prop :=
  first.place = second.place ∧ first.result.isOk = true ∧ second.result.isOk = true

/-- Two outputs of a frame that are its fields: both were rendered, first the field that had been
taken first, then the other one. -/
def AreFields (first second : Tick) : Prop :=
  first.rendered = true ∧ second.rendered = true ∧
    (first.field, second.field) =
      if first.frame.topFieldFirst then (.top, .bottom) else (.bottom, .top)

instance (first second : Tick) : Decidable (first.ShareFrame second) :=
  inferInstanceAs (Decidable (_ ∧ _ ∧ _))

instance (first second : Tick) : Decidable (first.AreFields second) :=
  inferInstanceAs (Decidable (_ ∧ _ ∧ _))

/-- What an output is like when `filters` is what there is to deinterlace with. -/
structure Sound (o : Options) (filters : List BufferId) (t : Tick) : Prop where
  rendered_eq : t.rendered = (t.filtered && o.treats t.frame)
  field_eq : t.rendered = true →
    t.field = if t.frame.topFieldFirst != t.second then .top else .bottom
  of_filtered : t.filtered = true → t.switched = true ∧ filters ≠ []

end Tick

variable {σ : Type} [Device σ]

namespace Session

/-- The device can say what the filters need. -/
def Answered (s : Session σ) : Prop :=
  ∃ caps later,
    Device.queryCaps s.context (s.chain.filtersFor true) s.device = (.ok caps, later)

end Session

namespace Journal

/-! ## The ticks of one frame -/

/-- Two ticks of one frame are in the order of its fields, and the first one was rendered. -/
theorem pairwise_flatten {accepted : List Frame} {turns : List (List Tick)}
    (h : ∀ n turn, turns[n]? = some turn → Turn accepted n turn) :
    turns.flatten.Pairwise fun first second => first.place = second.place →
      first.rendered = true ∧ first.second = false ∧ second.second = true ∧
        second.frame = first.frame := by
  rw [List.pairwise_flatten]
  refine ⟨?_, ?_⟩
  · intro turn hturn
    obtain ⟨n, hn⟩ := List.getElem?_of_mem hturn
    have hturn := h n turn hn
    rcases hturn.shape with ⟨only, rfl, -⟩ | ⟨first, second, rfl, hfirst, hsecond, hrendered, -⟩
    · exact List.pairwise_singleton _ _
    · have hframe : some second.frame = some first.frame :=
        (hturn.of_frame second (by simp)).2.symm.trans (hturn.of_frame first (by simp)).2
      refine List.pairwise_pair.2 fun _ => ⟨hrendered, hfirst, hsecond, ?_⟩
      exact Option.some.inj hframe
  · rw [List.pairwise_iff_getElem]
    intro m n hm hn hmn first hfirst second hsecond hplace
    have hm' := ((h m _ (List.getElem?_eq_getElem hm)).of_frame first hfirst).1
    have hn' := ((h n _ (List.getElem?_eq_getElem hn)).of_frame second hsecond).1
    omega

/-! ## Sound ticks -/

theorem exists_of_tick? {j : Journal σ} {call : Session.Call σ} {t : Tick}
    (h : j.tick? call = some t) : ∃ frame result, t = j.tick frame result ∧
      j.session.window.hasOutput = true ∧ j.session.window.current? = some frame := by
  have hbind : (j.session.window.current?.bind fun frame =>
      (Session.gave? j.session.output.1).map (j.tick frame)) = some t := by
    cases call with
    | output => exact h
    | take => exact h
    | _ => cases h
  obtain ⟨frame, hcur, hmap⟩ := Option.bind_eq_some_iff.1 hbind
  obtain ⟨result, hgave, rfl⟩ := Option.map_eq_some_iff.1 hmap
  refine ⟨frame, result, rfl, ?_, hcur⟩
  rcases j.session.output_cases with ⟨-, heq⟩ | ⟨_, hout, -⟩ | ⟨_, _, _, _, hout, -⟩
  · rw [heq] at hgave
    cases hgave
  · exact hout
  · exact hout

/-- The chain and the ticks of a journal fit the options `o` and the filters there are. -/
structure Consistent (o : Options) (filters : List BufferId) (j : Journal σ) : Prop where
  agrees : j.session.Agrees
  options_eq : j.session.chain.options = o
  filters_eq : j.session.chain.filtersFor true = filters
  last : ∀ key, j.session.chain.last = some key → key.deinterlace = j.switched
  sound : ∀ t ∈ j.ticks, t.Sound o filters

namespace Consistent

variable {o : Options} {filters : List BufferId} {j : Journal σ}

omit [Device σ] in
theorem sound_tick (h : j.Consistent o filters) {frame : Frame}
    (hout : j.session.window.hasOutput = true) (hcur : j.session.window.current? = some frame)
    (result : Except Error Frame) : (j.tick frame result).Sound o filters where
  rendered_eq := by
    have hpass := h.agrees.passesThrough_eq hout hcur
    simp [tick, hpass, h.options_eq]
  field_eq hrendered := by
    have hshould : j.session.window.shouldDeinterlace = true := by
      simp only [tick, Session.passesThrough, Bool.not_eq_true', Bool.or_eq_false_iff,
        Bool.not_eq_false'] at hrendered
      exact hrendered.2
    exact Rendering.fieldOf_eq hcur hshould
  of_filtered hfiltered := by
    have hactive : j.session.chain.active ≠ [] := by
      intro hnil
      simp [tick, hnil] at hfiltered
    obtain ⟨key, caps, hlast, hforce⟩ := h.agrees.exists_inForce hactive
    refine ⟨(h.last key hlast).symm.trans hforce.on, ?_⟩
    have hfilters := (h.agrees.settled key hlast).1
    rw [hforce.on, h.filters_eq] at hfilters
    exact hfilters ▸ hforce.filters

theorem next (h : j.Consistent o filters) {call : Session.Call σ}
    (hcall : call.keepsStream = true) : (j.next call).Consistent o filters where
  agrees := h.agrees.perform call
  options_eq := (j.session.filters_perform call).1.trans h.options_eq
  filters_eq := by
    have hdescriptors := (j.session.filters_perform call).2
    rw [← h.filters_eq, Chain.filtersFor_true, Chain.filtersFor_true]
    exact congrArg (List.map (·.buffer)) hdescriptors
  last key hkey := by
    cases call with
    | input frame =>
      have hlast := (Session.configure_agrees h.agrees).2
      rw [← j.session.chain_input frame] at hlast
      cases hlast.symm.trans hkey
      rfl
    | _ =>
      refine h.last key ?_
      rw [← j.session.chain_perform hcall (by simp)]
      exact hkey
  sound t ht := by
    rcases List.mem_append.1 ht with ht | ht
    · exact h.sound t ht
    · obtain ⟨frame, result, rfl, hout, hcur⟩ := exists_of_tick? (Option.mem_toList.1 ht)
      exact h.sound_tick hout hcur result

end Consistent

/-- Filters are in force whenever deinterlacing has been switched on. -/
structure Served (filters : List BufferId) (j : Journal σ) : Prop where
  active : ∀ key, j.session.chain.last = some key → key.deinterlace = true → filters ≠ [] →
    j.session.chain.active ≠ []
  filtered : ∀ t ∈ j.ticks, filters ≠ [] → t.switched = true → t.filtered = true

theorem Served.next {o : Options} {filters : List BufferId} {j : Journal σ}
    (h : j.Served filters) (hcons : j.Consistent o filters) {call : Session.Call σ}
    (hcall : call.keepsStream = true) (hanswer : j.session.Answered) :
    (j.next call).Served filters where
  active := by
    by_cases hinput : ∃ frame, call = .input frame
    · obtain ⟨frame, rfl⟩ := hinput
      intro key hkey hon hne
      have hchain : (j.next (.input frame)).session.chain = j.session.configure.chain :=
        j.session.chain_input frame
      rw [hchain] at hkey ⊢
      rw [Session.configure_eq] at hkey ⊢
      rcases Chain.configure_cases j.session.chain j.session.context j.session.deinterlacing
          j.session.window j.session.device with
        ⟨-, heq⟩ | ⟨-, later, hdeclined, heq⟩ | ⟨-, hfilters, caps, later, -, heq⟩ <;>
        rw [heq] at hkey ⊢
      · exact h.active key hkey hon hne
      · -- the device would have had to decline
        cases hkey
        have hkeyFor : (j.session.chain.keyFor j.session.deinterlacing).filters =
            j.session.chain.filtersFor true := congrArg j.session.chain.filtersFor hon
        rcases hdeclined with ⟨hnil, -⟩ | ⟨e, herror⟩
        · rw [hkeyFor, hcons.filters_eq] at hnil
          exact absurd hnil hne
        · obtain ⟨caps, later, hok⟩ := hanswer
          rw [hkeyFor, hok] at herror
          cases herror
      · exact hfilters
    · have hchain : (j.next call).session.chain = j.session.chain :=
        j.session.chain_perform hcall fun frame hf => hinput ⟨frame, hf⟩
      rw [hchain]
      exact h.active
  filtered t ht := by
    rcases List.mem_append.1 ht with ht | ht
    · exact h.filtered t ht
    · obtain ⟨frame, result, rfl, -, hcur⟩ := exists_of_tick? (Option.mem_toList.1 ht)
      intro hne hswitched
      have hset := hcons.agrees.held (Window.frames_ne_nil hcur)
      obtain ⟨key, hkey⟩ := Option.ne_none_iff_exists'.1 hset
      have hactive := h.active key hkey ((hcons.last key hkey).trans hswitched) hne
      simpa [tick] using hactive

/-! ## Runs -/

theorem consistent_follow {options : Options} {device : σ} {s : Session σ}
    (hopen : Session.open? options device = .ok s) (params : StreamParams)
    {calls : List (Session.Call σ)} (hcalls : ∀ c ∈ calls, c.keepsStream = true) :
    ((s.reconfigure params).2.follow calls).Consistent s.chain.options
      (s.chain.filtersFor true) := by
  have hchain := s.chain_reconfigure params
  refine List.foldlRecOn calls next ?_ fun j hj call hcall => hj.next (hcalls call hcall)
  refine ⟨Session.reconfigure_agrees (Session.agrees_of_open hopen) params, ?_, ?_, ?_, ?_⟩
  · exact congrArg (·.options) hchain
  · exact congrArg (·.filtersFor true) hchain
  · intro key hkey
    rw [hchain] at hkey
    cases hkey
  · intro t ht
    cases ht

theorem served_follow {options : Options} {device : σ} {s : Session σ}
    (hopen : Session.open? options device = .ok s) (params : StreamParams)
    {calls : List (Session.Call σ)} (hcalls : ∀ c ∈ calls, c.keepsStream = true)
    (hanswer : ∀ before, before <+: calls →
      ((s.reconfigure params).2.follow before).session.Answered) :
    ((s.reconfigure params).2.follow calls).Served (s.chain.filtersFor true) := by
  induction calls using List.reverseRecOn with
  | nil =>
    refine ⟨fun key hkey => ?_, fun t ht => by cases ht⟩
    rw [Session.follow, List.foldl_nil, s.chain_reconfigure params] at hkey
    cases hkey
  | append_singleton calls call ih =>
    have hbefore : ∀ c ∈ calls, c.keepsStream = true := fun c hc => hcalls c (by simp [hc])
    have hserved := ih hbefore fun before hb => hanswer before (hb.trans (List.prefix_append _ _))
    have hnext := hserved.next (consistent_follow hopen params hbefore)
      (hcalls call (by simp)) (hanswer calls (List.prefix_append _ _))
    simpa [Session.follow] using hnext

/-- Two ticks of one frame are its fields exactly when filters are in force at the second one. -/
theorem areFields_iff {o : Options} {filters : List BufferId} {first second : Tick}
    (hfirst : first.Sound o filters) (hsecond : second.Sound o filters)
    (hrendered : first.rendered = true) (hzero : first.second = false)
    (hone : second.second = true) (hframe : second.frame = first.frame) :
    first.AreFields second ↔ second.filtered = true := by
  constructor
  · intro hfields
    have hrendered := hfields.2.1
    rw [hsecond.rendered_eq, Bool.and_eq_true] at hrendered
    exact hrendered.1
  · intro hfiltered
    have htreats : o.treats first.frame = true := by
      rw [hfirst.rendered_eq, Bool.and_eq_true] at hrendered
      exact hrendered.2
    have hrendered' : second.rendered = true := by
      rw [hsecond.rendered_eq, hfiltered, hframe, htreats]
      rfl
    refine ⟨hrendered, hrendered', ?_⟩
    rw [hfirst.field_eq hrendered, hsecond.field_eq hrendered', hframe, hzero, hone]
    cases first.frame.topFieldFirst <;> rfl

/-- No frame comes out both as a field and as a whole: two pictures of one frame are its fields. -/
def KeepsApart (j : Journal σ) : Prop :=
  j.ticks.Pairwise fun first second => first.ShareFrame second → first.AreFields second

instance (j : Journal σ) : Decidable j.KeepsApart :=
  inferInstanceAs (Decidable (List.Pairwise _ _))

/-- **When a frame comes out both as a field and as a whole.** In a run on one stream this never
happens exactly if filters are in force at the second one of any two pictures of one frame. If the
device can say at any time what the filters need, it never happens exactly if deinterlacing was
switched on at the latest input before the second picture. -/
theorem keepsApart_iff {options : Options} {device : σ} {s : Session σ}
    (hopen : Session.open? options device = .ok s) (params : StreamParams)
    (calls : List (Session.Call σ)) (hcalls : ∀ c ∈ calls, c.keepsStream = true) :
    (((s.reconfigure params).2.follow calls).KeepsApart ↔
      ((s.reconfigure params).2.follow calls).ticks.Pairwise fun first second =>
        first.ShareFrame second → second.filtered = true) ∧
    ((∀ before, before <+: calls → ((s.reconfigure params).2.follow before).session.Answered) →
      (((s.reconfigure params).2.follow calls).KeepsApart ↔
        ((s.reconfigure params).2.follow calls).ticks.Pairwise fun first second =>
          first.ShareFrame second → second.switched = true)) := by
  obtain ⟨passed, turns, begun, haccount⟩ := accounted_follow s params hcalls
  obtain ⟨all, hticks, -, -, hturn⟩ := haccount.exists_all
  have hcons := consistent_follow hopen params hcalls
  have hpairs := hticks ▸ pairwise_flatten hturn
  have hiff : ((s.reconfigure params).2.follow calls).ticks.Pairwise fun first second =>
      first.ShareFrame second →
        first.filtered = true ∧ (first.AreFields second ↔ second.filtered = true) := by
    refine hpairs.imp_of_mem fun {first second} hf hs hpair hshare => ?_
    obtain ⟨hrendered, hzero, hone, hframe⟩ := hpair hshare.1
    have hfirst := hcons.sound first hf
    refine ⟨?_, areFields_iff hfirst (hcons.sound second hs) hrendered hzero hone hframe⟩
    rw [hfirst.rendered_eq, Bool.and_eq_true] at hrendered
    exact hrendered.1
  refine ⟨⟨fun h => ?_, fun h => ?_⟩, fun hanswer => ⟨fun h => ?_, fun h => ?_⟩⟩
  · exact (h.and hiff).imp fun hab hshare => (hab.2 hshare).2.1 (hab.1 hshare)
  · exact (h.and hiff).imp fun hab hshare => (hab.2 hshare).2.2 (hab.1 hshare)
  · refine (h.and hiff).imp_of_mem fun {first second} _ hs hab hshare => ?_
    have hfiltered := (hab.2 hshare).2.1 (hab.1 hshare)
    exact ((hcons.sound second hs).of_filtered hfiltered).1
  · have hserved := served_follow hopen params hcalls hanswer
    refine (h.and hiff).imp_of_mem fun {first second} hf hs hab hshare => ?_
    have hne := ((hcons.sound first hf).of_filtered (hab.2 hshare).1).2
    exact (hab.2 hshare).2.2 (hserved.filtered second hs hne (hab.1 hshare))

/-- Two interlaced frames, and an output after each of them: the fields of the first one. `midway`
is done between them. -/
def bothFields (midway : List (Session.Call Simulator)) : List (Session.Call Simulator) :=
  [.input (some { Frame.decoded ⟨1⟩ 720 576 with fields := ⟨3⟩ }), .take] ++ midway ++
    [.input (some { Frame.decoded ⟨2⟩ 720 576 with fields := ⟨3⟩ }), .take]

/-- Two fields are told apart from a whole frame as long as nothing is switched. -/
theorem keepsApart_of_bothFields :
    ∃ s : Session Simulator, Session.open? {} {} = .ok s ∧
      ((s.reconfigure (.hardware 720 576 720 576)).2.follow (bothFields [])).ticks.length = 2 ∧
      ((s.reconfigure (.hardware 720 576 720 576)).2.follow (bothFields [])).KeepsApart := by
  refine ⟨_, rfl, by decide, ?_⟩
  have hiff := @keepsApart_iff Simulator _ {} {} _ rfl (.hardware 720 576 720 576) (bothFields [])
    (by decide)
  refine (hiff.2 fun before hb => ?_).2 (by decide)
  rw [List.prefix_iff_eq_take] at hb
  have hlen : before.length ≤ 4 := by simpa [bothFields] using congrArg List.length hb
  rw [hb]
  interval_cases before.length <;> exact ⟨_, _, rfl⟩

/-- **A frame can come out both as a field and as a whole.** Deinterlacing is switched off between
the fields of a frame, and the input that the second field waits for makes this take effect. -/
theorem not_keepsApart_of_switch :
    ∃ s : Session Simulator, Session.open? {} {} = .ok s ∧
      ¬ ((s.reconfigure (.hardware 720 576 720 576)).2.follow
        (bothFields [.switch false])).KeepsApart :=
  ⟨_, rfl, by decide⟩

end Journal

end Deinterlace
