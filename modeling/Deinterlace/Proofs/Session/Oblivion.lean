import Deinterlace.Proofs.Session.Depths
import Deinterlace.Proofs.Session.Parallel
import Deinterlace.Proofs.Session.Waiting
import Mathlib.Data.List.Infix

/-!
# Nothing is left of the stream before

A session that is set up for a stream, or told of a jump within it, forgets its past: the frames
that it held, the field it was at, the end of the stream, the step between frames, what it had
negotiated, and errors along the way. From then on it does what any other session on the same kind
of device does (`Custody.oblivious_of_reachable`), in particular one that has just been opened.
-/
namespace Deinterlace

/-! ## What holds of every session -/

namespace Custody

section Reachable

variable {σ : Type} [Device σ] {harmless : (σ → σ) → Prop} {c : Custody σ}

/-- What a caller does is a call on its session, if it does anything to it. -/
theorem exists_perform (c : Custody σ) (deed : Deed σ) :
    ∃ call, (c.next deed).session = c.session.perform call := by
  cases deed with
  | call call => exact ⟨call, rfl⟩
  | give place =>
    simp only [next]
    split
    · exact ⟨.input _, rfl⟩
    · exact ⟨.alter id, rfl⟩
  | share place =>
    simp only [next]
    split
    · exact ⟨.alter (Device.retainFrame _), rfl⟩
    · exact ⟨.alter id, rfl⟩
  | drop place =>
    simp only [next]
    split
    · exact ⟨.alter (Device.releaseFrame _), rfl⟩
    · exact ⟨.alter id, rfl⟩
  | revise place frame => exact ⟨.alter id, rfl⟩

theorem Reachable.agrees {options : Options} {device : σ}
    (h : Reachable harmless options device c) :
    c.session.Agrees ∧ c.session.chain.options = options := by
  induction h with
  | opened hopen => exact ⟨Session.agrees_of_open hopen, Session.options_of_open hopen⟩
  | @next c deed _ _ ih =>
    obtain ⟨call, heq⟩ := c.exists_perform deed
    rw [heq]
    exact ⟨ih.1.perform call, (c.session.filters_perform call).1.trans ih.2⟩

theorem pool_moves {ms : List Move} (hms : ∀ m ∈ ms, m.Continues) :
    (c.moves ms).session.pool = c.session.pool := by
  induction ms generalizing c with
  | nil => rfl
  | cons m ms ih =>
    have hm := hms m List.mem_cons_self
    have hnot : ∀ params, c.deed m ≠ .call (.reconfigure params) := by
      rintro params heq
      cases m with
      | reconfigure params => exact hm.elim
      | _ => cases heq
    have hrest := ih (c := c.move m) fun other hother => hms other (List.mem_cons_of_mem _ hother)
    exact hrest.trans (params_next hnot).2

end Reachable

open Simulator

variable {c u : Custody Simulator}

theorem aged_moves {ms : List Move} (hms : ∀ m ∈ ms, m.FromOutside) :
    c.session.device.Aged (c.moves ms).session.device := by
  have hself : c.session.Obeys c.session.fixtures (fun _ _ e => c.session.device.Aged e) c.held :=
    ⟨rfl, .refl _⟩
  exact (obeys_moves (upholds_aged _ _) hself hms).holds

/-- Numbers that last to the end last all the time. -/
theorem nextId_le_of_initial {before ms : List Move} (hbefore : before <+: ms)
    (hms : ∀ m ∈ ms, m.FromOutside) :
    (c.moves before).session.device.nextId ≤ (c.moves ms).session.device.nextId := by
  obtain ⟨rest, rfl⟩ := hbefore
  rw [moves_append]
  exact (aged_moves fun m hm => hms m (List.mem_append_right _ hm)).nextId_le

end Custody

/-! ## Setting up -/

namespace Session

variable {s r : Session Simulator}

/-- Whether a session can be set up depends on the stream and on the calls that fail. -/
theorem reconfigure_congr (hfailing : r.device.failing = s.device.failing) (params : StreamParams) :
    (r.reconfigure params).1 = (s.reconfigure params).1 := by
  have hsame : ∀ s : Session Simulator, s.forget.device.failing = s.device.failing := by
    intro s
    have hself : s.Obeys s.fixtures (fun _ _ d => d.failing = s.device.failing) [] := ⟨rfl, rfl⟩
    exact (hself.forget (Simulator.upholds_failing _ _)).1.holds
  have hfails : r.forget.device.fails .createSurfaces = s.forget.device.fails .createSurfaces := by
    rw [Simulator.fails, Simulator.fails, hsame, hsame, hfailing]
  unfold reconfigure
  cases poolFor params with
  | none => rfl
  | some desc =>
    have hmade : ∀ d : Simulator, Device.createPool desc d = Simulator.createPool desc d :=
      fun _ => rfl
    by_cases hfail : s.forget.device.fails .createSurfaces = true
    · simp only [hmade, Simulator.createPool, hfails, if_pos hfail]
    · simp only [hmade, Simulator.createPool, hfails, if_neg hfail]

/-- What is left of a session when it is set up: nothing that has been negotiated, no frames, the
switch, and the calls that fail. -/
structure Renewed (s later : Session Simulator) : Prop where
  flushed : later.window.flush = later.window
  unset : later.chain.last = none
  deinterlacing_eq : later.deinterlacing = s.deinterlacing
  failing_eq : later.device.failing = s.device.failing
  fixtures_eq : later.fixtures = s.fixtures

theorem renewed_reconfigure (s : Session Simulator) (params : StreamParams) :
    s.Renewed (s.reconfigure params).2 where
  flushed := by
    rw [window_reconfigure]
    rfl
  unset := by
    rw [chain_reconfigure]
    rfl
  deinterlacing_eq := by
    rcases s.reconfigure_cases params with ⟨e, device, heq⟩ | ⟨desc, pool, device, -, -, heq⟩ <;>
      rw [heq] <;> exact s.deinterlacing_forget
  failing_eq := by
    have hself : s.Obeys s.fixtures (fun _ _ d => d.failing = s.device.failing) [] := ⟨rfl, rfl⟩
    exact (hself.reconfigure (Simulator.upholds_failing _ _) params).holds
  fixtures_eq := fixtures_perform s (.reconfigure params)

theorem informed_seek (h : s.Informed) : s.seek.Informed := by
  have hself : s.Obeys s.fixtures (fun _ _ d => d.profile = s.device.profile) [] := ⟨rfl, rfl⟩
  have hprofile := (hself.seek (Simulator.upholds_profile _ _)).holds
  intro key hlast hfilters
  have hanswer := h key hlast hfilters
  rw [← Simulator.queryCaps_congr hprofile] at hanswer
  exact hanswer

end Session

namespace Custody

open Simulator

variable {c u : Custody Simulator}

/-- Two sessions that have been put side by side, the pools of which are `p` and `q`. -/
def tiesOf (c u : Custody Simulator) (i j : PoolId) (p : Pool) (ms : List Move) : Ties where
  left := c.session.fixtures
  right := u.session.fixtures
  pool := i
  pool' := j
  outer := Move.surfaces ms
  kept := holdings c.held
  kept' := holdings u.held
  spare := p.inUse
  before := c.session.device.rendered
  before' := u.session.device.rendered

/-- Two sessions with whatever pasts, the right one of which has just been set up, wait for a frame
alike. -/
theorem poised_of_reachable {options : Options} {d e : Simulator} (hd : d.Unused) (he : e.Unused)
    (hcaps : e.caps = d.caps) (hcapacity : e.poolCapacity = d.poolCapacity)
    (hc : Reachable Injects options d c) (hu : Reachable Injects options e u)
    (hfailing : u.session.device.failing = c.session.device.failing)
    (hswitch : u.session.deinterlacing = c.session.deinterlacing)
    (hflushed : c.session.window.flush = c.session.window)
    (hflushed' : u.session.window.flush = u.session.window)
    (hinformed : c.session.Informed) (hunset : u.session.chain.last = none)
    {params : StreamParams} {i j : PoolId} {p q : Pool}
    (hp : c.session.Furnished params d.poolCapacity i p)
    (hq : u.session.Furnished params e.poolCapacity j q) (hnew : q.allocated = 0)
    (hfree : q.free = []) (ms : List Move) :
    Poised (tiesOf c u i j p ms)
      { buffers := c.session.fixtures.filters.zip u.session.fixtures.filters }
      { session := c.session } { session := u.session } := by
  obtain ⟨hagrees, hoptions⟩ := hc.agrees
  obtain ⟨hagrees', hoptions'⟩ := hu.agrees
  have hbalanced := (obeys_balanced hd hc).holds
  have hbalanced' := (obeys_balanced he hu).holds
  rw [Window.frames_of_flush hflushed] at hbalanced
  rw [Window.frames_of_flush hflushed'] at hbalanced'
  have hdesc : q.desc = p.desc := Option.some.inj (hq.desc_eq.symm.trans hp.desc_eq)
  refine ⟨⟨rfl, rfl, hagrees, hagrees', hflushed, hflushed', hoptions'.trans hoptions.symm,
    hinformed, hunset, hp.pool_eq, hq.pool_eq, hswitch, rfl, ?_⟩, rfl, rfl⟩
  refine ⟨hbalanced, hbalanced', (obeys_equipped hd hc).holds, (obeys_equipped he hu).holds, ?_,
    hfailing, ⟨p, q, hp.found, hq.found, ⟨hdesc, ?_, ?_⟩, ?_⟩, by simp, [], [], rfl, rfl, .nil⟩
  · rw [hu.aged.caps_eq, hc.aged.caps_eq, hcaps]
  · rw [hq.capacity_eq, hp.capacity_eq, hcapacity]
  · show p.inUse = q.inUse + p.inUse
    simp [Pool.inUse, hnew]
  · refine ⟨by simp, by simp, by simp, by simp, by simp, by simp, List.nodup_nil, List.nodup_nil,
      [], p.free, rfl, hfree, List.nil_subset _, by simp⟩

/-! ## The same from then on -/

/-- The callers make the moves `ms`. They are told the same, and the same is rendered for them, up
to names of surfaces and buffers, of which none stands for two. -/
def SameFrom (ms : List Move) (c u : Custody Simulator) : Prop :=
  ∃ n : Names, n.OneToOne ∧ List.Forall₂ (Answer.Alike n) (c.answers ms) (u.answers ms) ∧
    ∃ since since',
      (c.moves ms).session.device.submissions = c.session.device.submissions ++ since ∧
      (u.moves ms).session.device.submissions = u.session.device.submissions ++ since' ∧
      List.Forall₂ (Submission.Alike (n.Links (Move.surfaces ms)) n) since since'

/-- The device does not run out of numbers in the moves `ms`. -/
def NumbersLast (ms : List Move) (c : Custody Simulator) : Prop :=
  (c.moves ms).session.device.nextId < (Handle.invalid : SurfaceId).value

instance (ms : List Move) (c : Custody Simulator) : Decidable (NumbersLast ms c) :=
  inferInstanceAs (Decidable (_ < _))

/-- All surfaces of the pool are out. -/
def OutOfSurfaces (c : Custody Simulator) : Prop :=
  ∃ i, c.session.pool = some i ∧ c.session.device.Exhausted i

instance (c : Custody Simulator) : Decidable c.OutOfSurfaces :=
  decidable_of_iff (∃ i ∈ c.session.pool, c.session.device.Exhausted i) Iff.rfl

/-- A caller that starts with nothing in its hands once the session has been set up. -/
def renew (c : Custody Simulator) (params : StreamParams) : Custody Simulator :=
  { session := (c.session.reconfigure params).2 }

/-- A caller that starts with nothing in its hands after a jump in the stream. -/
def jump (c : Custody Simulator) : Custody Simulator := { session := c.session.seek }

/-- The calls `failing` are made to fail, and no others. -/
def withFailures (failing : List EntryPoint) (c : Custody Simulator) : Custody Simulator :=
  { c with session := { c.session with device := { c.session.device with failing } } }

theorem Poised.sameFrom {t : Ties} {n : Names} (h : Poised t n c u)
    (hlength : t.right.filters.length = t.left.filters.length) {ms : List Move}
    (hms : ∀ m ∈ ms, m.Continues) (houter : Move.surfaces ms = t.outer)
    (hbefore : c.session.device.rendered = t.before)
    (hbefore' : u.session.device.rendered = t.before') (hlast : c.NumbersLast ms)
    (hlast' : u.NumbersLast ms)
    (hroom : ∀ before, before <+: ms → ∀ n shares,
      Linked t n shares (c.moves before).session.device (u.moves before).session.device →
        (c.moves before).session.device.Exhausted t.pool →
          (u.moves before).session.device.Exhausted t.pool') : SameFrom ms c u := by
  have houtside : ∀ m ∈ ms, m.FromOutside := fun m hm => (hms m hm).fromOutside
  obtain ⟨later, shares, hgrows, hlinked, hanswers⟩ := h.moves hlength hms
    (houter ▸ List.Subset.refl _)
    fun before hbefore n shares hthere =>
      ⟨Nat.lt_of_le_of_lt (nextId_le_of_initial hbefore houtside) hlast,
        Nat.lt_of_le_of_lt (nextId_le_of_initial hbefore houtside) hlast',
        hroom before hbefore n shares hthere⟩
  obtain ⟨since, since', heq, heq', halike⟩ := hlinked.rendered
  refine ⟨later, hlinked.oneToOne hlength (hgrows.buffers.trans h.sessions.named), hanswers,
    since.reverse, since'.reverse, ?_, ?_, ?_⟩
  · rw [submissions, submissions, heq, List.reverse_append, hbefore]
  · rw [submissions, submissions, heq', List.reverse_append, hbefore']
  · rw [houter]
    exact List.rel_reverse halike

/-- Sessions that have just been set up do the same, whatever there was before. -/
theorem sameFrom_renew {options : Options} {d e : Simulator} (hd : d.Unused) (he : e.Unused)
    (hcaps : e.caps = d.caps) (hcapacity : e.poolCapacity = d.poolCapacity)
    (hc : Reachable Injects options d c) (hu : Reachable Injects options e u)
    (hlength : u.session.fixtures.filters.length = c.session.fixtures.filters.length)
    (hfailing : u.session.device.failing = c.session.device.failing)
    (hswitch : u.session.deinterlacing = c.session.deinterlacing) {params out : StreamParams}
    (hset : (c.session.reconfigure params).1 = .ok out) {ms : List Move}
    (hms : ∀ m ∈ ms, m.Continues) (hlast : (c.renew params).NumbersLast ms)
    (hlast' : (u.renew params).NumbersLast ms) : SameFrom ms (c.renew params) (u.renew params) := by
  have hset' := (Session.reconfigure_congr hfailing params).trans hset
  have hc' : Reachable Injects options d (c.next (.call (.reconfigure params))) := hc.next trivial
  have hu' : Reachable Injects options e (u.next (.call (.reconfigure params))) := hu.next trivial
  obtain ⟨-, i, p, hnew, hfree, hp⟩ :=
    Session.furnished_reconfigure (Session.params_of_reconfigure hset)
  obtain ⟨-, j, q, hnew', hfree', hq⟩ :=
    Session.furnished_reconfigure (Session.params_of_reconfigure hset')
  rw [hc.aged.capacity_eq] at hp
  rw [hu.aged.capacity_eq] at hq
  have hleft := c.session.renewed_reconfigure params
  have hright := u.session.renewed_reconfigure params
  have hpoised := poised_of_reachable hd he hcaps hcapacity hc' hu'
    (hright.failing_eq.trans (hfailing.trans hleft.failing_eq.symm))
    (hright.deinterlacing_eq.trans (hswitch.trans hleft.deinterlacing_eq.symm)) hleft.flushed
    hright.flushed (.of_unset hleft.unset) hright.unset hp hq hnew' hfree' ms
  refine hpoised.sameFrom ?_ hms rfl rfl rfl hlast hlast' fun before _ n shares hlinked =>
    hlinked.exhausted ?_
  · show (u.session.reconfigure params).2.fixtures.filters.length =
      (c.session.reconfigure params).2.fixtures.filters.length
    rw [hleft.fixtures_eq, hright.fixtures_eq, hlength]
  · show p.inUse = 0
    simp [Pool.inUse, hnew]

/-- A jump leaves a session as it would be if it had just been set up, but for the surfaces that are
still out. -/
theorem sameFrom_jump {options : Options} {d e : Simulator} (hd : d.Unused) (he : e.Unused)
    (hcaps : e.caps = d.caps) (hcapacity : e.poolCapacity = d.poolCapacity)
    (hc : Reachable Injects options d c) (hu : Reachable Injects options e u)
    (hlength : u.session.fixtures.filters.length = c.session.fixtures.filters.length)
    (hswitch : u.session.deinterlacing = c.session.deinterlacing) {params out : StreamParams}
    (hparams : c.session.params = some params) (hinformed : c.session.Informed)
    (hset : (u.session.reconfigure params).1 = .ok out) {fresh : Custody Simulator}
    (hfresh : fresh = (u.renew params).withFailures c.session.device.failing) {ms : List Move}
    (hms : ∀ m ∈ ms, m.Continues) (hlast : c.jump.NumbersLast ms) (hlast' : fresh.NumbersLast ms)
    (hroom : ∀ before, before <+: ms → (c.jump.moves before).OutOfSurfaces →
      (fresh.moves before).OutOfSurfaces) : SameFrom ms c.jump fresh := by
  have hc' : Reachable Injects options d (c.next (.call .seek)) := hc.next trivial
  have hrenewed : Reachable Injects options e (u.next (.call (.reconfigure params))) :=
    hu.next trivial
  have hu' : Reachable Injects options e ((u.next (.call (.reconfigure params))).next
      (.call (.alter fun d => { d with failing := c.session.device.failing }))) :=
    hrenewed.next fun _ => ⟨_, rfl⟩
  obtain ⟨i, p, hp⟩ := hc'.furnished hparams
  obtain ⟨-, j, q, hnew, hfree, hq⟩ :=
    Session.furnished_reconfigure (Session.params_of_reconfigure hset)
  rw [hu.aged.capacity_eq] at hq
  have hright := u.session.renewed_reconfigure params
  have hself : c.session.Obeys c.session.fixtures
      (fun _ _ d => d.failing = c.session.device.failing) [] := ⟨rfl, rfl⟩
  have hleft := (hself.seek (upholds_failing _ _)).holds
  have hpoised := poised_of_reachable hd he hcaps hcapacity hc' hu' hleft.symm
    (hright.deinterlacing_eq.trans hswitch) rfl hright.flushed (Session.informed_seek hinformed)
    hright.unset hp ⟨hq.params_eq, hq.pool_eq, hq.desc_eq, hq.capacity_eq, hq.found⟩ hnew hfree ms
  subst hfresh
  refine hpoised.sameFrom ?_ hms rfl rfl rfl hlast hlast' ?_
  · show (u.session.reconfigure params).2.fixtures.filters.length =
      c.session.fixtures.filters.length
    rw [hright.fixtures_eq, hlength]
  · intro before hbefore n shares _ hfull
    have hgoing : ∀ m ∈ before, m.Continues := fun m hm => hms m (hbefore.subset hm)
    obtain ⟨j', hj', hfull'⟩ := hroom before hbefore
      ⟨i, (pool_moves hgoing).trans hp.pool_eq, hfull⟩
    rw [pool_moves hgoing] at hj'
    cases hj'.symm.trans hq.pool_eq
    exact hfull'

/-- **Reconfiguration and seeking erase the past.** Two sessions have been opened with the same
options on devices with the same settings, and have the same filters and the same switch. Whatever
has happened to them since, and whatever their callers still hold:

If the same calls fail from now on and the one session is set up for a stream, then so is the other,
nothing comes out until the next input, and the sessions do the same from then on.

If the one session is set up for a stream already, and the device would say the same about its
filters, then after a jump it does the same as the other session after that has been set up for the
stream, unless its pool runs out first. -/
theorem oblivious_of_reachable {options : Options} {d e : Simulator} (hd : d.Unused)
    (he : e.Unused) (hcaps : e.caps = d.caps) (hcapacity : e.poolCapacity = d.poolCapacity)
    {c u : Custody Simulator} (hc : Reachable Injects options d c)
    (hu : Reachable Injects options e u)
    (hmade : u.session.chain.descriptors.map (fun x => (x.filter, x.algorithm)) =
      c.session.chain.descriptors.map fun x => (x.filter, x.algorithm))
    (hswitch : u.session.deinterlacing = c.session.deinterlacing) (params : StreamParams) :
    (∀ out, u.session.device.failing = c.session.device.failing →
      (c.session.reconfigure params).1 = .ok out →
        (u.session.reconfigure params).1 = .ok out ∧
        (∀ ms : List Move, (∀ m ∈ ms, ∀ frame, m ≠ .input frame) →
          ∀ result, .delivered result ∈ (c.renew params).answers ms → result = .ok none) ∧
        ∀ ms : List Move, (∀ m ∈ ms, m.Continues) → (c.renew params).NumbersLast ms →
          (u.renew params).NumbersLast ms → SameFrom ms (c.renew params) (u.renew params)) ∧
    (c.session.params = some params → c.session.Informed →
      ∀ out, (u.session.reconfigure params).1 = .ok out →
        (∀ ms : List Move, (∀ m ∈ ms, ∀ frame, m ≠ .input frame) →
          ∀ result, .delivered result ∈ c.jump.answers ms → result = .ok none) ∧
        ∀ (ms : List Move) (fresh : Custody Simulator),
          fresh = (u.renew params).withFailures c.session.device.failing →
          (∀ m ∈ ms, m.Continues) → c.jump.NumbersLast ms → fresh.NumbersLast ms →
          (∀ before, before <+: ms → (c.jump.moves before).OutOfSurfaces →
            (fresh.moves before).OutOfSurfaces) → SameFrom ms c.jump fresh) := by
  have hlength : u.session.fixtures.filters.length = c.session.fixtures.filters.length := by
    have hsame := congrArg List.length hmade
    rw [List.length_map, List.length_map] at hsame
    show (u.session.chain.descriptors.map (·.buffer)).length =
      (c.session.chain.descriptors.map (·.buffer)).length
    rw [List.length_map, List.length_map, hsame]
  refine ⟨fun out hfailing hset => ⟨?_, ?_, ?_⟩, fun hparams hinformed out hset => ⟨?_, ?_⟩⟩
  · exact (Session.reconfigure_congr hfailing params).trans hset
  · have hcleared : (c.renew params).Cleared :=
      ⟨(c.session.renewed_reconfigure params).flushed, rfl⟩
    exact fun ms hms result => hcleared.eq_none_of_delivered hms
  · exact fun ms hms hlast hlast' =>
      sameFrom_renew hd he hcaps hcapacity hc hu hlength hfailing hswitch hset hms hlast hlast'
  · have hcleared : c.jump.Cleared := ⟨rfl, rfl⟩
    exact fun ms hms result => hcleared.eq_none_of_delivered hms
  · exact fun ms fresh hfresh hms hlast hlast' hroom =>
      sameFrom_jump hd he hcaps hcapacity hc hu hlength hswitch hparams hinformed hset hfresh hms
        hlast hlast' hroom

/-- A frame of two fields, and a picture of the first of them. -/
def nextFrame : List Move :=
  [.input (some { Frame.decoded ⟨2⟩ 720 576 with fields := ⟨3⟩ }), .output]

theorem continues_nextFrame : ∀ m ∈ nextFrame, m.Continues := by
  intro m hm
  rcases List.mem_cons.1 hm with rfl | hm
  · intro f hf
    cases hf
    rfl
  · rw [List.mem_singleton.1 hm]
    trivial

/-- A session that has had two streams, with a picture of the first one still in its window and
another copy with the caller, beside one that has just been opened. -/
theorem oblivious_of_relay : ∃ c u : Custody Simulator,
    Reachable Injects {} {} c ∧ Reachable Injects {} {} u ∧
    c.frames.map (·.surfaceId) = [⟨0x13⟩, ⟨0x13⟩] ∧ u.frames.map (·.surfaceId) = [] ∧
    SameFrom nextFrame (c.renew (.hardware 720 576 720 576))
      (u.renew (.hardware 720 576 720 576)) ∧
    SameFrom nextFrame c.jump
      ((u.renew (.hardware 720 576 720 576)).withFailures c.session.device.failing) := by
  obtain ⟨s, hs⟩ : ∃ s, Session.open? {} ({} : Simulator) = .ok s := ⟨_, rfl⟩
  have hu : Reachable Injects {} {} { session := s } := .opened hs
  have hc : Reachable Injects {} {} (act { session := s } relay) := hu.act (permits_relay _)
  have hd : ({} : Simulator).Unused := ⟨rfl, rfl, rfl, rfl, rfl, rfl⟩
  cases hs
  obtain ⟨hrenew, hjump⟩ := oblivious_of_reachable hd hd rfl rfl hc hu rfl rfl
    (.hardware 720 576 720 576)
  refine ⟨_, _, hc, hu, by decide, by decide, ?_, ?_⟩
  · exact (hrenew _ rfl rfl).2.2 nextFrame continues_nextFrame (by decide) (by decide)
  · refine (hjump rfl ?_ _ rfl).2 nextFrame _ rfl continues_nextFrame (by decide) (by decide) ?_
    · rintro key hkey -
      cases hkey
      rfl
    · simp only [← List.mem_inits]
      decide

end Custody

end Deinterlace
