import Deinterlace.Device.Simulator
import Mathlib.Data.List.Perm.Basic

/-!
# Lifetimes in a log

The log of a simulated device tells when objects are made, referred to and destroyed. A log is
`InOrder` if nothing is referred to that is not there, and `Kept` says, besides, what is there at
the end of it. A log at whose end nothing is there is `Tidy` (`Kept.tidy`).
-/
namespace Deinterlace.Simulator

/-- What is made on a device and destroyed again, apart from pools. -/
inductive Resource
  | config (id : ConfigId)
  | context (id : ContextId)
  | buffer (id : BufferId)
deriving DecidableEq, Repr

namespace Resource

def number : Resource → Nat
  | config id => id.value
  | context id => id.value
  | buffer id => id.value

def buffer? : Resource → Option BufferId
  | buffer id => some id
  | _ => none

end Resource

namespace Call

def makes? : Call → Option Resource
  | createConfig id => some (.config id)
  | createContext id => some (.context id)
  | createFilter id => some (.buffer id)
  | createRequest id => some (.buffer id)
  | _ => none

def destroys? : Call → Option Resource
  | destroyConfig id => some (.config id)
  | destroyContext id => some (.context id)
  | destroyBuffer id => some (.buffer id)
  | _ => none

/-- What a call that destroys nothing refers to. -/
def uses : Call → List Resource
  | updateFlags id _ => [.buffer id]
  | queryCaps filters => filters.map .buffer
  | renderPicture ids => ids.map .buffer
  | _ => []

def names (c : Call) : List Resource := c.makes?.toList ++ c.destroys?.toList ++ c.uses

/-- Whether a call that concerns the pool sets one up or gives it up. -/
def opensPool? : Call → Option Bool
  | createPool _ => some true
  | closePool => some false
  | _ => none

theorem destroys?_of_makes? {c : Call} {r : Resource} (h : c.makes? = some r) :
    c.destroys? = none := by
  cases c <;> first | rfl | cases h

end Call

/-- The resource has been made in the log and not destroyed. -/
def Live (log : List Call) (r : Resource) : Prop :=
  (∃ call ∈ log, call.makes? = some r) ∧ ∀ call ∈ log, call.destroys? ≠ some r

/-- After the log, the call makes nothing that there has been before, and refers only to what is
there. -/
structure Due (log : List Call) (call : Call) : Prop where
  fresh : ∀ r, call.makes? = some r → ∀ earlier ∈ log, earlier.makes? ≠ some r
  destroyed : ∀ r, call.destroys? = some r → Live log r
  used : ∀ r ∈ call.uses, Live log r

def InOrder (log : List Call) : Prop :=
  ∀ before call after, log = before ++ call :: after → Due before call

/-- Every resource that is made is destroyed exactly once, and afterwards; none is named after it
has been destroyed; and pools are set up and given up in turn, one at a time. -/
structure Tidy (log : List Call) : Prop where
  destroyed_once : ∀ before call after r, log = before ++ call :: after → call.makes? = some r →
    before.countP (·.destroys? = some r) = 0 ∧ after.countP (·.destroys? = some r) = 1
  unnamed : ∀ before call after r, log = before ++ call :: after → call.destroys? = some r →
    ∀ later ∈ after, r ∉ later.names
  pools : ∃ n, log.filterMap Call.opensPool? = (List.replicate n [true, false]).flatten

variable {log : List Call} {call : Call} {r : Resource}

theorem live_concat : Live (log ++ [call]) r ↔
    (Live log r ∨ call.makes? = some r ∧ ∀ earlier ∈ log, earlier.destroys? ≠ some r) ∧
      call.destroys? ≠ some r := by
  unfold Live
  constructor
  · rintro ⟨⟨made, hmem, hmade⟩, hnot⟩
    have hlog : ∀ earlier ∈ log, earlier.destroys? ≠ some r :=
      fun earlier hearlier => hnot earlier (List.mem_append_left _ hearlier)
    refine ⟨?_, hnot call (by simp)⟩
    rcases List.mem_append.1 hmem with hmem | hmem
    · exact .inl ⟨⟨made, hmem, hmade⟩, hlog⟩
    · rw [List.mem_singleton.1 hmem] at hmade
      exact .inr ⟨hmade, hlog⟩
  · rintro ⟨hlive, hcall⟩
    have hlog : ∀ earlier ∈ log, earlier.destroys? ≠ some r := hlive.elim (·.2) (·.2)
    refine ⟨?_, fun earlier hearlier => ?_⟩
    · rcases hlive with ⟨⟨made, hmem, hmade⟩, -⟩ | ⟨hmade, -⟩
      · exact ⟨made, List.mem_append_left _ hmem, hmade⟩
      · exact ⟨call, by simp, hmade⟩
    · rcases List.mem_append.1 hearlier with hearlier | hearlier
      · exact hlog earlier hearlier
      · rw [List.mem_singleton.1 hearlier]
        exact hcall

namespace InOrder

theorem concat (h : InOrder log) (hcall : Due log call) : InOrder (log ++ [call]) := by
  intro before entry after heq
  rcases List.eq_nil_or_concat after with rfl | ⟨others, last, rfl⟩
  · obtain ⟨rfl, hentry⟩ := List.append_inj' heq rfl
    cases hentry
    exact hcall
  · rw [List.concat_eq_append, ← List.cons_append, ← List.append_assoc] at heq
    obtain ⟨hlog, -⟩ := List.append_inj' heq rfl
    exact h before entry others hlog

theorem exists_made (h : InOrder log) {entry : Call} (hentry : entry ∈ log)
    (hdestroys : entry.destroys? = some r) : ∃ made ∈ log, made.makes? = some r := by
  obtain ⟨before, after, rfl⟩ := List.mem_iff_append.1 hentry
  obtain ⟨⟨made, hmem, hmade⟩, -⟩ := (h before entry after rfl).destroyed r hdestroys
  exact ⟨made, List.mem_append_left _ hmem, hmade⟩

section Split

variable {before after : List Call} {entry : Call}

theorem undestroyed_before (h : InOrder (before ++ entry :: after))
    (hmakes : entry.makes? = some r) : ∀ earlier ∈ before, earlier.destroys? ≠ some r := by
  intro earlier hearlier hdestroys
  obtain ⟨first, rest, rfl⟩ := List.mem_iff_append.1 hearlier
  obtain ⟨⟨made, hmem, hmade⟩, -⟩ :=
    (h first earlier (rest ++ entry :: after) (by simp)).destroyed r hdestroys
  exact (h _ entry after rfl).fresh r hmakes made (List.mem_append_left _ hmem) hmade

theorem unnamed_after (h : InOrder (before ++ entry :: after))
    (hdestroys : entry.destroys? = some r) : ∀ later ∈ after, r ∉ later.names := by
  intro later hlater hnames
  obtain ⟨first, rest, rfl⟩ := List.mem_iff_append.1 hlater
  have hdue := h (before ++ entry :: first) later rest (by simp)
  -- it is not there any more, and what has been made once is not made again
  have hdead : ¬ Live (before ++ entry :: first) r := fun hlive =>
    hlive.2 entry (by simp) hdestroys
  obtain ⟨⟨made, hmem, hmade⟩, -⟩ := (h before entry _ rfl).destroyed r hdestroys
  rcases List.mem_append.1 hnames with hnames | huses
  · rcases List.mem_append.1 hnames with hmakes | hagain
    · exact hdue.fresh r (Option.mem_toList.1 hmakes) made (List.mem_append_left _ hmem) hmade
    · exact hdead (hdue.destroyed r (Option.mem_toList.1 hagain))
  · exact hdead (hdue.used r huses)

end Split

end InOrder

/-- The log is in order, `live` is what is there at the end of it, and `isOpen` tells whether there
is a pool. -/
structure Kept (live : List Resource) (isOpen : Bool) (log : List Call) : Prop where
  inOrder : InOrder log
  live_iff : ∀ r, Live log r ↔ r ∈ live
  nodup : live.Nodup
  pools : ∃ n, log.filterMap Call.opensPool? =
    (List.replicate n [true, false]).flatten ++ if isOpen then [true] else []

namespace Kept

variable {live : List Resource} {isOpen : Bool}

theorem nil : Kept [] false [] where
  inOrder before call after heq := by simp at heq
  live_iff r := by simp [Live]
  nodup := List.nodup_nil
  pools := ⟨0, rfl⟩

theorem perm (h : Kept live isOpen log) {others : List Resource} (hperm : live.Perm others) :
    Kept others isOpen log :=
  ⟨h.inOrder, fun r => (h.live_iff r).trans hperm.mem_iff, hperm.nodup_iff.1 h.nodup, h.pools⟩

theorem pools_concat (h : Kept live isOpen log) (hcall : call.opensPool? = none) :
    ∃ n, (log ++ [call]).filterMap Call.opensPool? =
      (List.replicate n [true, false]).flatten ++ if isOpen then [true] else [] := by
  obtain ⟨n, hn⟩ := h.pools
  refine ⟨n, ?_⟩
  rw [List.filterMap_append, hn, List.filterMap_cons_none hcall, List.filterMap_nil,
    List.append_nil]

theorem passing (h : Kept live isOpen log) (hmakes : call.makes? = none)
    (hdestroys : call.destroys? = none) (huses : ∀ r ∈ call.uses, r ∈ live) :
    InOrder (log ++ [call]) ∧ ∀ r, Live (log ++ [call]) r ↔ r ∈ live := by
  refine ⟨h.inOrder.concat ⟨?_, ?_, ?_⟩, fun r => ?_⟩
  · intro r hr
    cases hmakes.symm.trans hr
  · intro r hr
    cases hdestroys.symm.trans hr
  · intro r hr
    exact (h.live_iff r).2 (huses r hr)
  · rw [live_concat, ← h.live_iff, hmakes, hdestroys]
    simp

theorem noted (h : Kept live isOpen log) (hmakes : call.makes? = none)
    (hdestroys : call.destroys? = none) (hpool : call.opensPool? = none)
    (huses : ∀ r ∈ call.uses, r ∈ live) : Kept live isOpen (log ++ [call]) := by
  obtain ⟨hinOrder, hlive⟩ := h.passing hmakes hdestroys huses
  exact ⟨hinOrder, hlive, h.nodup, h.pools_concat hpool⟩

/-- A pool is set up when there is none, and given up when there is one. -/
theorem pooled (h : Kept live (!isOpen) log) (hpool : call.opensPool? = some isOpen) :
    Kept live isOpen (log ++ [call]) := by
  have hcall : call.makes? = none ∧ call.destroys? = none ∧ call.uses = [] := by
    cases call <;> first | exact ⟨rfl, rfl, rfl⟩ | cases hpool
  obtain ⟨hmakes, hdestroys, huses⟩ := hcall
  obtain ⟨hinOrder, hlive⟩ := h.passing hmakes hdestroys (by simp [huses])
  obtain ⟨n, hn⟩ := h.pools
  have hlog : (log ++ [call]).filterMap Call.opensPool? =
      (List.replicate n [true, false]).flatten ++ (if !isOpen then [true] else []) ++ [isOpen] := by
    rw [List.filterMap_append, hn, List.filterMap_cons_some hpool, List.filterMap_nil]
  refine ⟨hinOrder, hlive, h.nodup, ?_⟩
  cases isOpen with
  | true => exact ⟨n, by rw [hlog]; simp⟩
  | false => exact ⟨n + 1, by rw [hlog, List.replicate_succ']; simp⟩

theorem made (h : Kept live isOpen log) (hmakes : call.makes? = some r)
    (hfresh : ∀ earlier ∈ log, earlier.makes? ≠ some r) :
    Kept (r :: live) isOpen (log ++ [call]) := by
  have hdestroys := Call.destroys?_of_makes? hmakes
  -- what has not been made has not been destroyed either
  have hnever : ∀ earlier ∈ log, earlier.destroys? ≠ some r := by
    intro earlier hearlier hearlier'
    obtain ⟨made, hmem, hmade⟩ := h.inOrder.exists_made hearlier hearlier'
    exact hfresh made hmem hmade
  have huses : call.uses = [] := by cases call <;> first | rfl | cases hmakes
  have hpool : call.opensPool? = none := by cases call <;> first | rfl | cases hmakes
  refine ⟨h.inOrder.concat ⟨?_, ?_, ?_⟩, fun other => ?_, ?_, h.pools_concat hpool⟩
  · intro other hother
    cases hmakes.symm.trans hother
    exact hfresh
  · intro other hother
    cases hdestroys.symm.trans hother
  · simp [huses]
  · rw [live_concat, hdestroys, hmakes, List.mem_cons, Option.some_inj]
    constructor
    · rintro ⟨hlive | ⟨rfl, -⟩, -⟩
      · exact .inr ((h.live_iff other).1 hlive)
      · exact .inl rfl
    · rintro (rfl | hlive)
      · exact ⟨.inr ⟨rfl, hnever⟩, nofun⟩
      · exact ⟨.inl ((h.live_iff other).2 hlive), nofun⟩
  · refine List.nodup_cons.2 ⟨fun hmem => ?_, h.nodup⟩
    obtain ⟨⟨made, hlog, hmade⟩, -⟩ := (h.live_iff r).2 hmem
    exact hfresh made hlog hmade

theorem destroyed (h : Kept (r :: live) isOpen log) (hdestroys : call.destroys? = some r) :
    Kept live isOpen (log ++ [call]) := by
  obtain ⟨hnot, hnodup⟩ := List.nodup_cons.1 h.nodup
  have hmakes : call.makes? = none := by cases call <;> first | rfl | cases hdestroys
  have huses : call.uses = [] := by cases call <;> first | rfl | cases hdestroys
  have hpool : call.opensPool? = none := by cases call <;> first | rfl | cases hdestroys
  refine ⟨h.inOrder.concat ⟨?_, ?_, ?_⟩, fun other => ?_, hnodup, h.pools_concat hpool⟩
  · intro other hother
    cases hmakes.symm.trans hother
  · intro other hother
    cases hdestroys.symm.trans hother
    exact (h.live_iff r).2 List.mem_cons_self
  · simp [huses]
  · rw [live_concat, h.live_iff, hmakes, hdestroys, List.mem_cons, ne_eq, Option.some_inj]
    constructor
    · rintro ⟨(rfl | hlive) | ⟨hnone, -⟩, hne⟩
      · exact absurd rfl hne
      · exact hlive
      · cases hnone
    · intro hlive
      exact ⟨.inl (.inr hlive), fun heq => hnot (heq ▸ hlive)⟩

theorem destroyAll {calls : List Call} {gone : List Resource}
    (hcalls : List.Forall₂ (fun call r => call.destroys? = some r) calls gone)
    (h : Kept (gone ++ live) isOpen log) : Kept live isOpen (log ++ calls) := by
  induction hcalls generalizing log with
  | nil => rwa [List.append_nil]
  | @cons call r calls gone hdestroys _ ih =>
    rw [List.append_cons]
    exact ih (h.destroyed hdestroys)

/-- **A log at whose end nothing is there is tidy.** -/
theorem tidy (h : Kept [] false log) : Tidy log where
  destroyed_once := by
    rintro before entry after r rfl hmakes
    have hbefore := h.inOrder.undestroyed_before hmakes
    refine ⟨List.countP_eq_zero.2
      fun earlier hearlier => by simpa using hbefore earlier hearlier, ?_⟩
    -- the resource is gone at the end, so one of the later calls destroys it
    obtain ⟨last, hlast, hdestroys⟩ : ∃ last ∈ after, last.destroys? = some r := by
      by_contra hnone
      have hlive : Live (before ++ entry :: after) r := by
        refine ⟨⟨entry, by simp, hmakes⟩, fun other hother hdestroys => ?_⟩
        rcases List.mem_append.1 hother with hother | hother
        · exact hbefore other hother hdestroys
        · rcases List.mem_cons.1 hother with rfl | hother
          · cases (Call.destroys?_of_makes? hmakes).symm.trans hdestroys
          · exact hnone ⟨other, hother, hdestroys⟩
      cases (h.live_iff r).1 hlive
    obtain ⟨first, rest, rfl⟩ := List.mem_iff_append.1 hlast
    have hinOrder : InOrder ((before ++ entry :: first) ++ last :: rest) := by
      simpa using h.inOrder
    have hfirst : first.countP (·.destroys? = some r) = 0 := by
      refine List.countP_eq_zero.2 fun earlier hearlier => ?_
      have hnot := (hinOrder _ last rest rfl).destroyed r hdestroys
      simpa using hnot.2 earlier (by simp [hearlier])
    have hrest : rest.countP (·.destroys? = some r) = 0 := by
      refine List.countP_eq_zero.2 fun later hlater hagain => ?_
      refine hinOrder.unnamed_after hdestroys later hlater ?_
      have hsome : later.destroys? = some r := by simpa using hagain
      simp [Call.names, hsome]
    simp [hfirst, hrest, hdestroys]
  unnamed := by
    rintro before entry after r rfl hdestroys
    exact h.inOrder.unnamed_after hdestroys
  pools := by
    obtain ⟨n, hn⟩ := h.pools
    exact ⟨n, by rw [hn]; simp⟩

end Kept

end Deinterlace.Simulator
