import Deinterlace.Proofs.Session.Custody
import Deinterlace.Proofs.Simulator.Effects

/-!
# What stays as it was made

A simulated device keeps its settings, and a pool keeps its layout and its capacity
(`Simulator.Aged`). So the pool of a session is what the stream needs that the session is set up for
(`Custody.Reachable.furnished`).
-/
namespace Deinterlace

namespace Simulator

/-- A device, and the same device at a later time. -/
structure Aged (d later : Simulator) : Prop where
  caps_eq : later.caps = d.caps
  capacity_eq : later.poolCapacity = d.poolCapacity
  nextId_le : d.nextId ≤ later.nextId
  pools : ∀ (i : PoolId) (p : Pool), d.pools[i]? = some p →
    ∃ q, later.pools[i]? = some q ∧ q.desc = p.desc ∧ q.capacity = p.capacity

namespace Aged

variable {d middle later : Simulator}

theorem refl (d : Simulator) : d.Aged d :=
  ⟨rfl, rfl, Nat.le_refl _, fun _ p hp => ⟨p, hp, rfl, rfl⟩⟩

theorem trans (h : d.Aged middle) (h' : middle.Aged later) : d.Aged later where
  caps_eq := h'.caps_eq.trans h.caps_eq
  capacity_eq := h'.capacity_eq.trans h.capacity_eq
  nextId_le := Nat.le_trans h.nextId_le h'.nextId_le
  pools i p hp := by
    obtain ⟨q, hq, hdesc, hcapacity⟩ := h.pools i p hp
    obtain ⟨r, hr, hdesc', hcapacity'⟩ := h'.pools i q hq
    exact ⟨r, hr, hdesc'.trans hdesc, hcapacity'.trans hcapacity⟩

/-- Most calls leave the pools alone. -/
theorem of_pools (hcaps : later.caps = d.caps) (hcapacity : later.poolCapacity = d.poolCapacity)
    (hle : d.nextId ≤ later.nextId) (hpools : later.pools = d.pools) : d.Aged later :=
  ⟨hcaps, hcapacity, hle, fun _ p hp => ⟨p, hpools ▸ hp, rfl, rfl⟩⟩

theorem modifyPool (d : Simulator) (i : PoolId) (change : Pool → Pool)
    (hdesc : ∀ p, (change p).desc = p.desc) (hcapacity : ∀ p, (change p).capacity = p.capacity) :
    d.Aged (d.modifyPool i change) := by
  refine ⟨rfl, rfl, Nat.le_refl _, fun j p hp => ?_⟩
  simp only [Simulator.modifyPool, List.getElem?_modify, hp]
  by_cases hj : i = j
  · exact ⟨change p, by simp [hj], hdesc p, hcapacity p⟩
  · exact ⟨p, by simp [hj], rfl, rfl⟩

theorem submit (context : ContextId) (buffer : Option BufferId) (flags : DeintFlags)
    (request : RenderRequest) (d : Simulator) :
    d.Aged (Rendering.submit context buffer flags request d).2 := by
  refine Rendering.submit_induction ?_ ?_ ?_ ?_ ?_ ?_ buffer flags request (refl d)
  · intro target e he
    rcases beginPicture_cases context e target with ⟨error, heq⟩ | heq <;> rw [heq]
    · exact he
    · exact he.trans (of_pools rfl rfl (Nat.le_refl _) rfl)
  · intro id flags e he
    rcases updateFlags_cases e id flags with ⟨error, heq⟩ | heq <;> rw [heq]
    · exact he
    · exact he.trans (of_pools rfl rfl (Nat.le_refl _) rfl)
  · intro request e he
    rcases createRequest_cases context e request with ⟨error, heq⟩ | heq <;> rw [heq]
    · exact he
    · exact he.trans (of_pools rfl rfl (Nat.le_succ _) rfl)
  · intro ids e he
    obtain ⟨rendered, heq⟩ := renderPicture_snd context e ids
    rw [heq]
    exact he.trans (of_pools rfl rfl (Nat.le_refl _) rfl)
  · intro e he
    rw [endPicture_snd]
    split
    · exact he.trans (of_pools rfl rfl (Nat.le_refl _) rfl)
    · exact he
  · intro id e he
    exact he.trans (of_pools rfl rfl (Nat.le_refl _) rfl)

end Aged

theorem upholds_aged (u : Fixtures) (d : Simulator) :
    Device.Upholds u (fun _ _ later => d.Aged later) where
  perm _ h := h
  retain _ h := h.trans (.of_pools rfl rfl (Nat.le_refl _) rfl)
  release := by
    intro pool held share e h
    show d.Aged (Simulator.release share.lease e)
    unfold Simulator.release
    rcases e.leases.release? share.lease with ⟨_ | lease, leases⟩
    · exact h.trans (.of_pools rfl rfl (Nat.le_refl _) rfl)
    · have hreturned : e.Aged { e with leases := leases } :=
        .of_pools rfl rfl (Nat.le_refl _) rfl
      exact h.trans (hreturned.trans (.modifyPool _ _ _ (fun _ => rfl) fun _ => rfl))
  queryCaps := by
    intro pool held filters e _ h
    rw [queryCaps_eq]
    exact h.trans (.of_pools rfl rfl (Nat.le_refl _) rfl)
  createPool := by
    intro held desc e h
    rcases createPool_cases e desc with ⟨error, heq⟩ | heq <;> rw [heq]
    · exact h
    · refine h.trans ⟨rfl, rfl, Nat.le_refl _, fun i p hp => ⟨p, ?_, rfl, rfl⟩⟩
      have hlt := (List.getElem?_eq_some_iff.1 hp).1
      exact (List.getElem?_append_left hlt).trans hp
  closePool h := h.trans (.of_pools rfl rfl (Nat.le_refl _) rfl)
  allocate := by
    intro pool held e h
    rcases allocate_cases e pool with ⟨error, heq, -⟩ | ⟨p, id, rest, -, -, -, heq⟩ |
      ⟨p, -, -, -, -, heq⟩ <;> rw [heq]
    · exact h
    · have hlent := Aged.modifyPool e pool (fun p => { p with free := rest }) (fun _ => rfl)
        fun _ => rfl
      exact h.trans (hlent.trans (.of_pools rfl rfl (Nat.le_refl _) rfl))
    · have hlent := Aged.modifyPool e pool (fun p => { p with allocated := p.allocated + 1 })
        (fun _ => rfl) fun _ => rfl
      exact h.trans (hlent.trans (.of_pools rfl rfl (Nat.le_succ _) rfl))
  upload := by
    intro pool held target frame e h
    rcases upload_cases e pool target frame with ⟨error, heq⟩ | heq <;> rw [heq]
    · exact h
    · exact h.trans (.of_pools rfl rfl (Nat.le_refl _) rfl)
  submit flags request _ _ h := h.trans (.submit _ _ flags request _)

/-- Which calls fail is not for a session to change. -/
theorem upholds_failing (u : Fixtures) (failing : List EntryPoint) :
    Device.Upholds u fun _ _ (d : Simulator) => d.failing = failing where
  perm _ h := h
  retain _ h := h
  release := by
    intro pool held share d h
    show (release share.lease d).failing = failing
    unfold release
    rcases d.leases.release? share.lease with ⟨_ | lease, leases⟩ <;> exact h
  queryCaps := by
    intro pool held filters d _ h
    rw [queryCaps_eq]
    exact h
  createPool := by
    intro held desc d h
    rcases createPool_cases d desc with ⟨e, heq⟩ | heq <;> rw [heq] <;> exact h
  closePool h := h
  allocate := by
    intro pool held d h
    rcases allocate_cases d pool with ⟨e, heq, -⟩ | ⟨q, id, rest, -, -, -, heq⟩ |
      ⟨q, -, -, -, -, heq⟩ <;> rw [heq] <;> exact h
  upload := by
    intro pool held target frame d h
    rcases upload_cases d pool target frame with ⟨e, heq⟩ | heq <;> rw [heq] <;> exact h
  submit := by
    intro pool held buffer flags request d _ h
    exact (quiet_submit u.context buffer flags request d).failing_eq.trans h

theorem aged_of_injects {change : Simulator → Simulator} (h : Injects change) (d : Simulator) :
    d.Aged (change d) := by
  obtain ⟨failing, heq⟩ := h d
  rw [heq]
  exact .of_pools rfl rfl (Nat.le_refl _) rfl

theorem aged_of_open {options : Options} {d : Simulator} {s : Session Simulator}
    (h : Session.open? options d = .ok s) : d.Aged s.device := by
  refine Session.open_induction h ?_ ?_ ?_ ?_ ?_ (.refl d)
  · intro e he
    rcases createConfig_cases e with ⟨error, heq⟩ | heq <;> rw [heq]
    · exact he
    · exact he.trans (.of_pools rfl rfl (Nat.le_succ _) rfl)
  · intro config e he
    rcases createContext_cases e config with ⟨error, heq⟩ | heq <;> rw [heq]
    · exact he
    · exact he.trans (.of_pools rfl rfl (Nat.le_succ _) rfl)
  · intro context e he
    rw [queryFilters_snd]
    exact he.trans (.of_pools rfl rfl (Nat.le_refl _) rfl)
  · intro context e he
    rw [queryAlgorithms_snd]
    exact he.trans (.of_pools rfl rfl (Nat.le_refl _) rfl)
  · intro context algorithm e he
    rcases createFilter_cases context e algorithm {} with ⟨error, next, hle, heq⟩ | heq <;>
      rw [heq]
    · exact he.trans (.of_pools rfl rfl hle rfl)
    · exact he.trans (.of_pools rfl rfl (Nat.le_succ _) rfl)

end Simulator

namespace Custody

open Simulator

variable {options : Options} {d : Simulator} {c : Custody Simulator}

theorem aged_next {deed : Deed Simulator} (hdeed : c.Permits Injects deed) :
    c.session.device.Aged (c.next deed).session.device := by
  have hself : c.session.Obeys c.session.fixtures (fun _ _ e => c.session.device.Aged e) c.held :=
    ⟨rfl, .refl _⟩
  exact (obeys_next (upholds_aged _ _)
    (fun change hchange _ _ e he => he.trans (aged_of_injects hchange e)) hself hdeed).holds

theorem Reachable.aged (h : Reachable Injects options d c) : d.Aged c.session.device := by
  induction h with
  | opened hopen => exact aged_of_open hopen
  | next _ hdeed ih => exact ih.trans (aged_next hdeed)

/-- Only setting a session up gives it another stream and another pool. -/
theorem params_next {σ : Type} [Device σ] {c : Custody σ} {deed : Deed σ}
    (h : ∀ params, deed ≠ .call (.reconfigure params)) :
    (c.next deed).session.params = c.session.params ∧
      (c.next deed).session.pool = c.session.pool := by
  have hinput : ∀ frame, (c.session.input frame).2.params = c.session.params ∧
      (c.session.input frame).2.pool = c.session.pool := by
    intro frame
    rcases c.session.input_cases frame with ⟨-, heq⟩ | ⟨given, -, -, heq⟩ |
      ⟨given, uploaded, device, -, -, heq⟩ | ⟨given, e, device, -, -, heq⟩ <;> rw [heq] <;>
      exact ⟨rfl, rfl⟩
  have houtput : c.session.output.2.params = c.session.params ∧
      c.session.output.2.pool = c.session.pool := by
    rcases c.session.output_cases with ⟨-, heq⟩ | ⟨frame, -, -, -, heq⟩ |
      ⟨frame, picture, device, stats, -, -, -, -, heq⟩ <;> rw [heq] <;> exact ⟨rfl, rfl⟩
  cases deed with
  | call call =>
    cases call with
    | input frame => exact hinput frame
    | output => exact houtput
    | take =>
      obtain ⟨-, device, heq⟩ := c.session.take_cases
      show c.session.take.2.params = _ ∧ c.session.take.2.pool = _
      rw [heq]
      exact houtput
    | seek => exact ⟨rfl, rfl⟩
    | switch on =>
      show (c.session.setDeinterlacing on).2.params = _ ∧
        (c.session.setDeinterlacing on).2.pool = _
      unfold Session.setDeinterlacing
      split <;> exact ⟨rfl, rfl⟩
    | reconfigure params => exact absurd rfl (h params)
    | alter change => exact ⟨rfl, rfl⟩
  | give place =>
    simp only [next]
    split
    · exact hinput _
    · exact ⟨rfl, rfl⟩
  | share place =>
    simp only [next]
    split <;> exact ⟨rfl, rfl⟩
  | drop place =>
    simp only [next]
    split <;> exact ⟨rfl, rfl⟩
  | revise place frame => exact ⟨rfl, rfl⟩

end Custody

/-! ## The pool of a session -/

namespace Session

/-- The pool is what the stream needs, and as large as the device makes them. -/
structure Furnished (s : Session Simulator) (params : StreamParams) (capacity : Nat) (i : PoolId)
    (p : Simulator.Pool) : Prop where
  params_eq : s.params = some params
  pool_eq : s.pool = some i
  desc_eq : poolFor params = some p.desc
  capacity_eq : p.capacity = capacity
  found : s.device.pools[i]? = some p

variable {s : Session Simulator} {params : StreamParams}

/-- A session that has been set up has a pool whose surfaces are all still to be made. -/
theorem furnished_reconfigure {later : StreamParams}
    (h : (s.reconfigure params).2.params = some later) :
    later = params ∧ ∃ i p, p.allocated = 0 ∧ p.free = [] ∧
      (s.reconfigure params).2.Furnished params s.device.poolCapacity i p := by
  have hself : s.Obeys s.fixtures (fun _ _ e => s.device.Aged e) [] := ⟨rfl, .refl _⟩
  have hcapacity := (hself.forget (Simulator.upholds_aged _ _)).1.holds.capacity_eq
  rcases s.reconfigure_cases params with ⟨e, device, heq⟩ | ⟨desc, pool, device, hdesc, hmade, heq⟩
  · rw [heq] at h
    have hnone : s.forget.params = some later := h
    unfold forget at hnone
    cases hnone
  · rcases Simulator.createPool_cases s.forget.device desc with ⟨e, hfailed⟩ | hworked
    · cases hmade.symm.trans hfailed
    · cases hmade.symm.trans hworked
      rw [heq] at h ⊢
      cases h
      exact ⟨rfl, _, _, rfl, rfl, rfl, rfl, hdesc, hcapacity, List.getElem?_concat_length⟩

theorem params_of_reconfigure {out : StreamParams} (h : (s.reconfigure params).1 = .ok out) :
    (s.reconfigure params).2.params = some params := by
  rcases s.reconfigure_cases params with ⟨e, device, heq⟩ | ⟨desc, pool, device, hdesc, hmade, heq⟩
  · rw [heq] at h
    cases h
  · rw [heq]

end Session

/-- In whatever state a session is, its pool is what the stream needs that it is set up for. -/
theorem Custody.Reachable.furnished {options : Options} {d : Simulator} {c : Custody Simulator}
    (h : Reachable Simulator.Injects options d c) {params : StreamParams}
    (hparams : c.session.params = some params) :
    ∃ i p, c.session.Furnished params d.poolCapacity i p := by
  induction h with
  | opened hopen =>
    obtain ⟨config, d₁, context, d₂, available, d₃, descriptors, later, -, -, -, -, rfl⟩ :=
      Session.eq_of_open hopen
    cases hparams
  | @next c deed hc hdeed ih =>
    by_cases hset : ∃ params, deed = .call (.reconfigure params)
    · obtain ⟨other, rfl⟩ := hset
      obtain ⟨rfl, i, p, -, -, hfurnished⟩ := Session.furnished_reconfigure hparams
      exact ⟨i, p, { hfurnished with
        capacity_eq := hfurnished.capacity_eq.trans hc.aged.capacity_eq }⟩
    · obtain ⟨hsame, hpool⟩ := params_next (c := c) fun params heq => hset ⟨params, heq⟩
      obtain ⟨i, p, hfurnished⟩ := ih (hsame ▸ hparams)
      obtain ⟨q, hq, hdesc, hcapacity⟩ := (aged_next hdeed).pools i p hfurnished.found
      exact ⟨i, q, hparams, hpool.trans hfurnished.pool_eq, hdesc ▸ hfurnished.desc_eq,
        hcapacity.trans hfurnished.capacity_eq, hq⟩

end Deinterlace
