import Deinterlace.Proofs.Simulator.Ledger

/-!
# Taking a session apart

Whatever has been done with a session on a simulated device, and whatever has failed, once it is
closed the log is tidy: everything that was made has been destroyed, once, and nothing has been
named after that. The same holds of a session that could not be opened
(`Custody.tidy_of_reachable`).
-/
namespace Deinterlace

namespace Session

/-- How opening fails: with the configuration, the context or the list of the filters. -/
theorem eq_of_open_error {σ : Type} [Device σ] {options : Options} {device later : σ}
    {error : Error}
    (h : open? options device = .error (error, later)) :
    (∃ e d₁, Device.createConfig device = (.error e, d₁) ∧ later = Device.close d₁) ∨
    (∃ config d₁ e d₂, Device.createConfig device = (.ok config, d₁) ∧
      Device.createContext config d₁ = (.error e, d₂) ∧
      later = Device.close (Device.destroyConfig config d₂)) ∨
    (∃ config d₁ context d₂ e d₃, Device.createConfig device = (.ok config, d₁) ∧
      Device.createContext config d₁ = (.ok context, d₂) ∧
      Device.queryFilters context d₂ = (.error e, d₃) ∧
      later = Device.close (Device.destroyConfig config (Device.destroyContext context d₃))) := by
  unfold open? at h
  rcases hconfig : Device.createConfig device with ⟨e | config, d₁⟩ <;> rw [hconfig] at h
  · cases h
    exact .inl ⟨e, d₁, rfl, rfl⟩
  rcases hcontext : Device.createContext config d₁ with ⟨e | context, d₂⟩ <;>
    simp only [hcontext] at h
  · cases h
    exact .inr (.inl ⟨config, d₁, e, d₂, rfl, hcontext, rfl⟩)
  rcases hfilters : Device.queryFilters context d₂ with ⟨e | available, d₃⟩ <;>
    simp only [Chain.build, hfilters] at h
  · cases h
    exact .inr (.inr ⟨config, d₁, context, d₂, e, d₃, rfl, hcontext, hfilters, rfl⟩)
  · cases h

end Session

namespace Simulator

theorem history_releaseFrames (frames : List Frame) (d : Simulator) :
    (Device.releaseFrames frames d).history = d.history := by
  have hone : ∀ (frame : Frame) (d : Simulator),
      (Device.releaseFrame frame d).history = d.history := by
    intro frame d
    unfold Device.releaseFrame
    cases frame.lease? with
    | none => rfl
    | some key =>
      show (release key d).history = d.history
      unfold release
      rcases d.leases.release? key with ⟨_ | lease, leases⟩ <;> rfl
  unfold Device.releaseFrames
  induction frames generalizing d with
  | nil => rfl
  | cons frame rest ih =>
    rw [List.foldl_cons, ih, hone]

theorem calls_destroyBuffers (descriptors : List FilterDescriptor) (d : Simulator) :
    (descriptors.foldl (fun d x => Device.destroyBuffer x.buffer d) d).calls =
      d.calls ++ descriptors.map fun x => .destroyBuffer x.buffer := by
  induction descriptors generalizing d with
  | nil => simp
  | cons x rest ih =>
    have hcalls : (Device.destroyBuffer x.buffer d).calls = d.calls ++ [.destroyBuffer x.buffer] :=
      calls_of_history rfl
    rw [List.foldl_cons, ih, hcalls, List.map_cons, List.append_assoc]
    rfl

/-- The calls with which a session is taken apart. -/
theorem calls_close {s : Session Simulator} (hcontext : s.context.isValid = true)
    (hconfig : s.config.isValid = true) : s.close.calls = s.device.calls ++
      s.chain.descriptors.map (fun x => .destroyBuffer x.buffer) ++
      [.destroyContext s.context, .destroyConfig s.config] ++
      (s.pool.map fun _ => .closePool).toList := by
  have hbuffers := calls_destroyBuffers s.chain.descriptors s.device
  have hseek : ∀ s : Session Simulator, s.seek.device.calls = s.device.calls := by
    intro s
    rw [calls, calls]
    exact congrArg List.reverse (history_releaseFrames _ _)
  unfold Session.close Chain.release
  simp only [hcontext, hconfig, if_true]
  show calls (Session.device (Session.seek _)) = _
  rw [hseek, ← hbuffers]
  unfold Session.closePool
  cases s.pool with
  | none => simp [calls, Device.destroyConfig, Device.destroyContext, record]
  | some pool => simp [calls, Device.destroyConfig, Device.destroyContext, Device.closePool, record]

theorem tidy_close {s : Session Simulator} (h : s.device.Ordered s.fixtures s.pool)
    (hcontext : s.context.isValid = true) (hconfig : s.config.isValid = true) :
    Tidy s.close.calls := by
  -- the calls destroy what the session has made on opening, one after the other
  have hpairs : List.Forall₂ (fun (call : Call) r => call.destroys? = some r)
      (s.chain.descriptors.map (fun x => .destroyBuffer x.buffer) ++
        [.destroyContext s.context, .destroyConfig s.config]) s.fixtures.resources := by
    show List.Forall₂ _ _ ((s.chain.descriptors.map (·.buffer)).map Resource.buffer ++ _)
    induction s.chain.descriptors with
    | nil => exact .cons rfl (.cons rfl .nil)
    | cons x rest ih => exact .cons rfl ih
  have hkept := h.books.kept
  rw [← List.append_nil s.fixtures.resources] at hkept
  have hgone := hkept.destroyAll hpairs
  rw [← List.append_assoc] at hgone
  rw [calls_close hcontext hconfig]
  cases hpool : s.pool with
  | none =>
    rw [hpool] at hgone
    rw [Option.map_none, Option.toList_none, List.append_nil]
    exact Kept.tidy hgone
  | some pool =>
    rw [hpool] at hgone
    have hopen : Kept [] (!false) _ := hgone
    exact (hopen.pooled rfl).tidy

theorem tidy_of_open_error {options : Options} {d later : Simulator} {error : Error}
    (hd : d.Unused) (h : Session.open? options d = .error (error, later)) : Tidy later.calls := by
  have hconfig := hd.books.createConfig
  rcases Session.eq_of_open_error h with ⟨e, d₁, h₁, rfl⟩ | ⟨config, d₁, e, d₂, h₁, h₂, rfl⟩ |
    ⟨config, d₁, context, d₂, e, d₃, h₁, h₂, h₃, rfl⟩ <;> rw [h₁] at hconfig
  · exact hconfig.kept.tidy
  all_goals
    have hcontext := hconfig.createContext config
    rw [h₂] at hcontext
  · exact hcontext.destroyConfig.kept.tidy
  · have hfilters := hcontext.queryFilters context
    rw [h₃] at hfilters
    exact hfilters.destroyContext.destroyConfig.kept.tidy

/-- The objects of a session on a device that has not been used before have small numbers. -/
theorem valid_of_open {options : Options} {d : Simulator} {s : Session Simulator} (hd : d.Unused)
    (h : Session.open? options d = .ok s) :
    s.fixtures.context.isValid = true ∧ s.fixtures.config.isValid = true := by
  obtain ⟨config, d₁, context, d₂, available, d₃, descriptors, later, h₁, h₂, -, -, rfl⟩ :=
    Session.eq_of_open h
  rcases createConfig_cases d with ⟨e, heq⟩ | heq <;> cases h₁.symm.trans heq
  rcases createContext_cases (d.bump.record (.createConfig ⟨d.nextId⟩)) ⟨d.nextId⟩ with
    ⟨e, heq'⟩ | heq' <;> cases h₂.symm.trans heq'
  have hnext : (d.bump.record (.createConfig ⟨d.nextId⟩)).nextId = d.nextId + 1 := rfl
  rw [hnext, hd.nextId]
  exact ⟨rfl, rfl⟩

end Simulator

namespace Custody

/-- **Everything that is made is destroyed, once, and not named after that.** This holds of the log
of a simulated device in any configuration once the session on it has been closed, whatever calls
have been made and whatever has failed, and also when no session could be opened. On closing, the
filters go first, then the context, the configuration and the pool, if there is one. -/
theorem tidy_of_reachable (options : Options) (d : Simulator) (hd : d.Unused) :
    (∀ error later, Session.open? options d = .error (error, later) →
      Simulator.Tidy later.calls) ∧
    ∀ c : Custody Simulator, Reachable Simulator.Injects options d c →
      Simulator.Tidy c.session.close.calls ∧
      c.session.close.calls = c.session.device.calls ++
        c.session.chain.descriptors.map (fun x => .destroyBuffer x.buffer) ++
        [.destroyContext c.session.context, .destroyConfig c.session.config] ++
        (c.session.pool.map fun _ => .closePool).toList := by
  refine ⟨fun error later hopen => Simulator.tidy_of_open_error hd hopen, fun c hc => ?_⟩
  have hvalid := hc.obeys
    (fun u _ _ _ => u.context.isValid = true ∧ u.config.isValid = true)
    (fun u => Device.upholds_const u _) (fun _ _ _ _ _ _ h => h)
    (fun s hs => Simulator.valid_of_open hd hs)
  obtain ⟨hcontext, hconfig⟩ := hvalid.holds
  exact ⟨Simulator.tidy_close (Simulator.obeys_ordered hd hc).holds hcontext hconfig,
    Simulator.calls_close hcontext hconfig⟩

/-- A picture is given up halfway, and the pool is replaced at the second attempt. -/
def mishaps : List (Deed Simulator) :=
  [.call (.reconfigure (.hardware 720 576 720 576)),
    .call (.input (some { Frame.decoded ⟨1⟩ 720 576 with fields := ⟨3⟩ })),
    .call (.alter (·.failOn .renderPicture)), .call .take,
    .call (.alter (·.failOn .createSurfaces)),
    .call (.reconfigure (.hardware 720 576 720 576)), .call (.alter Simulator.clearFailures),
    .call (.reconfigure (.hardware 720 576 720 576))]

theorem permits_mishaps :
    mishaps.Forall fun deed => ∀ c : Custody Simulator, c.Permits Simulator.Injects deed := by
  refine ⟨fun _ => trivial, ?_, fun _ d => ⟨_, rfl⟩, fun _ => trivial, fun _ d => ⟨_, rfl⟩,
    fun _ => trivial, fun _ d => ⟨_, rfl⟩, fun _ => trivial⟩
  intro c given hgiven
  cases hgiven
  rfl

/-- Twice there is a pool, and the buffer of the request is gone as well in the end. Where the list
of the filters cannot be had, the context and the configuration are gone. -/
theorem tidy_of_mishaps :
    (∃ c : Custody Simulator, Reachable Simulator.Injects {} {} c ∧
      c.session.close.calls.filterMap Simulator.Call.opensPool? = [true, false, true, false] ∧
      c.session.close.calls.filterMap Simulator.Call.destroys? =
        [.buffer ⟨0x14⟩, .buffer ⟨0x12⟩, .context ⟨0x11⟩, .config ⟨0x10⟩] ∧
      Simulator.Tidy c.session.close.calls) ∧
    ∃ error later, Session.open? {} (({} : Simulator).failOn .queryFilters) =
      .error (error, later) ∧ later.calls.length = 5 ∧ Simulator.Tidy later.calls := by
  constructor
  · obtain ⟨s, hs⟩ : ∃ s, Session.open? {} ({} : Simulator) = .ok s := ⟨_, rfl⟩
    have hreached := (Reachable.opened hs).act permits_mishaps
    cases hs
    refine ⟨_, hreached, ?_, ?_,
      ((tidy_of_reachable {} {} ⟨rfl, rfl, rfl, rfl, rfl, rfl⟩).2 _ hreached).1⟩
    · decide
    · decide
  · refine ⟨_, _, rfl, rfl, ?_⟩
    exact (tidy_of_reachable {} (({} : Simulator).failOn .queryFilters)
      ⟨rfl, rfl, rfl, rfl, rfl, rfl⟩).1 _ _ rfl

end Custody

end Deinterlace
