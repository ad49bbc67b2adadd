import Deinterlace.Proofs.Session.Agreement

/-!
# Starting afresh

After a jump in the stream, or a new one, the window is flushed, but it still has the depths and
the mode of the stream before. They go with the next negotiation: if the chain has been invalidated,
the negotiation does not look at them (`Session.configure_flushed`), and if it has not, and the
device would still give the same answer, the negotiation comes to the same as one from scratch
(`Session.configure_invalidate`). The latter needs no flush: all that matters is that the window
keeps no more earlier frames than its depth says.
-/
namespace Deinterlace

/-! ## Flushed windows -/

namespace Window

variable {w x : Window}

/-- Flushed windows differ in their depths and their mode at most. -/
theorem eq_of_flush (hw : w.flush = w) (hx : x.flush = x)
    (hbackward : w.backwardDepth = x.backwardDepth) (hforward : w.forwardDepth = x.forwardDepth)
    (hmode : w.mode = x.mode) : w = x := by
  rw [← hw, ← hx]
  simp only [flush, hbackward, hforward, hmode]

theorem frames_of_flush (h : w.flush = w) : w.frames = [] := by
  rw [← h]
  rfl

theorem flush_setDepths (h : w.flush = w) (backward forward : Nat) :
    (w.setDepths backward forward).flush = w.setDepths backward forward := by
  rw [← h]
  simp [setDepths, trim, flush]

/-- A window that is set up for what it is set up for already stays as it is. -/
theorem setDepths_setMode_eq {backward forward : Nat} {mode : WindowMode}
    (hdepth : w.cursor ≤ w.backwardDepth) (hbackward : w.backwardDepth = backward)
    (hforward : w.forwardDepth = forward) (hmode : w.mode = mode) :
    (w.setDepths backward forward).setMode mode = w := by
  subst hbackward hforward hmode
  exact w.trim_of_cursor_le hdepth

theorem hasOutput_of_empty (h : w.frames = []) : w.hasOutput = false := by
  simp [hasOutput, current?, h]

end Window

namespace Chain

variable {w x : Window}

theorem flush_passThrough (h : w.flush = w) : (passThrough w).flush = passThrough w :=
  congrArg (·.setMode .passThrough) (Window.flush_setDepths h 0 0)

theorem flush_fitWindow (o : Options) (on : Bool) (caps : PipelineCaps) (h : w.flush = w) :
    (fitWindow o on caps w).flush = fitWindow o on caps w :=
  congrArg (·.setMode (windowMode o on)) (Window.flush_setDepths h _ _)

theorem passThrough_congr (hw : w.flush = w) (hx : x.flush = x) : passThrough w = passThrough x :=
  Window.eq_of_flush (flush_passThrough hw) (flush_passThrough hx) rfl rfl rfl

theorem fitWindow_flushed (o : Options) (on : Bool) (caps : PipelineCaps) (hw : w.flush = w)
    (hx : x.flush = x) : fitWindow o on caps w = fitWindow o on caps x :=
  Window.eq_of_flush (flush_fitWindow o on caps hw) (flush_fitWindow o on caps hx) rfl rfl rfl

/-- A negotiation from scratch does not look at what a flushed window was set up for. -/
theorem configure_flushed {σ : Type} [Device σ] {c : Chain} (hlast : c.last = none)
    (hw : w.flush = w) (hx : x.flush = x) (context : ContextId) (on : Bool) (device : σ) :
    c.configure context on w device = c.configure context on x device := by
  have hnew : ¬ c.last = some (c.keyFor on) := by
    rw [hlast]
    exact nofun
  rw [configure_eq, configure_eq, if_neg hnew, if_neg hnew, passThrough_congr hw hx]
  split
  · rfl
  · split
    · rfl
    · rw [fitWindow_flushed _ _ _ hw hx]

end Chain

/-! ## Sessions without frames -/

namespace Session

variable {σ : Type} [Device σ] {s : Session σ}

theorem setWindow_of_empty (h : s.window.frames = []) (later : Window) :
    s.setWindow later = { s with window := later } := by
  simp [setWindow, Window.retired, h, Device.releaseFrames]

theorem output_of_empty (h : s.window.frames = []) : s.output = (.ok none, s) :=
  output_of_idle (Window.hasOutput_of_empty h)

theorem take_of_empty (h : s.window.frames = []) : s.take = (.ok none, s) := by
  simp only [take, output_of_empty h]

/-- A session without frames has none to give back when it negotiates. -/
theorem configure_of_empty (h : s.window.frames = []) :
    s.configure =
      let negotiated := s.chain.configure s.context s.deinterlacing s.window s.device
      { s with chain := negotiated.1, window := negotiated.2.1, device := negotiated.2.2 } := by
  let negotiated := s.chain.configure s.context s.deinterlacing s.window s.device
  exact setWindow_of_empty (s := { s with chain := negotiated.1, device := negotiated.2.2 }) h
    negotiated.2.1

theorem configure_flushed (hlast : s.chain.last = none) (hflushed : s.window.flush = s.window)
    {x : Window} (hx : x.flush = x) : { s with window := x }.configure = s.configure := by
  rw [configure_of_empty (Window.frames_of_flush hflushed),
    configure_of_empty (s := { s with window := x }) (Window.frames_of_flush hx)]
  dsimp only
  rw [Chain.configure_flushed hlast hx hflushed]

/-- What the device said about the filters is what it says now. -/
def Informed (s : Session σ) : Prop :=
  ∀ key, s.chain.last = some key → key.filters ≠ [] →
    s.chain.caps = (Device.queryCaps s.context key.filters s.device).1.toOption

theorem Informed.of_unset (h : s.chain.last = none) : s.Informed := by
  intro key hkey
  rw [h] at hkey
  cases hkey

omit [Device σ] in
/-- What a negotiation from scratch would set up for frames that pass through is there already. -/
theorem Idle.renewed {key : ChainKey} (h : s.Idle) (hlast : s.chain.last = some key)
    (hdepth : s.window.cursor ≤ s.window.backwardDepth) :
    s.chain.invalidate.idle key = s.chain ∧ Chain.passThrough s.window = s.window := by
  refine ⟨?_, Window.setDepths_setMode_eq hdepth h.backwardDepth h.forwardDepth h.mode⟩
  simp only [Chain.idle, Chain.invalidate, ← hlast, ← h.active_eq, ← h.caps_eq]

omit [Device σ] in
theorem InForce.renewed {key : ChainKey} {caps : PipelineCaps} (h : s.InForce key caps)
    (hlast : s.chain.last = some key) (hdepth : s.window.cursor ≤ s.window.backwardDepth) :
    s.chain.invalidate.inForce key caps = s.chain ∧
      Chain.fitWindow s.chain.options key.deinterlace caps s.window = s.window := by
  obtain ⟨hbackward, hforward⟩ := Prod.ext_iff.1 h.depths
  refine ⟨?_, ?_⟩
  · simp only [Chain.inForce, Chain.invalidate, ← hlast, ← h.active_eq, ← h.caps_eq]
  · rw [h.on]
    exact Window.setDepths_setMode_eq hdepth hbackward hforward h.mode

/-- The outcome of a negotiation from scratch, if the device has not changed its mind: the same,
though it may have been asked once more. -/
theorem configure_invalidate (h : s.Agrees) (hdepth : s.window.cursor ≤ s.window.backwardDepth)
    (hinformed : s.Informed) :
    { s with chain := s.chain.invalidate }.configure = s.configure ∨
      ∃ filters, { s with chain := s.chain.invalidate }.configure =
        { s.configure with
          device := (Device.queryCaps s.context filters s.configure.device).2 } := by
  have hkey : s.chain.invalidate.keyFor s.deinterlacing = s.chain.keyFor s.deinterlacing := rfl
  have hnew : ¬ s.chain.invalidate.last = some (s.chain.keyFor s.deinterlacing) := nofun
  rw [configure_eq]
  dsimp only
  rw [Chain.configure_eq, hkey, if_neg hnew]
  by_cases hlast : s.chain.last = some (s.chain.keyFor s.deinterlacing)
  · rw [configure_of_last hlast]
    obtain ⟨-, hsettled⟩ := h.settled _ hlast
    have hanswer := hinformed _ hlast
    split
    · rename_i hempty
      left
      rcases hsettled with hidle | ⟨caps, hforce⟩
      · obtain ⟨hchain, hwindow⟩ := hidle.renewed hlast hdepth
        rw [hchain, hwindow]
        exact s.setWindow_self
      · exact absurd (List.isEmpty_iff.1 hempty) hforce.filters
    · rename_i hfilters
      right
      refine ⟨(s.chain.keyFor s.deinterlacing).filters, ?_⟩
      have hcaps := hanswer (mt List.isEmpty_iff.2 hfilters)
      rcases hquery : Device.queryCaps s.context (s.chain.keyFor s.deinterlacing).filters s.device
        with ⟨e | caps, later⟩ <;> rw [hquery] at hcaps <;>
        rcases hsettled with hidle | ⟨caps', hforce⟩
      · obtain ⟨hchain, hwindow⟩ := hidle.renewed hlast hdepth
        dsimp only
        rw [hchain, hwindow]
        exact setWindow_self { s with device := later }
      · cases hcaps.symm.trans hforce.caps_eq
      · cases hcaps.symm.trans hidle.caps_eq
      · cases hcaps.symm.trans hforce.caps_eq
        obtain ⟨hchain, hwindow⟩ := hforce.renewed hlast hdepth
        have hoptions : s.chain.invalidate.options = s.chain.options := rfl
        have hon : (s.chain.keyFor s.deinterlacing).deinterlace = s.deinterlacing := rfl
        rw [hon] at hwindow
        dsimp only
        rw [hchain, hoptions, hwindow]
        exact setWindow_self { s with device := later }
  · left
    rw [configure_eq, Chain.configure_eq, if_neg hlast]
    rfl

end Session

end Deinterlace
