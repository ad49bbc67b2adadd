import Deinterlace.Va.Driver

/-!
# The scripted driver

A scripted driver goes by its script for ever (`Driver.script_call`), and does not read the calls it
has written down: they make no difference to its answers, nor to what becomes of it otherwise
(`Driver.call_relog`).
-/
namespace Deinterlace.Va.Driver

/-- Another list of calls that have been written down. -/
def relog (d : Driver) (history : List Entry) : Driver := { d with history }

/-! ## Numbers -/

theorem script_number (kind : ObjectKind) (d : Driver) : (d.number kind).2.script = d.script := by
  unfold number
  split <;> rfl

theorem number_relog (kind : ObjectKind) (d : Driver) (history : List Entry) :
    (d.relog history).number kind = ((d.number kind).1, (d.number kind).2.relog history) := by
  unfold number relog
  dsimp only
  split <;> rfl

/-! ## Calls that do not fail -/

theorem script_serve (c : Call) (d : Driver) : (serve c d).2.2.script = d.script := by
  cases c with
  | createConfig => exact script_number .config d
  | createContext => exact script_number .context d
  | createSurfaces => exact script_number .surface d
  | createBuffer => exact script_number .buffer d
  | mapBuffer id =>
    simp only [serve, mapBuffer]
    split
    · rfl
    · split <;> rfl
  | deriveImage surface => exact (script_number .imageBuffer _).trans (script_number .image d)
  | _ => rfl

theorem serve_relog (c : Call) (d : Driver) (history : List Entry) :
    serve c (d.relog history) =
      ((serve c d).1, (serve c d).2.1, (serve c d).2.2.relog history) := by
  cases c with
  | createConfig | createContext => simp only [serve, giveNumber, number_relog]
  | createSurfaces | createBuffer =>
    simp only [serve, number_relog]
    rfl
  | mapBuffer id =>
    have hsame : (d.relog history).buffer? id = d.buffer? id := rfl
    have hscript : (d.relog history).script = d.script := rfl
    simp only [serve, mapBuffer, hsame, hscript]
    split
    · rfl
    · split <;> rfl
  | deriveImage surface =>
    have hsize : (d.relog history).surfaceSize surface = d.surfaceSize surface := rfl
    simp only [serve, deriveImage, hsize, number_relog]
    rfl
  | _ => rfl

/-! ## All calls -/

theorem script_call (c : Call) (d : Driver) : (Library.call c d).2.2.script = d.script := by
  have hnoted : (if notes c then d.record (d.entryOf c) else d).script = d.script := by
    split <;> rfl
  show (answer c d).2.2.script = d.script
  unfold answer
  dsimp only
  split
  · exact hnoted
  · exact (script_serve c _).trans hnoted

theorem script_write (address : Address) (patch : Patch) (d : Driver) :
    (Library.write address patch d).script = d.script := by
  cases patch with
  | flags bits =>
    show (d.writeFlags address bits).script = d.script
    unfold writeFlags
    split <;> rfl
  | bytes bytes => rfl

/-- The calls that have been written down make no difference. -/
theorem call_relog (c : Call) (d : Driver) (history : List Entry) : ∃ later,
    Library.call c (d.relog history) =
      ((Library.call c d).1, (Library.call c d).2.1, (Library.call c d).2.2.relog later) := by
  have hnoted : ∃ later, (if notes c then (d.relog history).record ((d.relog history).entryOf c)
      else d.relog history) = (if notes c then d.record (d.entryOf c) else d).relog later := by
    split <;> exact ⟨_, rfl⟩
  obtain ⟨later, heq⟩ := hnoted
  have hfailure : (d.relog history).failure? c = d.failure? c := rfl
  refine ⟨later, ?_⟩
  show answer c (d.relog history) =
    ((answer c d).1, (answer c d).2.1, (answer c d).2.2.relog later)
  unfold answer
  dsimp only
  rw [heq, hfailure]
  split
  · rfl
  · exact serve_relog c _ later

theorem write_relog (address : Address) (patch : Patch) (d : Driver) (history : List Entry) :
    Library.write address patch (d.relog history) =
      (Library.write address patch d).relog history := by
  cases patch with
  | flags bits =>
    have hsame : (d.relog history).buffer? address = d.buffer? address := rfl
    show (d.relog history).writeFlags address bits = (d.writeFlags address bits).relog history
    unfold writeFlags
    rw [hsame]
    split <;> rfl
  | bytes bytes => rfl

end Deinterlace.Va.Driver
