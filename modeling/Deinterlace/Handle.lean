/-!
# Handles

Everything that lives on a device is named by a number: surfaces, configurations, contexts and
parameter buffers. A handle carries the kind of the object it names, so that a surface is never
passed where a buffer is meant. One value of each kind, `Handle.invalid`, names nothing.
-/
namespace Deinterlace

/-- The kinds of device objects that are named by handles. -/
inductive Handle.Kind
  | surface
  | config
  | context
  | buffer
deriving DecidableEq, Repr

/-- The name of a device object of kind `k`. -/
structure Handle (k : Handle.Kind) where
  /-- The number, a word of 32 bits. A simulated device never comes to the end of them
  (`Simulator.nextId`); a driver is not even trusted to keep below it. -/
  value : Nat
deriving DecidableEq, Repr

/-- Names one frame buffer on the device. -/
abbrev SurfaceId := Handle .surface

/-- Names a video-processing configuration. -/
abbrev ConfigId := Handle .config

/-- Names a video-processing context. -/
abbrev ContextId := Handle .context

/-- Names a filter buffer or the parameter buffer of a render request. -/
abbrev BufferId := Handle .buffer

namespace Handle

variable {k : Kind}

/-- The handle that names nothing: all 32 bits set. -/
def invalid : Handle k := ⟨0xffffffff⟩

/-- A handle is valid unless it is `invalid`. -/
def isValid (h : Handle k) : Bool := h != invalid

instance : Inhabited (Handle k) := ⟨invalid⟩

/-- Lower-case hexadecimal text with the marker `0x`, without leading zeros. -/
def hexText (n : Nat) : String := "0x" ++ String.ofList (Nat.toDigits 16 n)

/-- The handle as it appears in diagnostics. A surface shows its bare number, or `INVALID`; the
other kinds show their name around the number. -/
def describe (h : Handle k) : String :=
  match k with
  | .surface => if h.isValid then hexText h.value else "INVALID"
  | .config => "ConfigId(" ++ hexText h.value ++ ")"
  | .context => "ContextId(" ++ hexText h.value ++ ")"
  | .buffer => "BufferId(" ++ hexText h.value ++ ")"

/-- Validity, as an inequality. -/
theorem isValid_iff {h : Handle k} : h.isValid = true ↔ h ≠ invalid := by
  simp [isValid]

@[simp] theorem isValid_invalid : (invalid : Handle k).isValid = false := by
  simp [isValid]

end Handle

end Deinterlace
