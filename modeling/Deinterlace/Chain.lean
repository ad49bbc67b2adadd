import Deinterlace.Device
import Deinterlace.Options
import Deinterlace.Window

/-!
# The filter chain

A `Chain` holds the filter buffers that were made when the pipeline was opened, and what the device
says such a chain needs. `Chain.configure` asks the device and sets the window up accordingly. When
the device cannot say, or there is no filter to apply, frames pass through: no filters, no
references, no deinterlacing. Only the list of the device's filters is indispensable.
-/
namespace Deinterlace

/-- A filter buffer of the chain. -/
structure FilterDescriptor where
  buffer : BufferId
  filter : FilterType
  algorithm : Algorithm
deriving DecidableEq, Repr

/-- What a negotiation depends on. As long as it stays the same the outcome is kept. -/
structure ChainKey where
  filters : List BufferId
  deinterlace : Bool
deriving DecidableEq, Repr

/-- The filters of a pipeline and the outcome of the last negotiation about them. -/
structure Chain where
  options : Options
  /-- The filter buffers made on opening. -/
  descriptors : List FilterDescriptor
  /-- The filters applied to every picture; none means that frames pass through. -/
  active : List BufferId := []
  /-- What the device needs for the active filters. -/
  caps : Option PipelineCaps := none
  /-- What was negotiated about last. -/
  last : Option ChainKey := none
deriving DecidableEq, Repr

namespace Chain

variable {σ : Type} [Device σ]

/-- Makes a deinterlacing filter for a mode, if the device supports one. -/
def buildDeinterlacer (context : ContextId) (mode : Mode) (device : σ) :
    Option FilterDescriptor × σ :=
  if !mode.isEnabled then (none, device)
  else
    match Device.queryAlgorithms context device with
    | (.error _, device) => (none, device)
    | (.ok supported, device) =>
      if !supported.contains mode.algorithm then (none, device)
      else
        match Device.createFilter context mode.algorithm {} device with
        | (.error _, device) => (none, device)
        | (.ok buffer, device) => (some ⟨buffer, .deinterlacing, mode.algorithm⟩, device)

/-- Makes a filter for every filter of a list that is supported. -/
def buildDescriptors (context : ContextId) (mode : Mode) :
    List FilterType → σ → List FilterDescriptor × σ
  | [], device => ([], device)
  | .deinterlacing :: rest, device =>
    let (made, device) := buildDeinterlacer context mode device
    let (others, device) := buildDescriptors context mode rest device
    (made.toList ++ others, device)
  | _ :: rest, device => buildDescriptors context mode rest device

/-- Makes the filters of a pipeline. -/
def build (context : ContextId) (options : Options) (device : σ) : Except Error Chain × σ :=
  match Device.queryFilters context device with
  | (.error e, device) => (.error (.openingFailed e), device)
  | (.ok available, device) =>
    let (descriptors, device) := buildDescriptors context options.mode available device
    (.ok { options := options, descriptors := descriptors }, device)

/-- Forgets the last negotiation. -/
def invalidate (c : Chain) : Chain := { c with active := [], caps := none, last := none }

/-- The filters that apply when deinterlacing is on or off. -/
def filtersFor (c : Chain) (deinterlace : Bool) : List BufferId :=
  (c.descriptors.filter fun d => deinterlace || d.filter != .deinterlacing).map (·.buffer)

/-- The window's mode for a negotiated chain. -/
def windowMode (o : Options) (deinterlace : Bool) : WindowMode :=
  .ofSwitches deinterlace o.mode.doublesFields o.interlacedOnly

/-- The window's depths, backward and forward, for what the device needs. -/
def windowDepths (o : Options) (caps : PipelineCaps) : Nat × Nat :=
  if o.swapReferences then
    let most := max caps.forwardReferences caps.backwardReferences
    (most, most)
  else (caps.backwardReferences, caps.forwardReferences)

/-- The window when frames pass through. -/
def passThrough (w : Window) : Window := (w.setDepths 0 0).setMode .passThrough

/-- The window for a negotiated chain. -/
def fitWindow (o : Options) (deinterlace : Bool) (caps : PipelineCaps) (w : Window) : Window :=
  let (backward, forward) := windowDepths o caps
  (w.setDepths backward forward).setMode (windowMode o deinterlace)

/-- Negotiates the chain for deinterlacing being on or off and sets the window up. Nothing is done
if the last negotiation was about the same. -/
def configure (c : Chain) (context : ContextId) (deinterlace : Bool) (w : Window) (device : σ) :
    Chain × Window × σ :=
  let key : ChainKey := ⟨c.filtersFor deinterlace, deinterlace⟩
  if c.last = some key then (c, w, device)
  else
    let fresh : Chain := { c with active := [], caps := none, last := some key }
    if key.filters.isEmpty then (fresh, passThrough w, device)
    else
      match Device.queryCaps context key.filters device with
      | (.error _, device) => (fresh, passThrough w, device)
      | (.ok caps, device) =>
        ({ fresh with active := key.filters, caps := some caps },
          fitWindow c.options deinterlace caps w, device)

/-- The deinterlacing filter of the active chain: the first one. -/
def deinterlaceBuffer? (c : Chain) : Option BufferId :=
  (c.descriptors.find? fun d => d.filter == .deinterlacing && c.active.contains d.buffer).map
    (·.buffer)

/-- How many later and earlier frames the device wants to look at. -/
def reportedReferences (c : Chain) : Nat × Nat :=
  match c.caps with
  | some caps => (caps.forwardReferences, caps.backwardReferences)
  | none => (0, 0)

/-- Whether the pipeline has a deinterlacing filter at all. -/
def hasDeinterlacer (c : Chain) : Bool := c.descriptors.any (·.filter == .deinterlacing)

/-- Destroys the filters in the order in which they were made. -/
def release (c : Chain) (device : σ) : Chain × σ :=
  ({ c with descriptors := [] }.invalidate,
    c.descriptors.foldl (fun device d => Device.destroyBuffer d.buffer device) device)

end Chain

end Deinterlace
