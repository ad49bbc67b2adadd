import Deinterlace.Device

/-!
# Probing a device

`probe` finds out what a device offers: its filters, its deinterlacing algorithms, and what each
algorithm needs. It works on a context of its own and destroys everything it makes, so the device
is left as it was found.
-/
namespace Deinterlace

/-- What one deinterlacing algorithm needs. -/
structure AlgorithmReport where
  algorithm : Algorithm
  caps : PipelineCaps
deriving DecidableEq, Repr

/-- What a device offers. -/
structure DeviceReport where
  device : String
  filters : List FilterType
  algorithms : List Algorithm
  /-- The algorithms that a filter could be made of and asked about. -/
  pipelines : List AlgorithmReport
deriving DecidableEq, Repr

namespace Probe

variable {σ : Type} [Device σ]

/-- What one algorithm needs, if a filter can be made of it and asked about. The filter is
destroyed either way. -/
def algorithmReport (context : ContextId) (algorithm : Algorithm) (device : σ) :
    Option AlgorithmReport × σ :=
  match Device.createFilter context algorithm {} device with
  | (.error _, device) => (none, device)
  | (.ok buffer, device) =>
    match Device.queryCaps context [buffer] device with
    | (.error _, device) => (none, Device.destroyBuffer buffer device)
    | (.ok caps, device) => (some ⟨algorithm, caps⟩, Device.destroyBuffer buffer device)

/-- What each of several algorithms needs; those that fail are left out. -/
def algorithmReports (context : ContextId) : List Algorithm → σ → List AlgorithmReport × σ
  | [], device => ([], device)
  | algorithm :: rest, device =>
    let (report, device) := algorithmReport context algorithm device
    let (others, device) := algorithmReports context rest device
    (report.toList ++ others, device)

def contextReport (context : ContextId) (device : σ) : Except Error DeviceReport × σ :=
  match Device.queryFilters context device with
  | (.error e, device) => (.error (.openingFailed e), device)
  | (.ok filters, device) =>
    if !filters.contains .deinterlacing then (.ok ⟨Device.name σ, filters, [], []⟩, device)
    else
      match Device.queryAlgorithms context device with
      | (.error e, device) => (.error (.queryFailed e), device)
      | (.ok algorithms, device) =>
        let (pipelines, device) := algorithmReports context algorithms device
        (.ok ⟨Device.name σ, filters, algorithms, pipelines⟩, device)

end Probe

def probe {σ : Type} [Device σ] (device : σ) : Except Error DeviceReport × σ :=
  match Device.createConfig device with
  | (.error e, device) => (.error (.openingFailed e), device)
  | (.ok config, device) =>
    match Device.createContext config device with
    | (.error e, device) => (.error (.openingFailed e), Device.destroyConfig config device)
    | (.ok context, device) =>
      let (report, device) := Probe.contextReport context device
      (report, Device.destroyConfig config (Device.destroyContext context device))

end Deinterlace
