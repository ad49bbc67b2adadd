import Deinterlace.Probe
import Deinterlace.Request.Json

/-!
# Reports in JSON

What a device offers, as a JSON value whose members are in alphabetical order.
-/
namespace Deinterlace

open Json (Value)

/-- Capabilities with their members in alphabetical order. -/
def PipelineCaps.sortedJson (c : PipelineCaps) : Value :=
  .object
    [("input_color_standards", .list ColorStandard.toJson c.inputColorStandards),
      ("num_backward_references", .nat c.backwardReferences),
      ("num_forward_references", .nat c.forwardReferences),
      ("output_color_standards", .list ColorStandard.toJson c.outputColorStandards)]

def AlgorithmReport.toJson (r : AlgorithmReport) : Value :=
  .object [("algorithm", r.algorithm.toJson), ("caps", r.caps.sortedJson)]

def DeviceReport.toJson (r : DeviceReport) : Value :=
  .object
    [("backend", .string r.device), ("deinterlace_algorithms", .list Algorithm.toJson r.algorithms),
      ("filters", .list FilterType.toJson r.filters),
      ("pipelines", .list AlgorithmReport.toJson r.pipelines)]

end Deinterlace
