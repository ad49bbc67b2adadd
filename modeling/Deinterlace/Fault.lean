import Deinterlace.Mode

/-!
# Faults

`DeviceError` is one failed call on a device. `Error` is what a caller of the pipeline sees: it
says which activity failed, and whether the pipeline can go on (`Error.isFatal`).
-/
namespace Deinterlace

/-- A device call that failed: the call's name, the device's status code and a message. -/
structure DeviceError where
  call : String
  status : Int
  message : String
deriving DecidableEq, Repr

def DeviceError.describe (e : DeviceError) : String :=
  e.call ++ "() failed: " ++ e.message ++ " (status " ++ toString e.status ++ ")"

/-- What can go wrong between opening a pipeline and closing it. -/
inductive Error
  | queryFailed (cause : DeviceError)
  /-- The device does not offer the algorithm of the selected mode. -/
  | unsupportedAlgorithm (mode : Mode)
  /-- No surface could be had: no pool, an exhausted pool or a failed upload. -/
  | allocationFailed (reason : String)
  /-- A device call failed while a picture was rendered. -/
  | submissionFailed (cause : DeviceError)
  /-- A change of the stream's format could not be applied. -/
  | reconfigurationFailed (reason : String)
  /-- A configuration, a context or the list of filters could not be had on opening. -/
  | openingFailed (cause : DeviceError)
  | unavailable (reason : String)
  | invalidOption (reason : String)
deriving DecidableEq, Repr

namespace Error

def describe : Error → String
  | .queryFailed cause => "Backend query failed: " ++ cause.describe
  | .unsupportedAlgorithm mode =>
      "Deinterlacing algorithm " ++ mode.name ++ " not supported by backend"
  | .allocationFailed reason => "Surface allocation failed: " ++ reason
  | .submissionFailed cause => "Render submission failed: " ++ cause.describe
  | .reconfigurationFailed reason => "Reconfiguration failed: " ++ reason
  | .openingFailed cause => "Initialization failed: " ++ cause.describe
  | .unavailable reason => "Backend not available: " ++ reason
  | .invalidOption reason => "Invalid option: " ++ reason

/-- After a fatal error the pipeline cannot be used any more; any other error costs one frame. -/
def isFatal : Error → Bool
  | .reconfigurationFailed _ | .openingFailed _ | .unavailable _ => true
  | _ => false

end Error

end Deinterlace
