import Deinterlace.Command.Simulation
import Deinterlace.Probe.Json

/-!
# Executing commands

What each command prints and how it ends. There is no driver for hardware here, so a command that
needs one ends with the error that says so.
-/
namespace Deinterlace

/-- The account of an error and of what caused it. -/
structure Complaint where
  message : String
  /-- What caused it, nearest first. -/
  causes : List String := []
deriving DecidableEq, Repr

namespace Complaint

def ofError (e : Error) : Complaint :=
  match e with
  | .queryFailed cause | .submissionFailed cause | .openingFailed cause =>
    ⟨e.describe, [cause.describe]⟩
  | _ => ⟨e.describe, []⟩

/-- The same complaint about something larger that failed for this reason. -/
def under (message : String) (c : Complaint) : Complaint := ⟨message, c.message :: c.causes⟩

/-- The lines of the causes; they are numbered if there are several. -/
def causeLines (causes : List String) : List String :=
  match causes with
  | [cause] => ["    " ++ cause]
  | causes => causes.zipIdx.map fun (cause, i) => "    " ++ toString i ++ ": " ++ cause

def describe (c : Complaint) : String :=
  "Error: " ++ c.message ++
    if c.causes.isEmpty then ""
    else "\n\nCaused by:\n" ++ "\n".intercalate (causeLines c.causes)

end Complaint

/-- What a command prints. -/
inductive Printout
  /-- JSON values, one on each line. -/
  | lines (values : List Json.Value)
  | document (value : Json.Value)

namespace Printout

def text : Printout → String
  | .lines values => String.join (values.map fun v => v.compact ++ "\n")
  | .document value => value.pretty ++ "\n"

end Printout

/-- What a command prints, and the complaint with which it ends if it fails. -/
structure Execution where
  printout : Printout := .lines []
  complaint : Option Complaint := none

namespace Command

/-- The complaint about a device that cannot be opened for want of a driver. -/
def noDriver (device : String) : Complaint :=
  (Complaint.ofError (.unavailable "libva not available")).under ("opening " ++ device)

def probeSimulator : Execution :=
  match Deinterlace.probe ({} : Simulator) with
  | (.ok report, _) => { printout := .document (.object [("report", report.toJson)]) }
  | (.error e, _) => { complaint := some (.ofError e) }

def executeSimulate (o : SimulateOptions) : Execution :=
  match Simulation.account o with
  | .ok account =>
    { printout := .lines (account.lines o.requests)
      complaint := account.failure.map .ofError }
  | .error e => { complaint := some (.ofError e) }

def execute : Command → Execution
  | .probe o => if o.simulated then probeSimulator else { complaint := some (noDriver o.device) }
  | .simulate o => executeSimulate o
  | .run o =>
    match o.stream.options with
    | .ok _ => { complaint := some (noDriver o.device) }
    | .error e => { complaint := some (.ofError e) }

end Command

end Deinterlace
