import Deinterlace.Command.Execution
import Deinterlace.Command.Help

/-!
# The program

Reads the arguments, executes the command and prints what it has to say. The program ends with
status one if the command failed and with status two if the arguments make no sense.
-/
namespace Deinterlace

/-- Prints what a command has to say and gives the status of the program. -/
def report (e : Execution) : IO UInt32 := do
  IO.print e.printout.text
  match e.complaint with
  | none => return 0
  | some complaint =>
    IO.eprintln complaint.describe
    return 1

end Deinterlace

open Deinterlace in
def main (args : List String) : IO UInt32 := do
  match Command.ofArguments args with
  | .ok command => report command.execute
  | .error (.help topic) =>
    IO.print topic.page
    return 0
  | .error .version =>
    IO.print Command.versionText
    return 0
  | .error .usage =>
    IO.eprint Command.Topic.program.page
    return 2
