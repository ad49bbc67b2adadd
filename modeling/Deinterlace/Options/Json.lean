import Deinterlace.Fault
import Deinterlace.Json.Record
import Deinterlace.Options

/-!
# Options in JSON

Options as a JSON object, or as a list of their values in order. What is left out has its default.
-/
namespace Deinterlace

open Json (Value Reader)

/-- Reads a mode by its name; deinterlacing can be switched off under two names. -/
def Mode.json : Reader Mode :=
  Reader.choice (Mode.all.map fun m =>
    .unit (if m = .off then [m.name, "none"] else [m.name]) m)

namespace Options

/-- Options of which some have been read. -/
structure Draft where
  mode : Option Mode := none
  interlacedOnly : Option Bool := none
  swapReferences : Option Bool := none

/-- The options of a draft, with defaults for the rest. -/
def Draft.finish (d : Draft) : Options :=
  let o : Options := {}
  { mode := d.mode.getD o.mode
    interlacedOnly := d.interlacedOnly.getD o.interlacedOnly
    swapReferences := d.swapReferences.getD o.swapReferences }

/-- The fields of the options, in order. -/
def fields : List (Reader.Field Draft) :=
  [ { name := "deint"
      aliases := ["deinterlace-algorithm"]
      isSet := (·.mode.isSome)
      read := fun d => do return { d with mode := some (← Mode.json) } },
    { name := "interlaced-only"
      isSet := (·.interlacedOnly.isSome)
      read := fun d => do return { d with interlacedOnly := some (← Reader.bool) } },
    { name := "reversal-bug"
      aliases := ["reversal-workaround"]
      isSet := (·.swapReferences.isSome)
      read := fun d => do return { d with swapReferences := some (← Reader.bool) } } ]

def json : Reader Options :=
  Reader.record "DeintOptions" fields {} (fun _ d => return d) (fun d => return d.finish)

/-- Reads options from a text that holds nothing else. -/
def ofJson (text : String) : Except Error Options :=
  match Reader.readAll json text with
  | .ok o => .ok o
  | .error fault => .error (.invalidOption fault.describe)

def toJson (o : Options) : Value :=
  .object [("deint", .string o.mode.name), ("interlaced-only", .bool o.interlacedOnly),
    ("reversal-bug", .bool o.swapReferences)]

end Options

end Deinterlace
