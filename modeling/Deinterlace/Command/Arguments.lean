import Deinterlace.Decimal.Reading

/-!
# Command-line arguments

`Command.ofArguments` reads the arguments of the program from left to right. Every option has a long
name and may be given once; a value follows as the next argument or after an equals sign. An
argument that begins with a dash is no value, except for a single dash.
-/
namespace Deinterlace

/-- Options of commands that work on a stream of made-up frames. -/
structure StreamOptions where
  frames : Nat := 10
  suboptions : String := ""
  /-- The pipeline's options in JSON; overrides the suboptions. -/
  json : Option String := none
  progressive : Bool := false
  bottomFieldFirst : Bool := false
  rate : Float := 25

/-- Options of the command that works on the simulated device. -/
structure SimulateOptions where
  stream : StreamOptions := {}
  /-- How many later frames the device wants to look at. -/
  forward : Nat := 0
  /-- How many earlier frames the device wants to look at. -/
  backward : Nat := 0
  failCaps : Bool := false
  /-- The requests rendered are listed, too. -/
  requests : Bool := false

/-- The path of the device that is used unless another is named. -/
def defaultDevice : String := "/dev/dri/renderD128"

/-- Options of the command that works on a device. -/
structure RunOptions where
  stream : StreamOptions := {}
  device : String := defaultDevice
  width : Nat := 720
  height : Nat := 576

/-- Options of the command that finds out what a device offers. -/
structure ProbeOptions where
  device : String := defaultDevice
  simulated : Bool := false

/-- What the program is asked to do. -/
inductive Command
  | probe (options : ProbeOptions)
  | simulate (options : SimulateOptions)
  | run (options : RunOptions)

namespace Command

/-- What help can be had on: the program, or one of its commands. -/
inductive Topic
  | program
  | probe
  | simulate
  | run
  | help
deriving DecidableEq, Repr

/-- The name of a command; the program itself goes without. -/
def Topic.name : Topic → String
  | .program => ""
  | .probe => "probe"
  | .simulate => "simulate"
  | .run => "run"
  | .help => "help"

/-- The commands, in the order in which they are listed. -/
def Topic.commands : List Topic := [.probe, .simulate, .run, .help]

/-- Why there is nothing to do. -/
inductive Stop
  | usage
  | help (topic : Topic)
  | version
deriving DecidableEq, Repr

/-- What an option does to the options gathered in a value of type `α`. -/
inductive Effect (α : Type)
  /-- An option without a value. -/
  | flag (set : α → α)
  /-- An option with a value, which may not be acceptable. -/
  | valued (set : String → α → Option α)

def Effect.within {α β : Type} (get : β → α) (put : α → β → β) : Effect α → Effect β
  | .flag set => .flag fun b => put (set (get b)) b
  | .valued set => .valued fun text b => (set text (get b)).map fun a => put a b

/-- An option of a command whose options are gathered in a value of type `α`. -/
structure Switch (α : Type) where
  name : String
  effect : Effect α
  about : String := ""
  /-- The value that it has if it is not given. -/
  initial : Option String := none

/-- The options of a command. -/
abbrev Switches (α : Type) := List (Switch α)

def Switches.effect? {α : Type} (switches : Switches α) (name : String) : Option (Effect α) :=
  (switches.find? (·.name == name)).map (·.effect)

/-- The options of a part of a command as options of the command. -/
def Switch.within {α β : Type} (get : β → α) (put : α → β → β) (s : Switch α) : Switch β :=
  ⟨s.name, s.effect.within get put, s.about, s.initial⟩

/-- A natural number of 32 bits. A sign is accepted. -/
def word32? (text : String) : Option Nat :=
  (Reading.integer? text.toList).bind fun n =>
    if 0 ≤ n ∧ n < 0x100000000 then some n.toNat else none

/-- Sets a field to a number, if the text is one. -/
def setWord {α : Type} (set : Nat → α → α) : Effect α :=
  .valued fun text a => (word32? text).map fun n => set n a

def streamSwitches : Switches StreamOptions :=
  [ ⟨"frames", setWord fun n o => { o with frames := n }, "Number of input frames", "10"⟩,
    ⟨"opts", .valued fun text o => some { o with suboptions := text },
      "Filter options, e.g. \x60deint=motion-adaptive:interlaced-only=no\x60", ""⟩,
    ⟨"json-opts", .valued fun text o => some { o with json := some text },
      "Filter options as JSON, overrides --opts", none⟩,
    ⟨"progressive", .flag fun o => { o with progressive := true },
      "Mark frames progressive instead of interlaced", none⟩,
    ⟨"bff", .flag fun o => { o with bottomFieldFirst := true }, "Bottom field first", none⟩,
    ⟨"fps", .valued fun text o => (Reading.float? text.toList).map fun x => { o with rate := x },
      "Input frame rate, used for timestamps", "25"⟩ ]

/-- The options of a stream within those of a command. -/
def streamSwitchesOf {β : Type} (get : β → StreamOptions) (put : StreamOptions → β → β) :
    Switches β :=
  streamSwitches.map (·.within get put)

def deviceSwitch {α : Type} (set : String → α → α) : Switch α :=
  ⟨"device", .valued fun text a => some (set text a), "DRM render node", defaultDevice⟩

/-- The options of `simulate`. -/
def simulateSwitches : Switches SimulateOptions :=
  streamSwitchesOf (·.stream) (fun s o => { o with stream := s }) ++
    [ ⟨"forward", setWord fun n o => { o with forward := n },
        "Forward references the mock reports", "0"⟩,
      ⟨"backward", setWord fun n o => { o with backward := n },
        "Backward references the mock reports", "0"⟩,
      ⟨"fail-caps", .flag fun o => { o with failCaps := true },
        "Make the pipeline capability query fail", none⟩,
      ⟨"requests", .flag fun o => { o with requests := true },
        "Also print every render request", none⟩ ]

/-- The options of `run`. -/
def runSwitches : Switches RunOptions :=
  streamSwitchesOf (·.stream) (fun s o => { o with stream := s }) ++
    [ deviceSwitch fun text o => { o with device := text },
      ⟨"width", setWord fun n o => { o with width := n }, "", "720"⟩,
      ⟨"height", setWord fun n o => { o with height := n }, "", "576"⟩ ]

/-- The options of `probe`. -/
def probeSwitches : Switches ProbeOptions :=
  [ deviceSwitch fun text o => { o with device := text },
    ⟨"mock", .flag fun o => { o with simulated := true },
      "Probe the mock backend instead of VA-API", none⟩ ]

/-- The long name of an argument and the value attached to it. -/
def longName (arg : String) : String × Option String :=
  let body := arg.toList.drop 2
  match body.dropWhile (· != '=') with
  | _ :: value => (String.ofList (body.takeWhile (· != '=')), some (String.ofList value))
  | [] => (String.ofList body, none)

/-- Whether an argument can be the value of an option. -/
def isValue (arg : String) : Bool := arg == "-" || !arg.startsWith "-"

def isLong (arg : String) : Bool := arg.startsWith "--" && arg != "--"

/-- Whether an argument asks for help in its first letter. -/
def asksHelp (arg : String) : Bool := arg == "--help" || arg.startsWith "-h"

/-- Reads the options of a command into a value; `given` holds those that have been seen. -/
def readSwitches {α : Type} (topic : Topic) (switches : Switches α) :
    (given : List String) → α → List String → Except Stop α
  | _, a, [] => .ok a
  | given, a, arg :: rest =>
    if arg == "--" then if rest.isEmpty then .ok a else .error .usage
    else if asksHelp arg then .error (.help topic)
    else if !isLong arg then .error .usage
    else
      let (name, attached) := longName arg
      if given.contains name then .error .usage
      else
        match switches.effect? name, attached, rest with
        | some (.flag set), none, rest => readSwitches topic switches (name :: given) (set a) rest
        | some (.valued set), some text, rest =>
          match set text a with
          | some a => readSwitches topic switches (name :: given) a rest
          | none => .error .usage
        | some (.valued set), none, text :: rest =>
          if isValue text then
            match set text a with
            | some a => readSwitches topic switches (name :: given) a rest
            | none => .error .usage
          else .error .usage
        | _, _, _ => .error .usage

/-- What is asked of the command that explains the others. -/
def helpOn : List String → Stop
  | [] => .help .program
  | [name] =>
    match Topic.commands.find? (·.name == name) with
    | some topic => .help topic
    | none => .usage
  | _ => .usage

def ofArguments : List String → Except Stop Command
  | [] => .error .usage
  | "probe" :: rest => (readSwitches .probe probeSwitches [] {} rest).map .probe
  | "simulate" :: rest => (readSwitches .simulate simulateSwitches [] {} rest).map .simulate
  | "run" :: rest => (readSwitches .run runSwitches [] {} rest).map .run
  | "help" :: rest => .error (helpOn rest)
  | arg :: _ =>
    if asksHelp arg then .error (.help .program)
    else if arg == "--version" || arg.startsWith "-V" then .error .version
    else .error .usage

end Command

end Deinterlace
