import Deinterlace.Command.Arguments

/-!
# Help

The pages that the program prints about itself. `Topic.page` lists the options of a command from the
tables by which its arguments are read, so a page names exactly the options that are accepted.
-/
namespace Deinterlace

namespace Command

def versionText : String := "vavpp 0.3.0\n"

/-- The name under which the value of an option is shown. -/
def valueName (name : String) : String :=
  name.map fun c => if c = '-' then '_' else c.toUpper

/-- An entry of a list: what is explained, and its explanation. -/
abbrev Entry := String × String

def Switch.entry {α : Type} (s : Switch α) : Entry :=
  let label :=
    match s.effect with
    | .flag _ => "      --" ++ s.name
    | .valued _ => "      --" ++ s.name ++ " <" ++ valueName s.name ++ ">"
  let initial := (s.initial.map fun text => "[default: " ++ text ++ "]").toList
  (label, " ".intercalate ((if s.about.isEmpty then [] else [s.about]) ++ initial))

def helpEntry : Entry := ("  -h, --help", "Print help")

def versionEntry : Entry := ("  -V, --version", "Print version")

/-- A list under a heading, with the explanations in a column. -/
def listing (heading : String) (entries : List Entry) : String :=
  let width := entries.foldl (fun n e => max n e.1.length) 0
  let line (e : Entry) : String :=
    e.1 ++ String.ofList (List.replicate (width - e.1.length) ' ') ++ "  " ++ e.2 ++ "\n"
  "\n" ++ heading ++ ":\n" ++ String.join (entries.map line)

namespace Topic

def about : Topic → String
  | .program => ""
  | .probe => "Print filters, deinterlacing algorithms and pipeline caps as JSON"
  | .simulate => "Drive synthetic frames through the mock backend"
  | .run => "Upload synthetic NV12 frames into the VA-API backend"
  | .help => "Print this message or the help of the given subcommand(s)"

def entry (t : Topic) : Entry := ("  " ++ t.name, t.about)

def heading (t : Topic) (arguments : String) : String :=
  t.about ++ "\n\nUsage: vavpp " ++ t.name ++ " " ++ arguments ++ "\n"

def optionPage {α : Type} (t : Topic) (switches : Switches α) : String :=
  t.heading "[OPTIONS]" ++ listing "Options" (switches.map (·.entry) ++ [helpEntry])

def page : Topic → String
  | .program =>
    "Usage: vavpp <COMMAND>\n" ++ listing "Commands" (commands.map (·.entry)) ++
      listing "Options" [helpEntry, versionEntry]
  | .probe => optionPage .probe probeSwitches
  | .simulate => optionPage .simulate simulateSwitches
  | .run => optionPage .run runSwitches
  | .help =>
    heading .help "[COMMAND]..." ++
      listing "Arguments" [("  [COMMAND]...", "Print help for the subcommand(s)")]

end Topic

end Command

end Deinterlace
