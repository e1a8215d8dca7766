import LocalizedStrings.Arguments
import LocalizedStrings.Console

/-!
# The program

Of arguments that are wrong only the kind of the mistake is fixed, and not in what words it is told.

* `Program.nameOf`: what the program is called.
* `Program.help`, `Program.version`: what it tells about itself.
* `Program.asText`, `Program.onConsole`: this as a text, and as it is written.
* `Program.colors`: whether it writes in colours.
* `Program.Ending`: its exit code, what it wrote, and the tree that it leaves.
* `Program.execute`: the ending for some arguments.
-/

namespace LocalizedStrings.Program

open Console

/-- The environment variable that names a configuration file. -/
def environmentName : String := "SWIFTLOC_CONFIG"

/-- The name of the program, unless it was started under another one. -/
def name : String := "swiftloc"

/-- The name that the program was started under, by the path it was started with. -/
def nameOf (path : Option String) : String := (path.bind Path.lastName?).getD name

/-- The line that shows how the program is started. -/
def usage (name : String) : Line :=
  [.styled .heading "Usage:", " ", .styled .bold name, " [OPTIONS] [DIR]"]

/-- The line about an option with a letter. -/
def optionLine (letter name padding about : String) : Line :=
  ["  ", .styled .bold ("-" ++ letter), ", ", .styled .bold ("--" ++ name), padding ++ about]

/-- A text in the column about the options, where further lines of it are indented. -/
def aligned (text : String) : String :=
  String.intercalate ("\n" ++ String.ofList (List.replicate 25 ' ')) (text.splitOn "\n")

/-- The help text; `environment` is the value of the environment variable. -/
def help (name : String) (environment : Option String) : List Line :=
  [["A fast CLI tool for extracting NSLocalizedString keys into Localizable.strings files"],
   [],
   usage name,
   [],
   [.styled .heading "Arguments:"],
   ["  [DIR]  Project root to scan recursively [default: .]"],
   [],
   [.styled .heading "Options:"],
   optionLine "v" "verbose" "          " "Enable verbose output",
   optionLine "n" "dry-run" "          "
     "Report what would be written without modifying any file",
   optionLine "c" "check" "            "
     "Report hardcoded multi-byte string literals instead of writing resources",
   ["      ", .styled .bold "--config", " <CONFIG>  " ++
     "Config file path (default: search for .swiftlocrc.json upwards from DIR) " ++
     "[env: " ++ environmentName ++ "=" ++ aligned (environment.getD "") ++ "]"],
   optionLine "h" "help" "             " "Print help",
   optionLine "V" "version" "          " "Print version"]

/-- The version text. -/
def version : List Line := [[name ++ " 0.1.0"]]

/-- What is wrong with arguments, for the user. -/
def complaint (name what : String) : List Line :=
  [["error: " ++ what], [], usage name, [], ["For more information, try '--help'."]]

/-- Lines about the program as a text without control sequences, also without those that came in by
the environment or by the name of the program. -/
def asText (ls : List Line) : String := bare .ends (render true ls)

/-- Lines about the program as they are written. Without colours no control sequence is left, and
white space inside of one does not end it. -/
def onConsole (colors : Bool) (ls : List Line) : String :=
  if colors then render true ls else bare .pauses (render true ls)

/-- Whether to write in colours. A variable is on if it is set, unless it is `0`. `CLICOLOR_FORCE`
decides if it is on, else `NO_COLOR` if it is set, and else there are colours on a terminal, unless
`CLICOLOR` is `0`. -/
def colors (force noColor color : Option String) (terminal : Bool) : Bool :=
  if force.any (· != "0") then true
  else if noColor.isSome then false
  else terminal && color.all (· != "0")

/-- How the program ended. -/
structure Ending where
  exitCode : UInt32
  out : String
  err : String
  tree : FileTree

/-- What is wrong with the arguments, unless they ask for a text. -/
def wrong? : Stop → Option String
  | .help | .version => none
  | .unknownArgument => some "unexpected argument found"
  | .repeatedOption => some "an option cannot be used multiple times"
  | .invalidValue => some "a value is required but none was supplied"
  | .needlessValue => some "unexpected value for an option"

/-- The ending when there are no options to run with. -/
def stopped (name : String) (t : FileTree) (environment : Option String) (colors : Bool)
    (s : Stop) : Ending :=
  match wrong? s with
  | some what => ⟨2, "", onConsole colors (complaint name what), t⟩
  | none => ⟨0, onConsole colors (if s = .help then help name environment else version), "", t⟩

/-- The ending of a run. -/
def ended (colors : Bool) (r : Outcome) : Ending :=
  let out := render colors r.out
  let err := render colors r.err
  match r.result with
  | .ok _ => ⟨0, out, err, r.tree⟩
  | .error f => ⟨2, out, err ++ "Error: " ++ f.message ++ "\n", r.tree⟩

/-- The ending for some arguments after the name of the program. -/
def execute (name : String) (t : FileTree) (args : List String) (environment : Option String)
    (colors : Bool) : Ending :=
  match Options.ofArguments args environment with
  | .error s => stopped name t environment colors s
  | .ok o => ended colors (run t o)

end LocalizedStrings.Program
