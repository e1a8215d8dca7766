import LocalizedStrings.Run

/-!
# Command line arguments

Arguments are read from left to right. Switches may be written alone or, by their letters, in one
cluster. `--config` takes its value after `=` or from the next argument, and the one argument that
is left names the directory; both values have to be non-empty. After `--` no argument is an option.

A value that is an argument of its own is looked at once the next option or directory comes, or at
the end. So an unknown argument right after it is reported first.

* `Stop`: why there are no options to run with.
* `Arguments.Word`: what an argument looks like.
* `Arguments.Draft`: what was read so far.
* `Options.ofArguments`: the options that arguments and the environment stand for.
-/

namespace LocalizedStrings

/-- Why there are no options to run with. -/
inductive Stop where
  | help
  | version
  /-- An option that does not exist, or a second directory. -/
  | unknownArgument
  /-- An option that was given before. -/
  | repeatedOption
  /-- A value that is empty or missing. -/
  | invalidValue
  /-- A value for a switch. -/
  | needlessValue
  deriving DecidableEq, Repr

namespace Arguments

/-! ## Single arguments -/

/-- An option without a value. -/
inductive Switch where
  | verbose
  | dryRun
  | check
  | help
  | version
  deriving DecidableEq, Repr

/-- The switch of a name. -/
def Switch.ofName? : String → Option Switch
  | "verbose" => some verbose
  | "dry-run" => some dryRun
  | "check" => some check
  | "help" => some help
  | "version" => some version
  | _ => none

/-- The switch of a letter. -/
def Switch.ofLetter? : Char → Option Switch
  | 'v' => some verbose
  | 'n' => some dryRun
  | 'c' => some check
  | 'h' => some help
  | 'V' => some version
  | _ => none

/-- What an argument looks like. -/
inductive Word where
  /-- The end of the options, `--`. -/
  | separator
  /-- An option `--name` or `--name=value`. -/
  | long (name : String) (value? : Option String)
  /-- Letters after a dash. -/
  | letters (cs : List Char)
  /-- A value or a directory. -/
  | plain (text : String)
  deriving DecidableEq, Repr

/-- The option after its two dashes. -/
def Word.ofLong (s : List Char) : Word :=
  .long (String.ofList (s.takeWhile (· != '='))) <|
    match s.dropWhile (· != '=') with
    | _ :: value => some (String.ofList value)
    | [] => none

/-- What an argument looks like. -/
def Word.ofText (text : String) : Word :=
  match text.toList with
  | ['-', '-'] => .separator
  | '-' :: '-' :: s => .ofLong s
  | '-' :: c :: s => .letters (c :: s)
  | _ => .plain text

/-! ## All arguments -/

/-- A value that was not looked at yet. -/
inductive Pending where
  | dir (text : String)
  | config (text : Option String)
  deriving DecidableEq, Repr

/-- What was read so far. -/
structure Draft where
  verbose : Bool := false
  dryRun : Bool := false
  check : Bool := false
  dir : Option String := none
  config : Option String := none
  pending : Option Pending := none

namespace Draft

/-- A value, which must not be empty. -/
def filled (text : String) : Except Stop String :=
  if text = "" then .error .invalidValue else .ok text

/-- The value of `--config`, which is given at most once. -/
def setConfig (d : Draft) (text : String) : Except Stop Draft := do
  if d.config.isSome then .error .repeatedOption
  else return { d with config := some (← filled text) }

/-- Looks at the value that is pending. -/
def settle (d : Draft) : Except Stop Draft :=
  let settled := { d with pending := none }
  match d.pending with
  | none => .ok d
  | some (.dir text) => (filled text).map fun text => { settled with dir := some text }
  | some (.config none) => .error .invalidValue
  | some (.config (some text)) => settled.setConfig text

/-- Whether a switch was given. -/
def has (d : Draft) : Switch → Bool
  | .verbose => d.verbose
  | .dryRun => d.dryRun
  | .check => d.check
  | .help | .version => false

/-- A switch. -/
def switch (d : Draft) (w : Switch) : Except Stop Draft := do
  let d ← d.settle
  if d.has w then .error .repeatedOption
  else match w with
    | .verbose => return { d with verbose := true }
    | .dryRun => return { d with dryRun := true }
    | .check => return { d with check := true }
    | .help => .error .help
    | .version => .error .version

/-- A long option. -/
def long (d : Draft) (name : String) (value? : Option String) : Except Stop Draft :=
  if name = "config" then do
    let d ← d.settle
    match value? with
    | some text => d.setConfig text
    | none => return { d with pending := some (.config none) }
  else match Switch.ofName? name, value? with
    | none, _ => .error .unknownArgument
    | some _, some _ => .error .needlessValue
    | some w, none => d.switch w

/-- A letter of a cluster. -/
def letter (d : Draft) (c : Char) : Except Stop Draft :=
  match Switch.ofLetter? c with
  | some w => d.switch w
  | none => .error .unknownArgument

/-- The directory was given before. -/
def hasDir (d : Draft) : Bool :=
  d.dir.isSome || match d.pending with
    | some (.dir _) => true
    | _ => false

/-- A directory. -/
def place (d : Draft) (text : String) : Except Stop Draft :=
  if d.hasDir then .error .unknownArgument
  else d.settle.map fun d => { d with pending := some (.dir text) }

/-- An argument that is no option: the value that `--config` waits for, or a directory. -/
def plain (d : Draft) (text : String) : Except Stop Draft :=
  match d.pending with
  | some (.config none) => .ok { d with pending := some (.config (some text)) }
  | _ => d.place text

/-- Reads the arguments that follow. -/
def read (d : Draft) : List String → Except Stop Draft
  | [] => d.settle
  | arg :: args => match Word.ofText arg with
    | .separator => do (← args.foldlM place d).settle
    | .long name value? => do (← d.long name value?).read args
    | .letters cs => do (← cs.foldlM letter d).read args
    | .plain text => do (← d.plain text).read args

end Draft

end Arguments

/-- The options that arguments stand for. The value of the environment for `--config` counts if the
arguments have none. -/
def Options.ofArguments (args : List String) (environment : Option String) :
    Except Stop Options := do
  let d ← Arguments.Draft.read {} args
  let config ← match d.config, environment with
    | none, some text => some <$> Arguments.Draft.filled text
    | config, _ => .ok config
  let o : Options := {}
  return ⟨d.dir.getD o.dir, d.verbose, d.dryRun, d.check, config⟩

end LocalizedStrings
