import LocalizedStrings.Config.Load
import LocalizedStrings.Literal
import LocalizedStrings.Resource
import LocalizedStrings.Survey

/-!
# Runs

A run finds its configuration, surveys a directory and reports what it found. Then a generating run
updates the resource files, a dry one only plans the updates, and a checking run, which looks for
literals that are not localized, does neither.

* `Options`: what a run is asked to do.
* `Outcome`: its result, the lines on both consoles, and the tree that it leaves.
* `run`: the outcome of a run.
-/

namespace LocalizedStrings

/-- What a run is asked to do. -/
structure Options where
  dir : String := "."
  verbose : Bool := false
  /-- Plan updates and write nothing. -/
  dryRun : Bool := false
  /-- Look for literals that are not localized. -/
  check : Bool := false
  /-- The configuration file, if it is not to be searched for. -/
  config : Option String := none
  deriving DecidableEq, Repr

/-- Why a run ended early. -/
inductive Failure where
  | config (error : Config.LoadError)
  | plan (error : FileError)
  | update (error : FileError)
  deriving DecidableEq, Repr

/-- The texts for a failure and its causes, the outermost first. -/
def Failure.messages : Failure → List String
  | config error => error.messages
  | plan error => "Failed to plan resource file update" :: error.messages
  | update error => "Failed to update resource file" :: error.messages

/-- The text for a failure with its causes. -/
def Failure.message (f : Failure) : String := ": ".intercalate f.messages

/-- What a run that did not fail amounts to. -/
structure Summary where
  filesScanned : Nat
  recordsFound : Nat
  duplicateCount : Nat
  unreadableCount : Nat
  /-- The paths of the resource files that were written. -/
  written : List String
  deriving DecidableEq, Repr

/-- What comes of a run. -/
structure Outcome where
  result : Except Failure Summary
  /-- The lines of the report. -/
  out : List Console.Line
  /-- The notes and warnings. -/
  err : List Console.Line
  tree : FileTree

namespace Run

open Console

/-! ## Configuration -/

/-- The configuration in force, and the notes about it. -/
def configuration (t : FileTree) (o : Options) : Except Config.LoadError (Config × List Line) :=
  match o.config with
  | some path => (Config.ofFile t path).map fun c => (c, [])
  | none => (Config.ofDirectory t o.dir).map fun (c, source) =>
    (c, if o.verbose then [Report.configNote source] else [])

/-! ## Consoles -/

/-- The warnings about single files and paths, if they are asked for. -/
def warnings {α : Type} (o : Options) (s : Survey α) : List Line :=
  if o.verbose then s.warnings else []

/-- The last warning, which counts what could not be read. -/
def lastWarning {α : Type} (o : Options) (s : Survey α) : List Line :=
  if 0 < s.unreadable ∧ ¬ o.verbose then [Report.unreadableWarning s.unreadable] else []

/-- The last line of the report. -/
def summaryLine {α : Type} (noun : String) (s : Survey α) : Line :=
  Report.summaryLine noun s.filesRead s.records.length

/-! ## The kinds of run -/

/-- What a survey, the repeated keys in it and the written resource files amount to. -/
def summary {α : Type} (s : Survey α) (repeats : Nat) (written : List Resource) : Summary where
  filesScanned := s.filesRead
  recordsFound := s.records.length
  duplicateCount := repeats
  unreadableCount := s.unreadable
  written := written.map Resource.path

/-- A run that looks for literals. -/
def check (t : FileTree) (o : Options) (c : Config) : Outcome :=
  let s := Survey.ofDirectory Literal.ofText t o.dir c
  { result := .ok (summary s 0 [])
    out := s.lines "literal" o.dir ++ [summaryLine "literal" s]
    err := warnings o s ++ lastWarning o s
    tree := t }

/-- A run that writes or plans, after its survey. -/
def finish (o : Options) (s : Survey Entry) (lines : List Line) (written : List Resource)
    (failure? : Option Failure) (t : FileTree) : Outcome :=
  let repeats := Entry.repeats s.records
  let out := s.lines "string" o.dir ++ Report.repeatLines repeats ++ lines
  match failure? with
  | some f => ⟨.error f, out, warnings o s, t⟩
  | none => ⟨.ok (summary s repeats.length written), out ++ [summaryLine "string" s],
      warnings o s ++ lastWarning o s, t⟩

/-- A run that plans the updates. -/
def plan (t : FileTree) (o : Options) (c : Config) : Outcome :=
  let s := Survey.ofDirectory Entry.ofText t o.dir c
  let ps := Resource.planAll t s.records (c.resources o.dir)
  finish o s (ps.plans.map fun p => Report.planLine p.1 p.2) [] (ps.failure?.map .plan) t

/-- A run that updates the resource files. -/
def generate (t : FileTree) (o : Options) (c : Config) : Outcome :=
  let s := Survey.ofDirectory Entry.ofText t o.dir c
  let ws := Resource.writeAll t s.records (c.resources o.dir)
  finish o s (ws.written.map fun w => Report.writeLine w.2 w.1) (ws.written.map Prod.fst)
    (ws.failure?.map .update) ws.tree

/-- The run of a kind, with its configuration. -/
def withConfig (t : FileTree) (o : Options) (c : Config) : Outcome :=
  if o.check then check t o c else if o.dryRun then plan t o c else generate t o c

end Run

/-- The outcome of a run. -/
def run (t : FileTree) (o : Options) : Outcome :=
  match Run.configuration t o with
  | .error e => ⟨.error (.config e), [], [], t⟩
  | .ok (c, notes) =>
    let r := Run.withConfig t o c
    { r with err := notes ++ r.err }

end LocalizedStrings
