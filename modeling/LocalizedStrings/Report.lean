import LocalizedStrings.Console
import LocalizedStrings.Resource
import LocalizedStrings.Text.Width

/-!
# Report

The lines that tell what was found, what is written and what went wrong.

* `Report.readingLines`: what was found in a file.
* `Report.repeatLines`: repeated keys, in two columns.
* `Report.writeLine`, `Report.planLine`: a resource file that was or would be written.
* `Report.summaryLine`: how much was found in all.
* `Report.warning`, `Report.note`: lines that are no results.
-/

namespace LocalizedStrings.Report

open Console

/-! ## Numbers of things -/

/-- The plural of a noun: `y` at its end becomes `ies`, and else an `s` is added. -/
def plural (noun : String) : String :=
  match noun.toList.reverse with
  | 'y' :: stem => String.ofList stem.reverse ++ "ies"
  | _ => noun ++ "s"

/-- A number of things, as in `1 file` and `2 files`. -/
def count (n : Nat) (noun : String) : String :=
  toString n ++ " " ++ if n = 1 then noun else plural noun

/-! ## What was found -/

/-- The line before all files. -/
def scanLine (dir : String) : Line := [.styled .bold "Scan", " " ++ dir]

/-- The lines for a file and the values found in it. -/
def readingLines {α : Type} [Record α] (noun path : String) (found : List α) : List Line :=
  [.styled .cyan path] :: ["retrieve " ++ count found.length noun] ::
    found.map fun a => ["\t" ++ Record.verbose a]

/-- The number of columns that the widest of some texts takes. -/
def widest (texts : List String) : Nat :=
  texts.foldr (fun text w => max (Text.width text.toList) w) 0

/-- A text, filled up with spaces to a number of columns. -/
def padded (columns : Nat) (text : String) : String :=
  text ++ String.ofList (List.replicate (columns - Text.width text.toList) ' ')

/-- The lines for repeated keys: the first value in one column, the later one in the other. -/
def repeatLines {α : Type} [Record α] (repeats : List (α × α)) : List Line :=
  let columns := widest (repeats.map fun r => Record.short r.1)
  [.styled .bold "Check duplicate"] :: repeats.map fun r =>
    ["\t" ++ padded columns (Record.short r.1) ++ " ", .styled .yellow "<=>",
      " " ++ Record.short r.2]

/-! ## What is written -/

/-- The line for a resource file that was written with `n` entries. -/
def writeLine (n : Nat) (r : Resource) : Line :=
  [.styled .bold "Write", " " ++ r.path ++ " (" ++ count n "entry" ++ ")"]

/-- What a plan would change. -/
def changes (p : Plan) : Piece :=
  if p.isUnchanged then .styled .dimmed "unchanged"
  else toString p.added ++ " added, " ++ toString p.removed ++ " removed, " ++
    toString p.changed ++ " changed"

/-- The line for a resource file that would be written. -/
def planLine (r : Resource) (p : Plan) : Line :=
  [.styled .bold "Would write", " " ++ r.path ++ " (" ++ count p.entryCount "entry" ++ ", ",
    changes p, ")"]

/-- The line after all others. -/
def summaryLine (noun : String) (files found : Nat) : Line :=
  [.styled .green "✓", " ",
    .styled .green ("Scanned " ++ count files "file" ++ ", found " ++ count found noun)]

/-! ## What is said beside the results -/

/-- A warning. -/
def warning (message : Line) : Line := .styled .boldYellow "warning:" :: .plain " " :: message

/-- A note. -/
def note (message : Line) : Line := .styled .boldCyan "note:" :: .plain " " :: message

/-- The note about the configuration that was found. -/
def configNote : Option String → Line
  | some path => note ["using config " ++ path]
  | none => note ["no config file found, using defaults"]

/-- The warning about `n` files that could not be read. -/
def unreadableWarning (n : Nat) : Line :=
  warning [toString n ++ " file(s) could not be read (use ", .styled .cyan "-v", " for details)"]

end LocalizedStrings.Report
