import LocalizedStrings.Config
import LocalizedStrings.Report
import LocalizedStrings.Selection

/-!
# Survey of a directory

A survey reads the source files of a directory one after the other. A file that cannot be read is
counted and passed over.

* `Reading`: a source file, and what was found in it.
* `Survey`: the readings of a directory, and what its selection could not look at.
* `Survey.records`, `Survey.filesRead`, `Survey.unreadable`: what the readings amount to.
* `Survey.lines`, `Survey.warnings`: what is said about them.
* **`Survey.filesRead_add_unreadable`**: each source file is either read or counted as unreadable.
-/

namespace LocalizedStrings

/-- A source file, and what was found in it. -/
structure Reading (α : Type) where
  path : String
  found : Except FileError (List α)

namespace Reading

variable {α : Type}

/-- The file could be read. -/
def isRead (r : Reading α) : Bool := r.found.toBool

/-- The values found in the file, none if it could not be read. -/
def records (r : Reading α) : List α := r.found.toOption.getD []

/-- Why the file could not be read. -/
def error? (r : Reading α) : Option FileError :=
  match r.found with
  | .ok _ => none
  | .error e => some e

/-- What is said about a file that could be read. -/
def lines [Record α] (noun : String) (r : Reading α) : List Console.Line :=
  match r.found with
  | .ok found => Report.readingLines noun r.path found
  | .error _ => []

end Reading

/-- The readings of the source files of a directory. -/
structure Survey (α : Type) where
  readings : List (Reading α)
  /-- The number of paths that could not be looked at. -/
  skipped : Nat
  selectionWarnings : List Selection.Warning

namespace Survey

variable {α : Type}

/-- The survey of a directory, for what `ofText` finds. -/
def ofDirectory (ofText : String → List Char → List α) (t : FileTree) (dir : String) (c : Config) :
    Survey α :=
  let s := Selection.ofDirectory t dir c.sourceExtensions c.ignores
  ⟨s.files.map fun path => ⟨path, t.scan ofText path⟩, s.skipped, s.warnings⟩

/-- All that was found, file by file. -/
def records (s : Survey α) : List α := s.readings.flatMap Reading.records

/-- The number of files that could be read. -/
def filesRead (s : Survey α) : Nat := s.readings.countP Reading.isRead

/-- The number of files and paths that could not be read. -/
def unreadable (s : Survey α) : Nat := s.skipped + s.readings.countP fun r => !r.isRead

/-- **Each source file is either read or counted as unreadable.** -/
theorem filesRead_add_unreadable (s : Survey α) :
    s.filesRead + s.unreadable = s.readings.length + s.skipped := by
  have h := s.readings.length_eq_countP_add_countP Reading.isRead
  simp only [Bool.not_eq_true] at h
  have e : (s.readings.countP fun r => !r.isRead) =
      s.readings.countP fun r => decide (r.isRead = false) :=
    List.countP_congr fun r _ => by cases r.isRead <;> simp
  unfold filesRead unreadable
  omega

/-- What is said about the readings, under the name `noun` for what is found. -/
def lines [Record α] (noun dir : String) (s : Survey α) : List Console.Line :=
  Report.scanLine dir :: s.readings.flatMap (Reading.lines noun)

/-- What is said about all that went wrong. -/
def warnings (s : Survey α) : List Console.Line :=
  (s.selectionWarnings.map fun w => Report.warning [w.message]) ++
    (s.readings.filterMap Reading.error?).map fun e => Report.warning [e.message]

end Survey

end LocalizedStrings
