import LocalizedStrings.Proofs.Extraction
import LocalizedStrings.Proofs.Resource.Updates
import LocalizedStrings.Proofs.Survey
import LocalizedStrings.Run

/-!
# Generating runs

A generating run surveys the tree as it is before the first update. It thus writes the same entries
to each resource file, even if one of these files is also scanned.

* `Entry.below`: the entries in the source files of a directory.
* `Run.result_eq`, `Run.tree_eq`, `Run.out_eq`: a run with a configuration.
* **`Run.result_generate`**, **`Run.out_generate`**, **`Run.isUpdated_generate`**: how it ends, what
  it prints and what it leaves.
* **`Run.generate_of_hasFile`**, **`Run.generate_of_missing`**: what the updates come to.
* **`run_generate`**: a generating run from its beginning to its end.
-/

namespace LocalizedStrings

open Resource (HasFile IsUpdated)

/-! ## Entries -/

/-- The entries in the source files of a directory, file by file. A file without a text gives
none. -/
def Entry.below (t : FileTree) (dir : String) (c : Config) : List Entry :=
  (Selection.ofDirectory t dir c.sourceExtensions c.ignores).files.flatMap fun path =>
    match t.readText path with
    | .ok text => Entry.ofText path text.toList
    | .error _ => []

theorem Entry.below_eq (t : FileTree) (dir : String) (c : Config) :
    below t dir c = ofTexts (sourceTexts t dir c) :=
  (flatMap_sourceTexts (fun path text => ofText path text.toList) t dir c).symm

theorem Survey.records_ofDirectory (t : FileTree) (dir : String) (c : Config) :
    (ofDirectory Entry.ofText t dir c).records = Entry.below t dir c := by
  rw [records_eq, Entry.below_eq]
  rfl

/-! ## Runs with a configuration -/

/-- The search for a configuration file ends at a directory that holds `.git`. -/
theorem Config.find?_of_git {t : FileTree} {dir : String}
    (h : t.hasPath (Path.join dir fileName) = false)
    (hg : t.hasPath (Path.join dir ".git") = true) : find? t dir = none := by
  rw [find?_eq, if_neg (Bool.eq_false_iff.1 h), if_pos hg]

namespace Run

variable {t : FileTree} {o : Options} {c : Config} {notes : List Console.Line}

theorem configuration_of_git (ho : o.config = none)
    (h : t.hasPath (Path.join o.dir Config.fileName) = false)
    (hg : t.hasPath (Path.join o.dir ".git") = true) :
    configuration t o = .ok ({}, if o.verbose then [Report.configNote none] else []) := by
  rw [configuration, ho, Config.ofDirectory, Config.find?_of_git h hg]
  rfl

theorem result_eq (h : configuration t o = .ok (c, notes)) :
    (run t o).result = (withConfig t o c).result := by
  rw [run, h]

theorem tree_eq (h : configuration t o = .ok (c, notes)) :
    (run t o).tree = (withConfig t o c).tree := by
  rw [run, h]

theorem out_eq (h : configuration t o = .ok (c, notes)) :
    (run t o).out = (withConfig t o c).out := by
  rw [run, h]

theorem result_finish (o : Options) (s : Survey Entry) (lines : List Console.Line)
    (written : List Resource) (failure? : Option Failure) (t : FileTree) :
    (finish o s lines written failure? t).result = match failure? with
      | some f => .error f
      | none => .ok (summary s (Entry.repeats s.records).length written) := by
  cases failure? <;> rfl

theorem tree_finish (o : Options) (s : Survey Entry) (lines : List Console.Line)
    (written : List Resource) (failure? : Option Failure) (t : FileTree) :
    (finish o s lines written failure? t).tree = t := by
  cases failure? <;> rfl

theorem withConfig_generate (hcheck : o.check = false) (hdry : o.dryRun = false) :
    withConfig t o c = generate t o c := by
  simp only [withConfig, hcheck, hdry, Bool.false_eq_true, if_false]

/-- The summary of a run that updates all resource files after this survey. -/
def updateSummary (o : Options) (c : Config) (s : Survey Entry) : Summary :=
  summary s (Entry.repeats s.records).length (c.resources o.dir)

/-- **How a generating run ends.** It fails at the first resource file that is missing. -/
theorem result_generate (t : FileTree) (o : Options) (c : Config) :
    (generate t o c).result = match (c.resources o.dir).find? fun r => ¬ HasFile t r with
      | some r => .error (.update (.missing r.path))
      | none => .ok (updateSummary o c (Survey.ofDirectory Entry.ofText t o.dir c)) := by
  obtain ⟨hw, hf, -⟩ := Resource.writeAll_eq t (Entry.below t o.dir c) (c.resources o.dir)
  rw [generate, Survey.records_ofDirectory, result_finish]
  simp only [hf, hw, List.map_map, Function.comp_def, List.map_id']
  cases h : (c.resources o.dir).find? fun r => ¬ HasFile t r with
  | some r => rfl
  | none =>
    rw [Resource.takeWhile_hasFile (Resource.find?_not_hasFile_eq_none_iff.1 h)]
    rfl

/-- **What a generating run leaves.** The resource files before the first one that is missing are
updated. -/
theorem isUpdated_generate (t : FileTree) (o : Options) (c : Config) :
    IsUpdated t (Entry.below t o.dir c) ((c.resources o.dir).takeWhile (HasFile t ·))
      (generate t o c).tree := by
  rw [generate, Survey.records_ofDirectory]
  simp only [tree_finish]
  exact (Resource.writeAll_eq t (Entry.below t o.dir c) (c.resources o.dir)).2.2

/-- **All resource files are there.** Each of them is updated. -/
theorem generate_of_hasFile (h : ∀ r ∈ c.resources o.dir, HasFile t r) :
    (∃ s, (generate t o c).result = .ok s ∧
        s.written = (c.resources o.dir).map Resource.path) ∧
      IsUpdated t (Entry.below t o.dir c) (c.resources o.dir) (generate t o c).tree := by
  have hu := isUpdated_generate t o c
  rw [Resource.takeWhile_hasFile h] at hu
  rw [result_generate, Resource.find?_not_hasFile_eq_none_iff.2 h]
  exact ⟨⟨_, rfl, rfl⟩, hu⟩

/-- **A resource file is missing.** Those before it are updated, and the others are not. -/
theorem generate_of_missing {pre post : List Resource} {r : Resource}
    (h : c.resources o.dir = pre ++ r :: post) (hpre : ∀ q ∈ pre, HasFile t q)
    (hr : ¬ HasFile t r) :
    (generate t o c).result = .error (.update (.missing r.path)) ∧
      IsUpdated t (Entry.below t o.dir c) pre (generate t o c).tree := by
  have hu := isUpdated_generate t o c
  rw [h, Resource.takeWhile_append_missing hpre hr] at hu
  rw [result_generate, h, Resource.find?_append_missing hpre hr]
  exact ⟨rfl, hu⟩

end Run

/-- **A generating run.** If there are files for all resource files, the run succeeds and updates
them with the entries of the scanned files. Else it fails at the first one that is missing, and has
updated those before it. -/
theorem run_generate {t : FileTree} {o : Options} {c : Config} {notes : List Console.Line}
    (hc : Run.configuration t o = .ok (c, notes)) (hcheck : o.check = false)
    (hdry : o.dryRun = false) :
    ((∀ r ∈ c.resources o.dir, HasFile t r) →
      (∃ s, (run t o).result = .ok s ∧ s.written = (c.resources o.dir).map Resource.path) ∧
        IsUpdated t (Entry.below t o.dir c) (c.resources o.dir) (run t o).tree) ∧
    ∀ pre r post, c.resources o.dir = pre ++ r :: post → (∀ q ∈ pre, HasFile t q) →
      ¬ HasFile t r →
      (run t o).result = .error (.update (.missing r.path)) ∧
        IsUpdated t (Entry.below t o.dir c) pre (run t o).tree := by
  rw [Run.result_eq hc, Run.tree_eq hc, Run.withConfig_generate hcheck hdry]
  exact ⟨Run.generate_of_hasFile, fun _ _ _ => Run.generate_of_missing⟩

/-! ## A project -/

/-- A project with one source file and two resource files, the first of which holds `base`. -/
def project (base : ByteArray) : FileTree :=
  [(".git", [], .directory), ("Base.lproj", [], .directory), ("ja.lproj", [], .directory),
    ("Localizable.strings", ["Base.lproj"], .file base),
    ("Localizable.strings", ["ja.lproj"], .file .empty),
    ("A.swift", [], .file "NSLocalizedString(\"a\", comment: \"b\")".toUTF8)].foldl
      (fun t (n, p, node) => t.add n p node) FileTree.empty

theorem run_generate_project :
    Run.configuration (project .empty) {} = .ok ({}, []) ∧
      (∃ s, (run (project .empty) {}).result = .ok s ∧
        s.written = ["./Base.lproj/Localizable.strings", "./ja.lproj/Localizable.strings"]) ∧
      (run (project .empty) {}).tree.node? ["Localizable.strings", "ja.lproj"] =
        some (.file "\"a\" = \"b\";\n".toUTF8) := by
  have hc : Run.configuration (project .empty) {} = .ok ({}, []) :=
    Run.configuration_of_git rfl (by decide +kernel) (by decide +kernel)
  have hfiles : ∀ r ∈ ({} : Config).resources ".", HasFile (project .empty) r := by
    decide +kernel
  have hes : Entry.below (project .empty) "." {} = [⟨"a", "b", "./A.swift", 1⟩] := by
    rw [← Survey.records_ofDirectory]
    decide +kernel
  have hp : (project .empty).filePlace? "./ja.lproj/Localizable.strings" =
      some ["Localizable.strings", "ja.lproj"] := by decide +kernel
  obtain ⟨⟨s, hs, hw⟩, hu⟩ := (run_generate hc rfl rfl).1 hfiles
  refine ⟨hc, ⟨s, hs, hw.trans (by decide +kernel)⟩, ?_⟩
  have hn := hu.written [⟨"./Base.lproj/Localizable.strings", .base⟩]
    ⟨"./ja.lproj/Localizable.strings", .comment⟩ [] _ (by decide +kernel) hp nofun
  have hr : Entry.render (Entry.below (project .empty) "." {}) .comment = "\"a\" = \"b\";\n" := by
    rw [hes]
    decide +kernel
  rw [hn, ← hr]
  rfl

end LocalizedStrings
