import LocalizedStrings.Proofs.Run.Generate

/-!
# Checking runs

A checking run leaves the tree as it is. All that it tells comes from the files that its selection
gives and from their texts: it plans and writes no update, and it does not look at the locales and
the name of the resource files in its configuration.

* `SameScan`: the same files with the same texts are scanned.
* `SameScan.lines`, `SameScan.summary`: a survey tells the same of them.
* `Run.withConfig_check`: a checking run is neither a dry run nor a generating one.
* **`Run.check_eq`**: what a checking run with a configuration depends on.
* **`run_check`**: a checking run from its beginning to its end.
-/

namespace LocalizedStrings

variable {t u : FileTree} {dir : String} {c d : Config}

/-! ## Scans -/

/-- A scan of the directory gives the same files in both trees, with the same texts or with no text
in them, and as many paths that cannot be looked at. -/
structure SameScan (dir : String) (t : FileTree) (c : Config) (u : FileTree) (d : Config) :
    Prop where
  files : sourceFiles u dir d = sourceFiles t dir c
  texts : ∀ path ∈ sourceFiles t dir c, (u.readText path).toOption = (t.readText path).toOption
  skipped : (Selection.ofDirectory u dir d.sourceExtensions d.ignores).skipped =
    (Selection.ofDirectory t dir c.sourceExtensions c.ignores).skipped

namespace SameScan

variable (h : SameScan dir t c u d)

include h

theorem sourceTexts : sourceTexts u dir d = sourceTexts t dir c := by
  unfold LocalizedStrings.sourceTexts
  rw [h.files]
  exact List.filterMap_congr fun path hp => by rw [h.texts path hp]

variable {α : Type} (ofText : String → List Char → List α)

theorem records : (Survey.ofDirectory ofText u dir d).records =
    (Survey.ofDirectory ofText t dir c).records := by
  rw [Survey.records_eq, Survey.records_eq, h.sourceTexts]

theorem filesRead : (Survey.ofDirectory ofText u dir d).filesRead =
    (Survey.ofDirectory ofText t dir c).filesRead := by
  rw [Survey.filesRead_eq, Survey.filesRead_eq, h.sourceTexts]

theorem unreadable : (Survey.ofDirectory ofText u dir d).unreadable =
    (Survey.ofDirectory ofText t dir c).unreadable := by
  -- As many paths are selected in both trees, and as many of these are read.
  have ht := Survey.filesRead_add_unreadable_eq ofText t dir c
  have hu := Survey.filesRead_add_unreadable_eq ofText u dir d
  rw [h.filesRead, h.files, h.skipped] at hu
  omega

theorem lines [Record α] (noun : String) :
    (Survey.ofDirectory ofText u dir d).lines noun dir =
      (Survey.ofDirectory ofText t dir c).lines noun dir := by
  rw [Survey.lines_eq, Survey.lines_eq, h.sourceTexts]

theorem summary (repeats : Nat) (written : List Resource) :
    Run.summary (Survey.ofDirectory ofText u dir d) repeats written =
      Run.summary (Survey.ofDirectory ofText t dir c) repeats written := by
  simp only [Run.summary, h.filesRead, h.records, h.unreadable]

end SameScan

/-! ## Checking runs with a configuration -/

namespace Run

variable {o o' : Options} {notes notes' : List Console.Line}

theorem withConfig_check (hcheck : o.check = true) : withConfig t o c = check t o c := by
  simp only [withConfig, hcheck, if_true]

theorem check_eq (hdir : o'.dir = o.dir) (h : SameScan o.dir t c u d) :
    (check u o' d).result = (check t o c).result ∧ (check u o' d).out = (check t o c).out := by
  unfold check
  rw [hdir]
  constructor
  · exact congrArg Except.ok (h.summary Literal.ofText 0 [])
  · simp only [summaryLine, h.lines, h.filesRead, h.records]

theorem run_of_error {e : Config.LoadError} (h : configuration t o = .error e) :
    run t o = ⟨.error (.config e), [], [], t⟩ := by
  rw [run, h]

theorem tree_check (hcheck : o.check = true) : (run t o).tree = t := by
  cases h : configuration t o with
  | error e => rw [run_of_error h]
  | ok p =>
    obtain ⟨c, notes⟩ := p
    rw [tree_eq h, withConfig_check hcheck]
    rfl

theorem run_dryRun_of_check (hcheck : o.check = true) (b : Bool) :
    run t { o with dryRun := b } = run t o := by
  have hconfig : configuration t { o with dryRun := b } = configuration t o := rfl
  have hcheck' : ({ o with dryRun := b } : Options).check = true := hcheck
  unfold run
  rw [hconfig]
  cases configuration t o with
  | error e => rfl
  | ok p =>
    simp only [withConfig_check hcheck, withConfig_check hcheck']
    rfl

end Run

open Run

/-- **A checking run.** It leaves the tree as it is, whatever comes of it, and is the same if
updates are only to be planned. It fails if its configuration cannot be loaded. Else it succeeds,
has written nothing, reports no repeated keys and has found the literals of all source files that
hold a text, and each other checking run of the directory in which the same is scanned, in whatever
tree and with whatever configuration, has the same result and prints the same. -/
theorem run_check {t : FileTree} {o : Options} (hcheck : o.check = true) :
    (run t o).tree = t ∧
    (∀ b, run t { o with dryRun := b } = run t o) ∧
    (∀ e, configuration t o = .error e →
      (run t o).result = .error (.config e) ∧ (run t o).out = []) ∧
    ∀ c notes, configuration t o = .ok (c, notes) →
      (∃ s, (run t o).result = .ok s ∧ s.written = [] ∧ s.duplicateCount = 0 ∧
        s.recordsFound =
          ((sourceTexts t o.dir c).flatMap fun x => Literal.ofText x.1 x.2.toList).length) ∧
      ∀ u o' d notes', o'.check = true → o'.dir = o.dir →
        configuration u o' = .ok (d, notes') → SameScan o.dir t c u d →
        (run u o').result = (run t o).result ∧ (run u o').out = (run t o).out := by
  refine ⟨tree_check hcheck, run_dryRun_of_check hcheck, fun e he => ?_, fun c notes hc => ⟨?_, ?_⟩⟩
  · rw [run_of_error he]
    exact ⟨rfl, rfl⟩
  · rw [result_eq hc, withConfig_check hcheck]
    exact ⟨_, rfl, rfl, rfl, congrArg List.length (Survey.records_eq Literal.ofText t o.dir c)⟩
  · intro u o' d notes' hcheck' hdir hd h
    rw [result_eq hd, result_eq hc, out_eq hd, out_eq hc, withConfig_check hcheck,
      withConfig_check hcheck']
    exact check_eq hdir h

/-- A directory with one literal and no resource files. -/
def bareProject : FileTree :=
  (FileTree.empty.add ".git" [] .directory).add "A.swift" [] (.file "\"é\"".toUTF8)

/-- The same directory with a resource file that holds no text, and a configuration without
locales. -/
def cluttered : FileTree :=
  [("Base.lproj", [], .directory), ("Localizable.strings", ["Base.lproj"], .file ⟨#[0xFF]⟩),
    ("c.json", [], .file "\x7b\"locales\":[]\x7d".toUTF8)].foldl
      (fun t (n, p, node) => t.add n p node) bareProject

theorem run_check_cluttered :
    configuration bareProject { check := true } = .ok ({}, []) ∧
      configuration cluttered { check := true, config := some "c.json" } =
        .ok ({ locales := [] }, []) ∧
      SameScan "." bareProject {} cluttered { locales := [] } ∧
      (run bareProject { check := true }).tree = bareProject ∧
      (∃ s, (run bareProject { check := true }).result = .ok s ∧ s.recordsFound = 1) ∧
      (run cluttered { check := true, config := some "c.json" }).out =
        (run bareProject { check := true }).out := by
  have hc : configuration bareProject { check := true } = .ok ({}, []) :=
    configuration_of_git rfl (by decide +kernel) (by decide +kernel)
  have hd : configuration cluttered { check := true, config := some "c.json" } =
      .ok ({ locales := [] }, []) := by
    have hfile : Config.ofFile cluttered "c.json" = .ok { locales := [] } := by decide +kernel
    change (Config.ofFile cluttered "c.json").map (fun c => (c, [])) = _
    rw [hfile]
    rfl
  have hscan : SameScan "." bareProject {} cluttered { locales := [] } :=
    ⟨by decide +kernel, by decide +kernel, by decide +kernel⟩
  obtain ⟨htree, -, -, hrun⟩ := run_check (t := bareProject) (o := { check := true }) rfl
  obtain ⟨⟨s, hs, -, -, hfound⟩, hsame⟩ := hrun {} [] hc
  exact ⟨hc, hd, hscan, htree, ⟨s, hs, hfound.trans (by decide +kernel)⟩,
    (hsame cluttered { check := true, config := some "c.json" } _ [] rfl rfl hd hscan).2⟩

end LocalizedStrings
