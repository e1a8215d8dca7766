import LocalizedStrings.Proofs.Resource.ReadBack
import LocalizedStrings.Proofs.Run.Generate
import LocalizedStrings.Proofs.Source.Grammar

/-!
# Repeated runs

A generating run may scan resource files itself. What it then writes to them holds no call: a line
of a resource file has only four quotes and starts with one, while a call needs four and starts with
none. So from the second run on the resource files give no entries, all other source files are as
they were, and each run writes what the one before it wrote.

* **`Entry.ofText_render_eq_nil`**: a rendered text holds no call.
* `Run.configFile?`, `Run.configuration_of_sameLayout`: the configuration stays in force.
* `Run.IsRepeatable`: what a run and all those after it rely on.
* `Run.treeAfter`: the tree after some runs; **`Run.IsRepeatable.isUpdated_treeAfter`**: what it
  amounts to.
* **`runs_converge`**: repeated runs come to rest.
-/

namespace LocalizedStrings

open FileTree (SameFile SameLayout)
open Resource (HasFile IsUpdated)
open Source

variable {t u v : FileTree}

/-! ## Rendered texts -/

theorem Source.IsCall.count_quote {a : Call} {s : List Char} (h : IsCall a s) :
    4 ≤ s.count '"' := by
  obtain ⟨w₁, w₂, -, -, rfl⟩ := h.form
  simp only [List.count_append]
  have h₁ : "NSLocalizedString(\"".toList.count '"' = 1 := by decide
  have h₂ : "\",".toList.count '"' = 1 := by decide
  have h₃ : "\"".toList.count '"' = 1 := by decide
  have h₄ : "\")".toList.count '"' = 1 := by decide
  omega

theorem Pair.count_quote_text {p : Pair} (h : p.IsInline) : p.text.count '"' = 4 := by
  simp [text, afterKey, List.count_append,
    List.count_eq_zero_of_not_mem h.key.quote, List.count_eq_zero_of_not_mem h.value.quote]

/-- **No call starts in a line of a resource file.** -/
theorem Pair.find?_call_text {p : Pair} (h : p.IsInline) : call.find? p.text = none := by
  rw [call_recognizes.find?_eq_none_iff]
  rintro q s hs ⟨a, u, hu, r, rfl⟩
  have hcount := congrArg (List.count '"') hs
  rw [count_quote_text h, List.count_append, List.count_append] at hcount
  have hfour := hu.count_quote
  cases q with
  | nil =>
    have hhead := hu.head?
    cases u with
    | nil => cases hhead
    | cons c u =>
      cases hhead
      exact absurd (List.cons.inj hs).1 (by decide)
  | cons c q =>
    -- All four quotes are in the call, but the line starts with one of them.
    obtain ⟨rfl, -⟩ := List.cons.inj hs
    rw [List.count_cons_self] at hcount
    omega

/-- **A rendered text holds no call.** -/
theorem Entry.ofText_render_eq_nil (file : String) (texts : List (String × String))
    (field : Field) : ofText file (render (ofTexts texts) field).toList = [] := by
  have hinline : ∀ p ∈ (sorted (ofTexts texts)).map (pair field), p.IsInline :=
    fun _ => isInline_sorted
  refine List.eq_nil_iff_forall_not_mem.2 fun e he => ?_
  obtain ⟨l, n, hl, he⟩ := Text.mem_onLines.1 he
  have hl := Text.mem_lines_of_mem_numbered hl
  rw [toList_render, Pair.lines_flatMap_line hinline] at hl
  obtain ⟨p, hp, rfl⟩ := List.mem_map.1 hl
  rw [ofLine, call.findAll_of_none (Pair.find?_call_text (hinline p hp))] at he
  cases he

/-! ## The configuration -/

theorem Config.find?_of_sameLayout (h : SameLayout t u) (dir : String) :
    find? u dir = find? t dir := by
  rw [find?_eq, find?_eq t, h.hasPath, h.hasPath]
  cases hp : Path.parent? dir with
  | none => rfl
  | some parent => rw [Option.bind_some, Option.bind_some, find?_of_sameLayout h parent]
termination_by dir.length
decreasing_by exact Path.length_parent?_lt hp

namespace Run

variable {o : Options} {c : Config} {notes : List Console.Line}

/-- The configuration file in force, if there is one. -/
def configFile? (t : FileTree) (o : Options) : Option String :=
  match o.config with
  | some path => some path
  | none => Config.find? t o.dir

theorem configFile?_of_sameLayout (h : SameLayout t u) (o : Options) :
    configFile? u o = configFile? t o := by
  rw [configFile?, configFile?, Config.find?_of_sameLayout h]

/-- **The configuration stays in force** as long as its file has the same text. -/
theorem configuration_of_sameLayout (h : SameLayout t u)
    (hread : ∀ path, configFile? t o = some path → u.readText path = t.readText path) :
    configuration u o = configuration t o := by
  unfold configFile? at hread
  unfold configuration
  cases hconfig : o.config with
  | some path =>
    rw [hconfig] at hread
    simp only [Config.ofFile, hread path rfl]
  | none =>
    rw [hconfig] at hread
    simp only [Config.ofDirectory, Config.find?_of_sameLayout h]
    cases hfind : Config.find? t o.dir with
    | none => rfl
    | some path => simp only [Config.ofFile, hread path hfind]

/-! ## Trees after updates -/

variable {es : List Entry} {rs : List Resource}

/-- **The same survey** of two trees after updates, whatever was written: a resource file among the
source files gives no entries. -/
theorem survey_eq_of_isUpdated {xs ys : List (String × String)}
    (hu : IsUpdated t (Entry.ofTexts xs) rs u) (hv : IsUpdated t (Entry.ofTexts ys) rs v)
    (dir : String) (c : Config) :
    Survey.ofDirectory Entry.ofText v dir c = Survey.ofDirectory Entry.ofText u dir c := by
  refine Survey.ofDirectory_of_sameLayout Entry.ofText (hu.layout.symm.trans hv.layout)
    fun path _ => ?_
  by_cases hs : ∃ r ∈ rs, SameFile t r.path path
  · obtain ⟨r, hr, hs⟩ := hs
    obtain ⟨q, -, hq⟩ := hu.readText_of_sameFile hr hs
    obtain ⟨q', -, hq'⟩ := hv.readText_of_sameFile hr hs
    simp only [FileTree.scan_eq, hq, hq', Entry.ofText_render_eq_nil]
  · have hno : ∀ r ∈ rs, ¬ SameFile t r.path path := fun r hr h => hs ⟨r, hr, h⟩
    rw [FileTree.scan_eq, FileTree.scan_eq, hu.readText_of_not_sameFile hno,
      hv.readText_of_not_sameFile hno]

/-- **The survey before the updates**, if no resource file is a source file. -/
theorem survey_eq_of_not_sameFile (hu : IsUpdated t es rs u) {dir : String} {c : Config}
    (hno : ∀ r ∈ rs, ∀ path ∈ sourceFiles t dir c, ¬ SameFile t r.path path) :
    Survey.ofDirectory Entry.ofText u dir c = Survey.ofDirectory Entry.ofText t dir c := by
  refine Survey.ofDirectory_of_sameLayout Entry.ofText hu.layout fun path hp => ?_
  rw [FileTree.scan_eq, FileTree.scan_eq,
    hu.readText_of_not_sameFile fun r hr => hno r hr path hp]

/-! ## Runs one after the other -/

/-- A generating run of the tree can be repeated: its resource files are all there, and none of them
is the configuration file. -/
structure IsRepeatable (t : FileTree) (o : Options) (c : Config) : Prop where
  check : o.check = false
  dryRun : o.dryRun = false
  configuration : ∃ notes, configuration t o = .ok (c, notes)
  files : ∀ r ∈ c.resources o.dir, HasFile t r
  configFile : ∀ r ∈ c.resources o.dir, ∀ path, configFile? t o = some path →
    ¬ SameFile t r.path path

/-- The tree after `n` runs. -/
def treeAfter (t : FileTree) (o : Options) : Nat → FileTree
  | 0 => t
  | n + 1 => (run (treeAfter t o n) o).tree

theorem isRepeatable_of_result {s : Summary} (hcheck : o.check = false) (hdry : o.dryRun = false)
    (hc : Run.configuration t o = .ok (c, notes)) (hs : (run t o).result = .ok s)
    (hconfig : ∀ r ∈ c.resources o.dir, ∀ path, configFile? t o = some path →
      ¬ SameFile t r.path path) : IsRepeatable t o c := by
  refine ⟨hcheck, hdry, ⟨notes, hc⟩, ?_, hconfig⟩
  rw [result_eq hc, withConfig_generate hcheck hdry, result_generate] at hs
  rw [← Resource.find?_not_hasFile_eq_none_iff]
  split at hs
  · cases hs
  · assumption

namespace IsRepeatable

variable (h : IsRepeatable t o c)

include h

/-- **A run** succeeds, and updates all resource files with what it finds. -/
theorem run_eq :
    (run t o).result = .ok (updateSummary o c (Survey.ofDirectory Entry.ofText t o.dir c)) ∧
      IsUpdated t (Entry.below t o.dir c) (c.resources o.dir) (run t o).tree := by
  obtain ⟨notes, hc⟩ := h.configuration
  have hu := isUpdated_generate t o c
  rw [Resource.takeWhile_hasFile h.files] at hu
  rw [result_eq hc, tree_eq hc, withConfig_generate h.check h.dryRun, result_generate,
    Resource.find?_not_hasFile_eq_none_iff.2 h.files]
  exact ⟨rfl, hu⟩

/-- **Updates keep a run repeatable.** -/
theorem of_isUpdated (hu : IsUpdated t es (c.resources o.dir) u) : IsRepeatable u o c where
  check := h.check
  dryRun := h.dryRun
  configuration := by
    rw [configuration_of_sameLayout hu.layout fun path hp =>
      hu.readText_of_not_sameFile fun r hr => h.configFile r hr path hp]
    exact h.configuration
  files r hr := (Resource.hasFile_of_sameLayout hu.layout r).2 (h.files r hr)
  configFile r hr path hp := by
    rw [configFile?_of_sameLayout hu.layout] at hp
    rw [hu.layout.sameFile_iff]
    exact h.configFile r hr path hp

theorem treeAfter (n : Nat) : IsRepeatable (treeAfter t o n) o c := by
  induction n with
  | zero => exact h
  | succ n ih => exact ih.of_isUpdated ih.run_eq.2

/-- **What some runs amount to.** The last of them decides. -/
theorem isUpdated_treeAfter (n : Nat) :
    IsUpdated t (Entry.below (Run.treeAfter t o n) o.dir c) (c.resources o.dir)
      (Run.treeAfter t o (n + 1)) := by
  induction n with
  | zero => exact h.run_eq.2
  | succ n ih => exact ih.trans (h.treeAfter (n + 1)).run_eq.2

/-- **One survey after each run.** -/
theorem survey_treeAfter (n : Nat) :
    Survey.ofDirectory Entry.ofText (Run.treeAfter t o (n + 1)) o.dir c =
      Survey.ofDirectory Entry.ofText (Run.treeAfter t o 1) o.dir c := by
  have h₁ := h.isUpdated_treeAfter 0
  have hn := h.isUpdated_treeAfter n
  rw [Entry.below_eq] at h₁ hn
  exact survey_eq_of_isUpdated h₁ hn o.dir c

/-- **Trees in which the same is found** are left in the same state. -/
theorem node?_treeAfter {m n : Nat}
    (hmn : Survey.ofDirectory Entry.ofText (Run.treeAfter t o m) o.dir c =
      Survey.ofDirectory Entry.ofText (Run.treeAfter t o n) o.dir c) (p : Place) :
    (Run.treeAfter t o (m + 1)).node? p = (Run.treeAfter t o (n + 1)).node? p := by
  have hm := h.isUpdated_treeAfter m
  rw [← Survey.records_ofDirectory, hmn, Survey.records_ofDirectory] at hm
  exact (h.isUpdated_treeAfter n).unique hm p

end IsRepeatable

end Run

open Run

/-- **Repeated runs come to rest.** Suppose that a generating run succeeds and that no resource file
is the configuration file. If no resource file is scanned, each further run gives the same summary
and leaves all files as they are. In any case, all runs from the second one on give one summary, and
leave all files as the second one left them. -/
theorem runs_converge {o : Options} {c : Config} {notes : List Console.Line} {s : Summary}
    (hcheck : o.check = false) (hdry : o.dryRun = false)
    (hc : configuration t o = .ok (c, notes)) (hs : (run t o).result = .ok s)
    (hconfig : ∀ r ∈ c.resources o.dir, ∀ path, configFile? t o = some path →
      ¬ SameFile t r.path path) :
    ((∀ r ∈ c.resources o.dir, ∀ path ∈ sourceFiles t o.dir c, ¬ SameFile t r.path path) →
      ∀ n, (run (treeAfter t o (n + 1)) o).result = .ok s ∧
        ∀ p, (treeAfter t o (n + 2)).node? p = (treeAfter t o 1).node? p) ∧
    ∃ s', ∀ n, (run (treeAfter t o (n + 1)) o).result = .ok s' ∧
      ∀ p, (treeAfter t o (n + 2)).node? p = (treeAfter t o 2).node? p := by
  have h := isRepeatable_of_result hcheck hdry hc hs hconfig
  constructor
  · intro hno n
    -- The first run does not change what is found either.
    have hn : Survey.ofDirectory Entry.ofText (treeAfter t o (n + 1)) o.dir c =
        Survey.ofDirectory Entry.ofText (treeAfter t o 0) o.dir c :=
      (h.survey_treeAfter n).trans (survey_eq_of_not_sameFile (h.isUpdated_treeAfter 0) hno)
    refine ⟨?_, h.node?_treeAfter hn⟩
    rw [(h.treeAfter (n + 1)).run_eq.1, hn, ← hs]
    exact h.run_eq.1.symm
  · refine ⟨updateSummary o c (Survey.ofDirectory Entry.ofText (treeAfter t o 1) o.dir c),
      fun n => ⟨?_, h.node?_treeAfter (h.survey_treeAfter n)⟩⟩
    rw [(h.treeAfter (n + 1)).run_eq.1, h.survey_treeAfter n]

/-- A project that scans its own resource files, of which the first one holds a call. -/
def selfScanned : FileTree :=
  [("Base.lproj", [], .directory), ("ja.lproj", [], .directory),
    (".swiftlocrc.json", [], .file "\x7b\"sourceExtensions\":[\"strings\"]\x7d".toUTF8),
    ("Localizable.strings", ["ja.lproj"], .file .empty),
    ("Localizable.strings", ["Base.lproj"],
      .file "NSLocalizedString(\"a\", comment: \"b\")".toUTF8)].foldl
      (fun t (n, p, node) => t.add n p node) FileTree.empty

/-- The configuration of this project. -/
def scanStrings : Config := { sourceExtensions := ["strings"] }

theorem isRepeatable_project : IsRepeatable (project .empty) {} {} := by
  have hrc : (project .empty).hasPath (Path.join "." Config.fileName) = false := by decide +kernel
  have hgit : (project .empty).hasPath (Path.join "." ".git") = true := by decide +kernel
  have hnone : configFile? (project .empty) {} = none := Config.find?_of_git hrc hgit
  refine ⟨rfl, rfl, ⟨[], configuration_of_git rfl hrc hgit⟩, by decide +kernel, ?_⟩
  intro r _ path hp
  rw [hnone] at hp
  cases hp

theorem isRepeatable_selfScanned : IsRepeatable selfScanned {} scanStrings := by
  have hfind : Config.find? selfScanned "." = some "./.swiftlocrc.json" := by
    rw [Config.find?_eq, if_pos (by decide +kernel)]
    decide +kernel
  have hfile : Config.ofFile selfScanned "./.swiftlocrc.json" = .ok scanStrings := by
    decide +kernel
  have hc : Run.configuration selfScanned {} = .ok (scanStrings, []) := by
    rw [Run.configuration, Config.ofDirectory, hfind]
    simp only [hfile]
    rfl
  have hother : ∀ r ∈ scanStrings.resources ".",
      ¬ SameFile selfScanned r.path "./.swiftlocrc.json" := by
    decide +kernel
  refine ⟨rfl, rfl, ⟨[], hc⟩, by decide +kernel, fun r hr path hp => ?_⟩
  rw [configFile?, hfind] at hp
  cases hp
  exact hother r hr

/-- **Two projects.** One does not scan its resource files, and the other one scans nothing else. -/
theorem runs_converge_projects :
    IsRepeatable (project .empty) {} {} ∧
      (∃ s, (run (project .empty) {}).result = .ok s ∧
        ∀ n, (run (treeAfter (project .empty) {} (n + 1)) {}).result = .ok s ∧
          ∀ p, (treeAfter (project .empty) {} (n + 2)).node? p =
            (treeAfter (project .empty) {} 1).node? p) ∧
      IsRepeatable selfScanned {} scanStrings ∧
      sourceFiles selfScanned "." scanStrings =
        (scanStrings.resources ".").map Resource.path ∧
      ∃ s, ∀ n, (run (treeAfter selfScanned {} (n + 1)) {}).result = .ok s ∧
        ∀ p, (treeAfter selfScanned {} (n + 2)).node? p =
          (treeAfter selfScanned {} 2).node? p := by
  have h := isRepeatable_project
  have h' := isRepeatable_selfScanned
  obtain ⟨notes, hc⟩ := h.configuration
  obtain ⟨notes', hc'⟩ := h'.configuration
  have hno : ∀ r ∈ ({} : Config).resources ".", ∀ path ∈ sourceFiles (project .empty) "." {},
      ¬ SameFile (project .empty) r.path path := by
    decide +kernel
  have hselected : sourceFiles selfScanned "." scanStrings =
      (scanStrings.resources ".").map Resource.path :=
    (List.mergeSort_of_pairwise (by decide +kernel)).trans (by decide +kernel)
  have hrest := runs_converge rfl rfl hc h.run_eq.1 h.configFile
  have hrest' := runs_converge rfl rfl hc' h'.run_eq.1 h'.configFile
  exact ⟨h, ⟨_, h.run_eq.1, hrest.1 hno⟩, h', hselected, hrest'.2⟩

end LocalizedStrings
