import LocalizedStrings.Proofs.Config.Validity
import LocalizedStrings.Proofs.Run.Check
import LocalizedStrings.Proofs.Run.Repeated

/-!
# Ignore entries of a run

A run gets its configuration from the file it is told, from one it finds, or from the defaults, and
it is checked in each case before anything is scanned. So the selection of source files, which would
pass over a malformed entry, never meets one. A run that gets no configuration ends at once: what it
comes to depends on no file but that of the configuration.

* `Run.check_of_configuration`: the configuration of a run passes its check.
* `Run.result_eq_config_iff`: a run tells if it got no configuration.
* **`run_ignores_inForce`**: the ignore entries of a run.
-/

namespace LocalizedStrings

open FileTree (SameLayout)
open Selection (IsInForce)

namespace Run

variable {t : FileTree} {o : Options} {c : Config} {notes : List Console.Line}

/-- **The configuration of a run passes its check**, wherever it is from. -/
theorem check_of_configuration (h : configuration t o = .ok (c, notes)) : c.check = .ok () := by
  unfold configuration at h
  split at h
  · next path _ =>
    cases hfile : Config.ofFile t path with
    | error e =>
      rw [hfile] at h
      cases h
    | ok d =>
      rw [hfile] at h
      cases h
      exact Config.check_of_ofFile hfile
  · cases hdir : Config.ofDirectory t o.dir with
    | error e =>
      rw [hdir] at h
      cases h
    | ok p =>
      rw [hdir] at h
      cases h
      exact Config.check_of_ofDirectory hdir

theorem result_withConfig_ne (t : FileTree) (o : Options) (c : Config) (e : Config.LoadError) :
    (withConfig t o c).result ≠ .error (.config e) := by
  unfold withConfig
  split_ifs
  · intro h
    cases h
  · rw [plan, result_finish]
    cases (Resource.planAll t _ (c.resources o.dir)).failure? <;> simp
  · rw [generate, result_finish]
    cases (Resource.writeAll t _ (c.resources o.dir)).failure? <;> simp

/-- **A run tells if it got no configuration**, and why. -/
theorem result_eq_config_iff {e : Config.LoadError} :
    (run t o).result = .error (.config e) ↔ configuration t o = .error e := by
  constructor
  · intro h
    cases hc : configuration t o with
    | error e' =>
      rw [run_of_error hc] at h
      cases h
      rfl
    | ok p =>
      rw [result_eq hc] at h
      exact absurd h (result_withConfig_ne t o p.1 e)
  · intro h
    rw [run_of_error h]

end Run

open Run

/-- **The ignore entries of a run.** A run that gets a configuration has one that passes its check.
So its selection warns of no entry, and each entry has its effect on the source files, as a glob if
it holds a wildcard and else as a path. A run that gets none says so and does nothing else: it
leaves the tree as it is and prints nothing, and the same comes of it in each tree of the same
layout in which the configuration file has the same text, whatever the other files hold. -/
theorem run_ignores_inForce (t : FileTree) (o : Options) :
    (∀ c notes, configuration t o = .ok (c, notes) →
      c.check = .ok () ∧ c.IsValid ∧
      (∀ pattern error, .glob pattern error ∉
        (Selection.ofDirectory t o.dir c.sourceExtensions c.ignores).warnings) ∧
      ∀ entry ∈ c.ignores, IsInForce o.dir entry (sourceFiles t o.dir c)) ∧
    ∀ e, ((run t o).result = .error (.config e) ↔ configuration t o = .error e) ∧
      (configuration t o = .error e → ∀ u, SameLayout t u →
        (∀ path, configFile? t o = some path → u.readText path = t.readText path) →
        run u o = ⟨.error (.config e), [], [], u⟩) := by
  refine ⟨fun c notes h => ?_, fun e => ⟨result_eq_config_iff, fun h u hlayout hread => ?_⟩⟩
  · have hcheck := check_of_configuration h
    have hvalid := Config.check_eq_ok_iff.1 hcheck
    exact ⟨hcheck, hvalid, Selection.glob_notMem_warnings hvalid t o.dir,
      fun entry => Selection.isInForce hvalid t o.dir⟩
  · exact run_of_error ((configuration_of_sameLayout hlayout hread).trans h)

/-- A directory with source files and a configuration file that has one ignore entry. -/
def ignoring (entry : String) : FileTree :=
  [("c.json", [], .file ("\x7b\"ignores\":[\"" ++ entry ++ "\"]\x7d").toUTF8),
    ("Pods", [], .directory), ("A.swift", ["Pods"], .file .empty),
    ("A.swift", [], .file .empty)].foldl (fun t (n, p, node) => t.add n p node) FileTree.empty

theorem run_ignores_inForce_entries :
    let o : Options := { config := some "c.json" }
    let c : Config := { ignores := ["**/Pods/**"] }
    let e : Config.LoadError := .invalid (.glob "Pods**" ⟨3, .component⟩)
    configuration (ignoring "**/Pods/**") o = .ok (c, []) ∧
      IsInForce "." "**/Pods/**" (sourceFiles (ignoring "**/Pods/**") "." c) ∧
      configuration (ignoring "Pods**") o = .error e ∧
      run (ignoring "Pods**") o = ⟨.error (.config e), [], [], ignoring "Pods**"⟩ := by
  intro o c e
  have hfile : Config.ofFile (ignoring "**/Pods/**") "c.json" = .ok c := by decide +kernel
  have hc : configuration (ignoring "**/Pods/**") o = .ok (c, []) := by
    change (Config.ofFile (ignoring "**/Pods/**") "c.json").map (fun c => (c, [])) = _
    rw [hfile]
    rfl
  have hfault : Config.ofFile (ignoring "Pods**") "c.json" = .error e := by decide +kernel
  have he : configuration (ignoring "Pods**") o = .error e := by
    change (Config.ofFile (ignoring "Pods**") "c.json").map (fun c => (c, [])) = _
    rw [hfault]
    rfl
  obtain ⟨hok, -⟩ := run_ignores_inForce (ignoring "**/Pods/**") o
  obtain ⟨-, herror⟩ := run_ignores_inForce (ignoring "Pods**") o
  exact ⟨hc, (hok c [] hc).2.2.2 _ (by decide +kernel), he,
    (herror e).2 he _ (SameLayout.refl _) fun _ _ => rfl⟩

end LocalizedStrings
