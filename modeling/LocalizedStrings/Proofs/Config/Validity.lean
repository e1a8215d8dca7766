import LocalizedStrings.Config.Load
import LocalizedStrings.Proofs.Selection.Exact

/-!
# Valid configurations

A configuration passes its check if all of its ignore entries that hold a wildcard are well-formed
globs, if there are extensions to look for, and if the name of the resource files is not blank. Each
configuration that is loaded passes: one from a file is checked, and so are the defaults.

* `Text.trim_eq_nil_iff`, `Glob.fault?_eq_none_iff`: the parts of the check.
* `Config.IsValid`, **`Config.check_eq_ok_iff`**: the configurations that pass.
* `Config.check_of_ofFile`, `Config.check_of_ofDirectory`: what is loaded passes.
* **`Selection.glob_notMem_warnings`**: no entry of a valid configuration is left out.
* `Selection.IsInForce`, `Selection.isInForce`: each entry has its effect on what is selected.
-/

namespace LocalizedStrings

/-! ## Parts of the check -/

theorem Text.trim_eq_nil_iff {s : List Char} : trim s = [] ↔ ∀ c ∈ s, isBlank c = true := by
  unfold trim
  rw [List.reverse_eq_nil_iff, List.dropWhile_eq_nil_iff]
  constructor
  · intro h
    cases hd : s.dropWhile isBlank with
    | nil => exact List.dropWhile_eq_nil_iff.1 hd
    | cons c r =>
      -- The first character that is left is not blank.
      have hhead := List.head?_dropWhile_not isBlank s
      rw [hd] at h hhead
      have hc := h c (by simp)
      simp [hc] at hhead
  · intro h c hc
    rw [List.dropWhile_eq_nil_iff.2 h] at hc
    cases hc

theorem Glob.fault?_eq_none_iff {pattern : String} :
    fault? pattern = none ↔ (isGlob pattern = true → ∃ g, parse pattern = .ok g) := by
  unfold fault?
  split_ifs with h
  · cases parse pattern with
    | ok g => simp
    | error e => simp [h]
  · simp [h]

namespace Config

variable {c : Config}

/-- What a configuration has to satisfy. -/
structure IsValid (c : Config) : Prop where
  /-- Each ignore entry with a wildcard is a well-formed glob. -/
  globs : ∀ e ∈ c.ignores, '*' ∈ e.toList ∨ '?' ∈ e.toList → ∃ g, Glob.parse e = .ok g
  extensions : c.sourceExtensions ≠ []
  /-- The name of the resource files is not blank. -/
  fileName : ∃ d ∈ c.resourceFileName.toList, Text.isBlank d = false

/-- **The configurations that pass the check.** -/
theorem check_eq_ok_iff : c.check = .ok () ↔ c.IsValid := by
  have hglobs : (c.ignores.findSome? fun p => (Glob.fault? p).map (Invalid.glob p)) = none ↔
      ∀ e ∈ c.ignores, '*' ∈ e.toList ∨ '?' ∈ e.toList → ∃ g, Glob.parse e = .ok g := by
    simp only [List.findSome?_eq_none_iff, Option.map_eq_none_iff, Glob.fault?_eq_none_iff,
      Selection.isGlob_iff]
  have hname : (Text.trim c.resourceFileName.toList).isEmpty = false ↔
      ∃ d ∈ c.resourceFileName.toList, Text.isBlank d = false := by
    rw [Bool.eq_false_iff, ne_eq, List.isEmpty_iff, Text.trim_eq_nil_iff]
    simp
  unfold check
  constructor
  · intro h
    split at h
    · cases h
    · next hnone =>
      split_ifs at h with hextensions hblank
      exact ⟨hglobs.1 hnone, fun e => hextensions (List.isEmpty_iff.2 e),
        hname.1 (Bool.eq_false_iff.2 hblank)⟩
  · rintro ⟨hg, hextensions, hfile⟩
    rw [hglobs.2 hg]
    simp only [mt List.isEmpty_iff.1 hextensions, hname.2 hfile]
    rfl

/-! ## Loaded configurations -/

theorem check_of_ofFile {t : FileTree} {path : String} (h : ofFile t path = .ok c) :
    c.check = .ok () := by
  unfold ofFile at h
  cases hread : t.readText path with
  | error e =>
    rw [hread] at h
    cases h
  | ok text =>
    rw [hread] at h
    cases htext : ofText text.toList with
    | error e =>
      simp only [Except.mapError, htext, bind, Except.bind] at h
      cases h
    | ok d =>
      simp only [Except.mapError, htext, bind, Except.bind] at h
      cases hcheck : d.check with
      | error e =>
        rw [hcheck] at h
        cases h
      | ok u =>
        rw [hcheck] at h
        cases h
        exact hcheck

theorem check_default : ({} : Config).check = .ok () := by decide +kernel

/-- What is in force for a directory passes the check, whether it is from a file or not. -/
theorem check_of_ofDirectory {t : FileTree} {dir : String} {source : Option String}
    (h : ofDirectory t dir = .ok (c, source)) : c.check = .ok () := by
  unfold ofDirectory at h
  split at h
  · next path _ =>
    cases hfile : ofFile t path with
    | error e =>
      rw [hfile] at h
      cases h
    | ok d =>
      rw [hfile] at h
      cases h
      exact check_of_ofFile hfile
  · cases h
    exact check_default

end Config

/-! ## Ignore entries -/

namespace Selection

open LocalizedStrings.Path (components)

variable {c : Config}

/-- **No entry is left out.** A selection with valid ignore entries warns of none of them. -/
theorem glob_notMem_warnings (h : c.IsValid) (t : FileTree) (root : String) (pattern : String)
    (error : Glob.Error) :
    .glob pattern error ∉ (ofDirectory t root c.sourceExtensions c.ignores).warnings := by
  intro hmem
  rcases List.mem_append.1 hmem with hmem | hmem
  · obtain ⟨e, he, hfault⟩ := List.mem_filterMap.1 hmem
    have hnone : Glob.fault? e = none :=
      Glob.fault?_eq_none_iff.2 fun hwild => h.globs e he (isGlob_iff.1 hwild)
    rw [hnone] at hfault
    cases hfault
  · obtain ⟨⟨path, seen⟩, -, hseen⟩ := List.mem_filterMap.1 hmem
    cases seen <;> cases hseen

/-- The ignore entry has an effect on these files, selected from the directory `root`: it holds no
wildcard and they are not at or below the path that it stands for, or it is a well-formed glob and
does not cover their paths. -/
def IsInForce (root entry : String) (files : List String) : Prop :=
  ('*' ∉ entry.toList ∧ '?' ∉ entry.toList ∧
    ∀ path ∈ files, ¬ components (Path.join root entry) <+: components path) ∨
  (('*' ∈ entry.toList ∨ '?' ∈ entry.toList) ∧
    ∃ g, Glob.parse entry = .ok g ∧ ∀ path ∈ files, g.covers path = false)

theorem isInForce (h : c.IsValid) (t : FileTree) (root : String) {entry : String}
    (hentry : entry ∈ c.ignores) :
    IsInForce root entry (ofDirectory t root c.sourceExtensions c.ignores).files := by
  by_cases hwild : '*' ∈ entry.toList ∨ '?' ∈ entry.toList
  · obtain ⟨g, hg⟩ := h.globs entry hentry hwild
    exact .inr ⟨hwild, g, hg, fun path hpath =>
      (mem_files_iff.1 hpath).2.glob entry hentry hwild g hg⟩
  · obtain ⟨hstar, hmark⟩ := not_or.1 hwild
    exact .inl ⟨hstar, hmark, fun path hpath =>
      (mem_files_iff.1 hpath).2.literal entry hentry hstar hmark⟩

end Selection

end LocalizedStrings
