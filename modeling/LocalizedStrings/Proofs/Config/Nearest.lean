import LocalizedStrings.Config.Load
import LocalizedStrings.Proofs.Path.Parent

/-!
# The nearest configuration

The search for a configuration file looks at a directory and then at its parents, one after another,
until none is left. It ends at the first one that holds a configuration file, and ends without one
if a directory before it holds `.git`. A file beside `.git` thus counts and one above it does not.

* `Config.IsNearest`: the directory whose configuration file counts.
* `isNearest_zero_iff`, `isNearest_succ_iff`: one step of the search.
* `Config.find?_eq_some_iff`: what the search finds.
* **`Config.search_finds_nearest`**: the search, and the configuration that comes of it.
-/

namespace LocalizedStrings.Config

open LocalizedStrings.Path (ancestor? ancestor?_succ components depth)

variable {t : FileTree} {dir d : String} {i : Nat}

/-- The directory `d`, which is `i` steps above `dir`, holds a configuration file, and no directory
before it holds one or holds `.git`. -/
structure IsNearest (t : FileTree) (dir : String) (i : Nat) (d : String) : Prop where
  ancestor : ancestor? dir i = some d
  file : t.hasPath (Path.join d fileName) = true
  before : ∀ j e, j < i → ancestor? dir j = some e →
    t.hasPath (Path.join e fileName) = false ∧ t.hasPath (Path.join e ".git") = false

/-! ## One step -/

theorem isNearest_zero_iff :
    IsNearest t dir 0 d ↔ d = dir ∧ t.hasPath (Path.join dir fileName) = true := by
  constructor
  · rintro ⟨⟨⟩, hfile, -⟩
    exact ⟨rfl, hfile⟩
  · rintro ⟨rfl, hfile⟩
    exact ⟨rfl, hfile, fun j _ hj => absurd hj (Nat.not_lt_zero j)⟩

theorem isNearest_succ_iff : IsNearest t dir (i + 1) d ↔
    t.hasPath (Path.join dir fileName) = false ∧ t.hasPath (Path.join dir ".git") = false ∧
      ∃ p, Path.parent? dir = some p ∧ IsNearest t p i d := by
  constructor
  · rintro ⟨hd, hfile, hbefore⟩
    obtain ⟨hno, hgit⟩ := hbefore 0 dir (Nat.succ_pos i) rfl
    rw [ancestor?_succ, Option.bind_eq_some_iff] at hd
    obtain ⟨p, hp, hd⟩ := hd
    refine ⟨hno, hgit, p, hp, hd, hfile, fun j e hj he => ?_⟩
    refine hbefore (j + 1) e (Nat.succ_lt_succ hj) ?_
    rw [ancestor?_succ, hp]
    exact he
  · rintro ⟨hno, hgit, p, hp, hd, hfile, hbefore⟩
    refine ⟨by rw [ancestor?_succ, hp]; exact hd, hfile, fun j e hj he => ?_⟩
    cases j with
    | zero =>
      cases he
      exact ⟨hno, hgit⟩
    | succ j =>
      rw [ancestor?_succ, hp] at he
      exact hbefore j e (Nat.lt_of_succ_lt_succ hj) he

/-- The nearest configuration file is in the directory itself, or is nearest to the parent of a
directory that the search goes beyond. -/
theorem exists_isNearest_iff {path : String} :
    (∃ i d, IsNearest t dir i d ∧ path = Path.join d fileName) ↔
      t.hasPath (Path.join dir fileName) = true ∧ path = Path.join dir fileName ∨
        t.hasPath (Path.join dir fileName) = false ∧ t.hasPath (Path.join dir ".git") = false ∧
          ∃ p, Path.parent? dir = some p ∧
            ∃ i d, IsNearest t p i d ∧ path = Path.join d fileName := by
  constructor
  · rintro ⟨i, d, h, hpath⟩
    cases i with
    | zero =>
      obtain ⟨rfl, hfile⟩ := isNearest_zero_iff.1 h
      exact .inl ⟨hfile, hpath⟩
    | succ i =>
      obtain ⟨hno, hgit, p, hp, h⟩ := isNearest_succ_iff.1 h
      exact .inr ⟨hno, hgit, p, hp, i, d, h, hpath⟩
  · rintro (⟨hfile, hpath⟩ | ⟨hno, hgit, p, hp, i, d, h, hpath⟩)
    · exact ⟨0, dir, isNearest_zero_iff.2 ⟨rfl, hfile⟩, hpath⟩
    · exact ⟨i + 1, d, isNearest_succ_iff.2 ⟨hno, hgit, p, hp, h⟩, hpath⟩

/-! ## The search -/

/-- **The search finds the nearest configuration file.** -/
theorem find?_eq_some_iff {path : String} : find? t dir = some path ↔
    ∃ i d, IsNearest t dir i d ∧ path = Path.join d fileName := by
  fun_induction find? t dir with
  | case1 dir hfile =>
    rw [exists_isNearest_iff]
    simp only [hfile, true_and, Bool.true_eq_false, false_and, or_false, Option.some.injEq]
    exact eq_comm
  | case2 dir hno hgit =>
    rw [exists_isNearest_iff]
    simp [hno, hgit]
  | case3 dir hno hgit p hp ih =>
    rw [exists_isNearest_iff, ih]
    simp [hno, hgit, hp]
  | case4 dir hno hgit hp =>
    rw [exists_isNearest_iff]
    simp [hno, hp]

theorem find?_eq_none_iff : find? t dir = none ↔ ∀ i d, ¬ IsNearest t dir i d := by
  simp only [Option.eq_none_iff_forall_ne_some, ne_eq, find?_eq_some_iff]
  constructor
  · intro h i d hd
    exact h _ ⟨i, d, hd, rfl⟩
  · rintro h path ⟨i, d, hd, -⟩
    exact h i d hd

/-- A directory with `.git` is the last one in which a configuration file counts. -/
theorem IsNearest.le_of_git (h : IsNearest t dir i d) {j : Nat} {e : String}
    (he : ancestor? dir j = some e) (hgit : t.hasPath (Path.join e ".git") = true) : i ≤ j := by
  by_contra hlt
  obtain ⟨-, hno⟩ := h.before j e (Nat.lt_of_not_le hlt) he
  rw [hgit] at hno
  cases hno

/-- If there is a configuration file with no `.git` before it, there is a nearest one. -/
theorem exists_isNearest_of_file {j : Nat} {e : String} (he : ancestor? dir j = some e)
    (hfile : t.hasPath (Path.join e fileName) = true)
    (hgit : ∀ k f, k < j → ancestor? dir k = some f →
      t.hasPath (Path.join f ".git") = false) :
    ∃ i d, i ≤ j ∧ IsNearest t dir i d := by
  induction j generalizing dir with
  | zero =>
    cases he
    exact ⟨0, e, Nat.le_refl 0, isNearest_zero_iff.2 ⟨rfl, hfile⟩⟩
  | succ j ih =>
    cases hdir : t.hasPath (Path.join dir fileName) with
    | true => exact ⟨0, dir, Nat.zero_le _, isNearest_zero_iff.2 ⟨rfl, hdir⟩⟩
    | false =>
      rw [ancestor?_succ, Option.bind_eq_some_iff] at he
      obtain ⟨p, hp, he⟩ := he
      obtain ⟨i, d, hi, hd⟩ := ih he fun k f hk hf =>
        hgit (k + 1) f (Nat.succ_lt_succ hk) (by rw [ancestor?_succ, hp]; exact hf)
      exact ⟨i + 1, d, Nat.succ_le_succ hi,
        isNearest_succ_iff.2 ⟨hdir, hgit 0 dir (Nat.succ_pos j) rfl, p, hp, hd⟩⟩

/-- **The nearest configuration counts.** From a directory one gets to its parents, each with the
last component taken away, until there is none but the root. The search finds a configuration file
if and only if one of these directories holds one and none before it holds one or holds `.git`.
No other file is loaded, and the defaults are in force if there is none. The search goes as far as
the first directory with `.git`, and this one is still looked at. -/
theorem search_finds_nearest (t : FileTree) (dir : String) :
    (∀ i, (ancestor? dir i).isSome ↔ i ≤ depth dir) ∧
    (∀ i d, ancestor? dir i = some d →
      ∃ cs, cs.length = i ∧ .root ∉ cs ∧ components dir = components d ++ cs) ∧
    (∀ path, find? t dir = some path ↔
      ∃ i d, IsNearest t dir i d ∧ path = Path.join d fileName) ∧
    (find? t dir = none ↔ ∀ i d, ¬ IsNearest t dir i d) ∧
    (∀ i d, IsNearest t dir i d →
      (∀ j e, ancestor? dir j = some e → t.hasPath (Path.join e ".git") = true → i ≤ j) ∧
      ofDirectory t dir =
        (ofFile t (Path.join d fileName)).map fun c => (c, some (Path.join d fileName))) ∧
    (∀ j e, ancestor? dir j = some e → t.hasPath (Path.join e fileName) = true →
      (∀ k f, k < j → ancestor? dir k = some f → t.hasPath (Path.join f ".git") = false) →
      ∃ i d, i ≤ j ∧ IsNearest t dir i d) ∧
    ((∀ i d, ¬ IsNearest t dir i d) → ofDirectory t dir = .ok ({}, none)) := by
  refine ⟨fun i => Path.ancestor?_isSome_iff, fun i d => Path.components_of_ancestor?,
    fun path => find?_eq_some_iff, find?_eq_none_iff, fun i d h => ⟨fun j e => h.le_of_git, ?_⟩,
    fun j e => exists_isNearest_of_file, fun h => ?_⟩
  · rw [ofDirectory, find?_eq_some_iff.2 ⟨i, d, h, rfl⟩]
  · rw [ofDirectory, find?_eq_none_iff.2 h]

/-- A repository in a directory with a configuration file, which has one itself. -/
def nestedRepository : FileTree :=
  [(fileName, [], .file "\x7b\x7d".toUTF8), ("App", [], .directory), (".git", ["App"], .directory),
    (fileName, ["App"], .file "\x7b\"ignores\":[\"Pods\"]\x7d".toUTF8),
    ("Sources", ["App"], .directory)].foldl (fun t (n, p, node) => t.add n p node) FileTree.empty

theorem search_finds_nearest_nested :
    find? nestedRepository "App/Sources/./" = some "App/.swiftlocrc.json" ∧
      ofDirectory nestedRepository "App/Sources/./" =
        .ok ({ ignores := ["Pods"] }, some "App/.swiftlocrc.json") := by
  obtain ⟨-, -, hfind, -, hload, -, -⟩ := search_finds_nearest nestedRepository "App/Sources/./"
  have happ : IsNearest nestedRepository "App" 0 "App" :=
    isNearest_zero_iff.2 ⟨rfl, by decide +kernel⟩
  have h : IsNearest nestedRepository "App/Sources/./" 1 "App" :=
    isNearest_succ_iff.2 ⟨by decide +kernel, by decide +kernel, "App", by decide +kernel, happ⟩
  have hfile : ofFile nestedRepository "App/.swiftlocrc.json" = .ok { ignores := ["Pods"] } := by
    decide +kernel
  refine ⟨(hfind _).2 ⟨1, "App", h, by decide +kernel⟩, ?_⟩
  have hpath : Path.join "App" fileName = "App/.swiftlocrc.json" := by decide +kernel
  rw [(hload 1 "App" h).2, hpath, hfile]
  rfl

end LocalizedStrings.Config
