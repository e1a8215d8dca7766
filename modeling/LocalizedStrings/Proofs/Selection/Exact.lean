import LocalizedStrings.Proofs.FileTree.Reach
import LocalizedStrings.Proofs.Selection
import Mathlib.Data.List.TakeWhile

/-!
# The selection is exact

The selection of a directory is what it should be: each file below the directory whose name has one
of the extensions and which no pattern stands for, if the walk gets to it, and nothing else.

* `Path.extensionOf?_eq_some_iff`: the extension of a name follows its last dot.
* `Path.HasExtension`: the same for the name that a path ends in.
* `ignores_iff`: when a pattern stands for a path.
* `IsSourcePath`, `isSource_iff`: what a path needs to be selected.
* `mem_files_iff`: which paths are selected.
* `files_eq_of_perm`: they do not depend on the order of a walk.
* `skipped_eq`: what is skipped are the errors of the walk.
* **`ofDirectory_exact`**: the selection as a whole.
-/

namespace LocalizedStrings

/-! ## Extensions -/

namespace Path

/-- **The extension of a name** follows its last dot, unless this is the first character. -/
theorem extensionOf?_eq_some_iff {name ext : List Char} : extensionOf? name = some ext ↔
    ∃ stem, stem ≠ [] ∧ '.' ∉ ext ∧ name = stem ++ '.' :: ext := by
  constructor
  · intro h
    unfold extensionOf? at h
    split at h
    · next d c stem hd =>
      cases h
      have hdot : d = '.' := by
        have := List.head?_dropWhile_not (fun c : Char => c != '.') name.reverse
        rw [hd] at this
        simpa using this
      refine ⟨(c :: stem).reverse, by simp, ?_, ?_⟩
      · intro hm
        simpa using List.mem_takeWhile_imp (List.mem_reverse.1 hm)
      · have hsplit := List.takeWhile_append_dropWhile (p := (· != '.')) (l := name.reverse)
        rw [hd, hdot] at hsplit
        calc name = name.reverse.reverse := (List.reverse_reverse name).symm
          _ = (name.reverse.takeWhile (· != '.') ++ '.' :: c :: stem).reverse := by rw [hsplit]
          _ = _ := by simp
    · cases h
  · rintro ⟨stem, hstem, hdot, rfl⟩
    obtain ⟨c, s, hs⟩ := List.exists_cons_of_ne_nil (List.reverse_ne_nil_iff.2 hstem)
    have hext : ∀ c ∈ ext.reverse, (c != '.') = true := by
      intro c hc
      rw [bne_iff_ne]
      rintro rfl
      exact hdot (List.mem_reverse.1 hc)
    have hrev : (stem ++ '.' :: ext).reverse = ext.reverse ++ '.' :: c :: s := by
      rw [List.reverse_append, List.reverse_cons, hs]
      simp
    rw [extensionOf?, hrev, List.takeWhile_append_of_pos hext, List.dropWhile_append_of_pos hext,
      List.takeWhile_cons_of_neg (by decide), List.dropWhile_cons_of_neg (by decide)]
    simp

/-- The path ends in a name with the extension `ext`: this follows the last dot of the name, before
which something stands. -/
def HasExtension (path ext : String) : Prop :=
  ∃ name stem, lastName? path = some name ∧ stem ≠ [] ∧ '.' ∉ ext.toList ∧
    name.toList = stem ++ '.' :: ext.toList

theorem extension?_eq_some_iff {path ext : String} :
    extension? path = some ext ↔ HasExtension path ext := by
  unfold extension? HasExtension
  simp only [Option.bind_eq_some_iff, Option.map_eq_some_iff, extensionOf?_eq_some_iff]
  constructor
  · rintro ⟨name, hname, _, ⟨stem, hstem, hdot, hs⟩, rfl⟩
    rw [String.toList_ofList]
    exact ⟨name, stem, hname, hstem, hdot, hs⟩
  · rintro ⟨name, stem, hname, hstem, hdot, hs⟩
    exact ⟨name, hname, ext.toList, ⟨stem, hstem, hdot, hs⟩, String.ofList_toList⟩

end Path

namespace Selection

open FileTree (pathBelow HasFileBelow CanEnter)
open LocalizedStrings.Path (components)

variable {t u : FileTree} {root path : String} {extensions patterns : List String}

/-! ## Paths of source files -/

theorem isGlob_iff {pattern : String} :
    Glob.isGlob pattern = true ↔ '*' ∈ pattern.toList ∨ '?' ∈ pattern.toList := by
  unfold Glob.isGlob
  simp only [List.any_eq_true, Bool.or_eq_true, beq_iff_eq]
  constructor
  · rintro ⟨c, hc, rfl | rfl⟩
    · exact .inl hc
    · exact .inr hc
  · rintro (h | h)
    · exact ⟨_, h, .inl rfl⟩
    · exact ⟨_, h, .inr rfl⟩

theorem ignores_iff {pattern : String} : ignores root pattern path = true ↔
    if Glob.isGlob pattern then ∃ g, Glob.parse pattern = .ok g ∧ g.covers path = true
    else components (Path.join root pattern) <+: components path := by
  unfold ignores
  split_ifs
  · cases Glob.parse pattern with
    | error e => simp
    | ok g => simp
  · exact List.isPrefixOf_iff_prefix

/-- What a path needs to be that of a source file: one of the extensions, and that no pattern stands
for it. A pattern without wildcards stands for all that has the components of its path, taken from
the directory, at the start of its own; a well-formed glob stands for the paths it covers. -/
structure IsSourcePath (root : String) (extensions patterns : List String) (path : String) :
    Prop where
  extension : ∃ ext ∈ extensions, Path.HasExtension path ext
  literal : ∀ e ∈ patterns, '*' ∉ e.toList → '?' ∉ e.toList →
    ¬ components (Path.join root e) <+: components path
  glob : ∀ e ∈ patterns, '*' ∈ e.toList ∨ '?' ∈ e.toList →
    ∀ g, Glob.parse e = .ok g → g.covers path = false

theorem hasExtension_iff :
    hasExtension extensions path = true ↔ ∃ ext ∈ extensions, Path.HasExtension path ext := by
  unfold hasExtension
  rw [Option.any_eq_true_iff_get]
  simp only [← Path.extension?_eq_some_iff]
  constructor
  · rintro ⟨h, hext⟩
    exact ⟨_, List.contains_iff_mem.1 hext, (Option.some_get h).symm⟩
  · rintro ⟨ext, hmem, hext⟩
    simp [hext, hmem]

theorem isSource_iff {node : Node} : isSource root extensions patterns path node = true ↔
    node.isFile = true ∧ IsSourcePath root extensions patterns path := by
  have hnone : (!patterns.any fun p => ignores root p path) = true ↔
      ∀ e ∈ patterns, ¬ ignores root e path = true := by simp
  unfold isSource
  rw [Bool.and_eq_true, Bool.and_eq_true, hnone, hasExtension_iff, and_assoc]
  refine and_congr_right fun _ => ⟨fun ⟨hext, h⟩ => ⟨hext, ?_, ?_⟩, fun h => ⟨h.extension, ?_⟩⟩
  · intro e he hstar hmark hprefix
    have hglob : ¬ Glob.isGlob e = true := fun hg => (isGlob_iff.1 hg).elim hstar hmark
    exact h e he (ignores_iff.2 (by rwa [if_neg hglob]))
  · intro e he hwild g hg
    rw [Bool.eq_false_iff]
    intro hcovers
    exact h e he (ignores_iff.2 (by rw [if_pos (isGlob_iff.2 hwild)]; exact ⟨g, hg, hcovers⟩))
  · intro e he hignored
    rw [ignores_iff] at hignored
    split_ifs at hignored with hglob
    · obtain ⟨g, hg, hcovers⟩ := hignored
      exact Bool.eq_false_iff.1 (h.glob e he (isGlob_iff.1 hglob) g hg) hcovers
    · rw [isGlob_iff, not_or] at hglob
      exact h.literal e he hglob.1 hglob.2 hignored

/-! ## Selected paths -/

theorem mem_files_iff : path ∈ (ofDirectory t root extensions patterns).files ↔
    (∃ names, path = pathBelow root names ∧ t.HasFileBelow root names ∧ CanEnter root names) ∧
      IsSourcePath root extensions patterns path := by
  rw [(files_perm t root extensions patterns).mem_iff, ← FileTree.mem_walk_file_iff]
  simp only [List.mem_map, List.mem_filter]
  constructor
  · rintro ⟨⟨path, seen⟩, ⟨hmem, hsource⟩, rfl⟩
    cases seen with
    | error e => cases hsource
    | ok node =>
      obtain ⟨hfile, hpath⟩ := isSource_iff.1 hsource
      cases node with
      | file bytes => exact ⟨⟨bytes, hmem⟩, hpath⟩
      | directory => cases hfile
  · rintro ⟨⟨bytes, hmem⟩, hpath⟩
    exact ⟨_, ⟨hmem, isSource_iff.2 ⟨rfl, hpath⟩⟩, rfl⟩

theorem precedes_files (t : FileTree) (root : String) (extensions patterns : List String) :
    (ofDirectory t root extensions patterns).files.Pairwise Path.Precedes :=
  (pairwise_files t root extensions patterns).imp₂
    (fun _ _ => Path.precedes_of_le)
    (List.pairwise_map.1 (nodup_components_files t root extensions patterns))

/-! ## Walks -/

theorem skipped_eq (t : FileTree) (root : String) (extensions patterns : List String) :
    (ofDirectory t root extensions patterns).skipped =
      (t.walk root).countP fun x => !x.2.toBool := by
  change ((t.walk root).filterMap _).length = _
  rw [List.length_filterMap_eq_countP]
  refine List.countP_congr fun x _ => ?_
  cases x.2 <;> simp [Except.toBool]

section

variable (h : (u.walk root).Perm (t.walk root))

include h

/-- **The order of a walk does not matter** for what is selected, since this is sorted. -/
theorem files_eq_of_perm : (ofDirectory u root extensions patterns).files =
    (ofDirectory t root extensions patterns).files := by
  refine List.Perm.eq_of_pairwise (fun a b ha hb hab hba => ?_) (pairwise_files u root _ _)
    (pairwise_files t root _ _) ?_
  · exact (isBelow_of_mem_files ha).eq_of_components (isBelow_of_mem_files hb)
      (Path.components_eq_of_le hab hba)
  · have hchosen := (h.filter fun e =>
      e.2.toOption.any (isSource root extensions patterns e.1)).map Prod.fst
    exact ((files_perm u root extensions patterns).trans hchosen).trans
      (files_perm t root extensions patterns).symm

theorem skipped_eq_of_perm : (ofDirectory u root extensions patterns).skipped =
    (ofDirectory t root extensions patterns).skipped := by
  rw [skipped_eq, skipped_eq, h.countP_eq]

end

theorem error_notMem_walk (h : (ofDirectory t root extensions patterns).skipped = 0) (path : String)
    (e : SystemError) : (path, .error e) ∉ t.walk root := by
  rw [skipped_eq, List.countP_eq_zero] at h
  exact fun hmem => h _ hmem rfl

/-- **The selection is exact.** It consists of the files at or below the directory that are there
for the walk and whose paths are those of source files, each once. It is in strictly increasing
order and does not depend on the order in which the nodes of the tree are listed. What is skipped
are the errors of the walk, and if there are none then each file at or below the directory is there
for the walk. -/
theorem ofDirectory_exact (t : FileTree) (root : String) (extensions patterns : List String) :
    (∀ path, path ∈ (ofDirectory t root extensions patterns).files ↔
      (∃ names, path = pathBelow root names ∧ t.HasFileBelow root names ∧ CanEnter root names) ∧
        IsSourcePath root extensions patterns path) ∧
    (ofDirectory t root extensions patterns).files.Pairwise Path.Precedes ∧
    (ofDirectory t root extensions patterns).files.Nodup ∧
    (∀ u : FileTree, u.nodes.Perm t.nodes → u.workingDirectory = t.workingDirectory →
      (ofDirectory u root extensions patterns).files =
          (ofDirectory t root extensions patterns).files ∧
        (ofDirectory u root extensions patterns).skipped =
          (ofDirectory t root extensions patterns).skipped) ∧
    (ofDirectory t root extensions patterns).skipped =
      ((t.walk root).countP fun x => !x.2.toBool) ∧
    ((ofDirectory t root extensions patterns).skipped = 0 →
      ∀ names, t.HasFileBelow root names → CanEnter root names) := by
  refine ⟨fun path => mem_files_iff, precedes_files t root _ _, nodup_files t root _ _,
    fun u hnodes hw => ?_, skipped_eq t root _ _, fun h names => ?_⟩
  · have hwalk := FileTree.walk_perm hnodes hw root
    exact ⟨files_eq_of_perm hwalk, skipped_eq_of_perm hwalk⟩
  · exact FileTree.canEnter_of_walk (error_notMem_walk h)

/-- A directory with source files at several depths, one of them hidden, and others. -/
def mixedTree : FileTree :=
  [("Notes.md", [], .file .empty), ("Pods.swift", [], .file .empty), ("Pods", [], .directory),
    ("A.swift", ["Pods"], .file .empty), (".swift", [], .file .empty),
    ("A.swift", [], .file .empty)].foldl (fun t (n, p, node) => t.add n p node) FileTree.empty

/-- The same directory, put together in another order. -/
def reorderedTree : FileTree :=
  [("A.swift", [], .file .empty), (".swift", [], .file .empty), ("Pods", [], .directory),
    ("A.swift", ["Pods"], .file .empty), ("Pods.swift", [], .file .empty),
    ("Notes.md", [], .file .empty)].foldl (fun t (n, p, node) => t.add n p node) FileTree.empty

theorem ofDirectory_exact_mixed :
    reorderedTree.nodes.Perm mixedTree.nodes ∧
      reorderedTree.workingDirectory = mixedTree.workingDirectory ∧
      (ofDirectory mixedTree "." ["swift"] ["Pods"]).files =
        ["./A.swift", "./Pods.swift"] ∧
      (ofDirectory reorderedTree "." ["swift"] ["Pods"]).files =
        ["./A.swift", "./Pods.swift"] ∧
      mixedTree.HasFileBelow "." ["A.swift", "Pods"] ∧ CanEnter "." ["A.swift", "Pods"] := by
  have hnodes : reorderedTree.nodes.Perm mixedTree.nodes := by decide +kernel
  have hfiles : (ofDirectory mixedTree "." ["swift"] ["Pods"]).files =
      ["./A.swift", "./Pods.swift"] :=
    (List.mergeSort_of_pairwise (by decide +kernel)).trans (by decide +kernel)
  have hbelow : mixedTree.HasFileBelow "." ["A.swift", "Pods"] :=
    ⟨[], .empty, by decide +kernel, by decide +kernel⟩
  have hw : reorderedTree.workingDirectory = mixedTree.workingDirectory := by decide +kernel
  have hskipped : (ofDirectory mixedTree "." ["swift"] ["Pods"]).skipped = 0 := by decide +kernel
  obtain ⟨-, -, -, hperm, -, hall⟩ := ofDirectory_exact mixedTree "." ["swift"] ["Pods"]
  exact ⟨hnodes, hw, hfiles, (hperm reorderedTree hnodes hw).1.trans hfiles, hbelow,
    hall hskipped _ hbelow⟩

end Selection

end LocalizedStrings
