import LocalizedStrings.Proofs.FileTree.Walk
import LocalizedStrings.Selection

/-!
# What is selected

The selection of a directory depends on the layout of the tree alone. Its files are sorted by their
components, and no two of them have the same components. Since all lie below one directory, a list
of some of them is known from its members.

* **`ofDirectory_of_sameLayout`**: trees of one layout have the same selection.
* `pairwise_files`, `nodup_components_files`: the files are sorted and different.
* `isBelow_of_mem_files`: the files lie below the directory.
-/

namespace LocalizedStrings.Selection

open FileTree (IsBelow SameLayout seen)
open LocalizedStrings.Path (components)

variable {t u : FileTree} {root : String} {extensions patterns : List String}

/-! ## The layout -/

/-- What is seen of a path by its layout makes it a source file. -/
def isSeenSource (root : String) (extensions patterns : List String)
    (x : String × Except SystemError Bool) : Bool :=
  x.2.toOption.any fun isFile =>
    isFile && hasExtension extensions x.1 && !patterns.any fun p => ignores root p x.1

/-- The warning about a path that is not seen. -/
def unseen? (x : String × Except SystemError Bool) : Option Warning :=
  match x.2 with
  | .ok _ => none
  | .error e => some (.unseen x.1 e)

/-- The selection from what is seen of the paths of a walk. -/
def ofSeen (root : String) (extensions patterns : List String)
    (xs : List (String × Except SystemError Bool)) : Selection :=
  ⟨((xs.filter (isSeenSource root extensions patterns)).map Prod.fst).mergeSort Path.le,
    (xs.filterMap unseen?).length,
    (patterns.filterMap fun p => (Glob.fault? p).map (.glob p)) ++ xs.filterMap unseen?⟩

theorem ofDirectory_eq (t : FileTree) (root : String) (extensions patterns : List String) :
    ofDirectory t root extensions patterns =
      ofSeen root extensions patterns ((t.walk root).map seen) := by
  unfold ofDirectory ofSeen
  rw [List.filter_map, List.map_map, List.filterMap_map]
  dsimp only
  congr
  -- What is chosen and, twice, what is refused.
  all_goals
    funext ⟨path, node⟩
    cases node <;> rfl

/-- **Trees of one layout have the same selection.** -/
theorem ofDirectory_of_sameLayout (h : SameLayout t u) (root : String)
    (extensions patterns : List String) :
    ofDirectory u root extensions patterns = ofDirectory t root extensions patterns := by
  rw [ofDirectory_eq, ofDirectory_eq, h.map_seen_walk]

/-! ## The files -/

theorem files_perm (t : FileTree) (root : String) (extensions patterns : List String) :
    (ofDirectory t root extensions patterns).files.Perm
      (((t.walk root).filter fun e =>
        e.2.toOption.any (isSource root extensions patterns e.1)).map Prod.fst) :=
  List.mergeSort_perm _ _

/-- **The files are sorted.** -/
theorem pairwise_files (t : FileTree) (root : String) (extensions patterns : List String) :
    (ofDirectory t root extensions patterns).files.Pairwise fun a b => Path.le a b = true :=
  List.pairwise_mergeSort (fun a b c => @Path.le_trans a b c) Path.le_total _

/-- **The files have different components.** -/
theorem nodup_components_files (t : FileTree) (root : String) (extensions patterns : List String) :
    ((ofDirectory t root extensions patterns).files.map components).Nodup := by
  rw [((files_perm t root extensions patterns).map components).nodup_iff, List.map_map]
  exact (t.nodup_components_walk root).sublist (List.filter_sublist.map _)

theorem nodup_files (t : FileTree) (root : String) (extensions patterns : List String) :
    (ofDirectory t root extensions patterns).files.Nodup :=
  (nodup_components_files t root extensions patterns).of_map components

theorem isBelow_of_mem_files {path : String}
    (h : path ∈ (ofDirectory t root extensions patterns).files) : IsBelow root path := by
  obtain ⟨e, he, rfl⟩ := List.mem_map.1 ((files_perm t root extensions patterns).mem_iff.1 h)
  exact FileTree.isBelow_of_mem_walk (List.mem_filter.1 he).1

end LocalizedStrings.Selection
