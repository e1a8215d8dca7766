import LocalizedStrings.Proofs.FileTree.Layout
import LocalizedStrings.Proofs.Path.Order
import Mathlib.Data.List.Nodup

/-!
# Walks

A walk reaches each place at or below a path once. The path by which it gets there is that of the
root with the names that lead from there to the place, so that different places have paths with
different components. What is reached, and by which path, depends on the layout of the tree alone.

* `IsBelow`: a path with some names after it.
* `components_pathBelow`, **`IsBelow.eq_of_components`**: the components tell such paths apart.
* `isBelow_of_mem_walk`, **`nodup_components_walk`**: the paths of a walk.
* `seen`, **`SameLayout.map_seen_walk`**: what a walk sees of the layout.
-/

namespace LocalizedStrings.FileTree

open LocalizedStrings.Path (IsName Component components)

/-! ## Paths below a path -/

/-- The path is `root` with some names after it, or `root` itself. -/
def IsBelow (root path : String) : Prop :=
  ∃ names : List String, (∀ n ∈ names, IsName n) ∧ path = pathBelow root names

theorem components_pathBelow (root : String) {names : List String} (h : ∀ n ∈ names, IsName n) :
    components (pathBelow root names) = components root ++ (names.map Component.name).reverse := by
  induction names with
  | nil => rw [List.map_nil, List.reverse_nil, List.append_nil]; rfl
  | cons n names ih =>
    have hn := Path.components_join (pathBelow root names) (h n List.mem_cons_self)
    rw [ih fun m hm => h m (List.mem_cons_of_mem _ hm)] at hn
    rw [List.map_cons, List.reverse_cons, ← List.append_assoc]
    exact hn

theorem names_eq_of_components {root : String} {ns ms : List String} (hn : ∀ n ∈ ns, IsName n)
    (hm : ∀ n ∈ ms, IsName n)
    (h : components (pathBelow root ns) = components (pathBelow root ms)) : ns = ms := by
  rw [components_pathBelow root hn, components_pathBelow root hm, List.append_cancel_left_eq,
    List.reverse_inj] at h
  exact (List.map_inj_right fun a b hab => Component.name.inj hab).1 h

/-- **The components tell the paths below a path apart.** -/
theorem IsBelow.eq_of_components {root a b : String} (ha : IsBelow root a) (hb : IsBelow root b)
    (h : components a = components b) : a = b := by
  obtain ⟨ns, hn, rfl⟩ := ha
  obtain ⟨ms, hm, rfl⟩ := hb
  rw [names_eq_of_components hn hm h]

/-! ## Places -/

variable {t : FileTree}

/-- A place is given by names. -/
theorem isName_of_mem_place {q : Place} (h : q ∈ t.nodes.map Prod.fst) : ∀ n ∈ q, IsName n := by
  induction q with
  | nil => exact nofun
  | cons m q ih =>
    intro n hn
    rcases List.mem_cons.1 hn with rfl | hn
    · exact t.named n q h
    · -- The directory around a place is a place itself, unless it is the root.
      have hq : q ∈ t.nodes.map Prod.fst := by
        have hd := t.closed m q h
        unfold nodeAt? at hd
        rw [if_neg (List.ne_nil_of_mem hn)] at hd
        obtain ⟨e, he, -⟩ := Option.map_eq_some_iff.1 hd
        have hq := List.find?_some he
        exact List.mem_map.2 ⟨e, List.mem_of_find?_eq_some he, by simpa using hq⟩
      exact ih hq n hn

theorem found?_eq_some {root : String} {p : Place} {e : Place × Node}
    {x : String × Except SystemError Node} (h : found? root p e = some x) :
    ∃ names, names ≠ [] ∧ e.1 = names ++ p ∧ x.1 = pathBelow root names := by
  unfold found? at h
  dsimp only at h
  split at h
  · cases h
  · next hc =>
    simp only [not_or, not_not, List.isSuffixOf_iff_suffix] at hc
    obtain ⟨hne, ⟨names, hnames⟩, -⟩ := hc
    have htake : e.1.take (e.1.length - p.length) = names := by
      rw [← hnames, List.length_append, Nat.add_sub_cancel, List.take_left]
    refine ⟨names, ?_, hnames.symm, ?_⟩
    · rintro rfl
      exact hne hnames.symm
    · rw [htake] at h
      split at h <;> cases h <;> rfl

theorem isBelow_of_found? {root : String} {p : Place} {e : Place × Node}
    {x : String × Except SystemError Node} (he : e ∈ t.nodes) (h : found? root p e = some x) :
    IsBelow root x.1 := by
  obtain ⟨names, -, hnames, hx⟩ := found?_eq_some h
  refine ⟨names, fun n hn => ?_, hx⟩
  have hplace := isName_of_mem_place (List.mem_map_of_mem he)
  rw [hnames] at hplace
  exact hplace n (List.mem_append_left p hn)

/-! ## The paths of a walk -/

theorem isBelow_self (root : String) : IsBelow root root := ⟨[], nofun, rfl⟩

theorem isBelow_of_mem_walk {root : String} {x : String × Except SystemError Node}
    (h : x ∈ t.walk root) : IsBelow root x.1 := by
  unfold walk at h
  split at h
  · rw [List.mem_singleton.1 h]
    exact isBelow_self root
  · split at h
    · rw [List.mem_singleton.1 h]
      exact isBelow_self root
    · rw [List.mem_singleton.1 h]
      exact isBelow_self root
    · rcases List.mem_cons.1 h with rfl | h
      · exact isBelow_self root
      · obtain ⟨e, he, hx⟩ := List.mem_filterMap.1 h
        exact isBelow_of_found? he hx

/-- Different places are reached by paths with different components. -/
theorem pairwise_found? (root : String) (p : Place) :
    (t.nodes.filterMap (found? root p)).Pairwise fun x y => components x.1 ≠ components y.1 := by
  rw [List.pairwise_filterMap]
  have hplaces := List.pairwise_map.1 t.nodup
  refine hplaces.imp_of_mem fun {d e} hd he hne x hx y hy hxy => hne ?_
  obtain ⟨ns, -, hns, hx'⟩ := found?_eq_some hx
  obtain ⟨ms, -, hms, hy'⟩ := found?_eq_some hy
  have hn := isName_of_mem_place (List.mem_map_of_mem (f := Prod.fst) hd)
  have hm := isName_of_mem_place (List.mem_map_of_mem (f := Prod.fst) he)
  rw [hns] at hn
  rw [hms] at hm
  rw [hx', hy'] at hxy
  rw [hns, hms, names_eq_of_components (fun n h => hn n (List.mem_append_left p h))
    (fun n h => hm n (List.mem_append_left p h)) hxy]

/-- **A walk reaches each place once**: the components of its paths are all different. -/
theorem nodup_components_walk (t : FileTree) (root : String) :
    ((t.walk root).map fun x => components x.1).Nodup := by
  unfold walk
  split
  · exact List.nodup_singleton _
  · split
    · exact List.nodup_singleton _
    · exact List.nodup_singleton _
    · next p _ _ _ =>
      rw [List.map_cons, List.nodup_cons]
      refine ⟨fun hm => ?_, List.pairwise_map.2 (pairwise_found? root p)⟩
      obtain ⟨x, hx, hc⟩ := List.mem_map.1 hm
      obtain ⟨e, he, hx⟩ := List.mem_filterMap.1 hx
      obtain ⟨names, hne, hnames, hx⟩ := found?_eq_some hx
      have hplace := isName_of_mem_place (List.mem_map_of_mem (f := Prod.fst) he)
      rw [hnames] at hplace
      rw [hx] at hc
      exact hne (names_eq_of_components (fun n h => hplace n (List.mem_append_left p h)) nofun hc)

/-! ## Walks of trees of one layout -/

/-- What is seen of a path of a walk by its layout: whether there is a file or a directory, or why
nothing is seen. -/
def seen (x : String × Except SystemError Node) : String × Except SystemError Bool :=
  (x.1, x.2.map Node.isFile)

/-- A place with a file or a directory, whatever the bytes of the file are. -/
def ofShape (s : Place × Bool) : Place × Node := (s.1, if s.2 then .file .empty else .directory)

theorem map_seen_found? (root : String) (p : Place) (e : Place × Node) :
    (found? root p e).map seen = (found? root p (ofShape (shape e))).map seen := by
  obtain ⟨q, node⟩ := e
  unfold found? ofShape shape
  cases node <;> dsimp only [Node.isFile] <;> split_ifs <;> rfl

/-- **A walk sees the layout alone.** -/
theorem SameLayout.map_seen_walk {u : FileTree} (h : SameLayout t u) (root : String) :
    (u.walk root).map seen = (t.walk root).map seen := by
  have hnodes : ∀ (v : FileTree) (p : Place), (v.nodes.filterMap (found? root p)).map seen =
      (v.nodes.map shape).filterMap fun s => (found? root p (ofShape s)).map seen := by
    intro v p
    rw [List.map_filterMap, List.filterMap_map]
    exact List.filterMap_congr fun e _ => map_seen_found? root p e
  unfold walk
  rw [h.resolve]
  cases t.resolve root with
  | error e => rfl
  | ok p =>
    rcases h.node?_cases p with ⟨ht, hu⟩ | ⟨ht, hu⟩ | ⟨a, b, ht, hu⟩
    · simp only [ht, hu]
    · simp only [ht, hu, List.map_cons, hnodes, h.nodes]
    · simp only [ht, hu]
      rfl

end LocalizedStrings.FileTree
