import LocalizedStrings.Proofs.FileTree.Walk

/-!
# What a walk reaches

A walk gets to each file at or below a path, if it can enter the directory around this file. A
directory whose path is too long is not entered but told of, so that nothing is hidden in a walk
without errors. The order in which the nodes of the tree are listed is that of the walk, and matters
for nothing else.

* `HasFileBelow`: there is a file at some names below a path.
* `CanEnter`: a walk can enter the directory around it.
* **`mem_walk_file_iff`**: the files that a walk gets to.
* **`canEnter_of_walk`**: a walk without errors gets to all files.
* **`walk_perm`**: a walk of a tree whose nodes are listed in another order.
-/

namespace LocalizedStrings.FileTree

variable {t u : FileTree} {root : String} {p : Place} {names : List String}

/-! ## Nodes -/

theorem node?_eq_some_iff {q : Place} (hq : q ≠ []) {node : Node} :
    t.node? q = some node ↔ (q, node) ∈ t.nodes := by
  unfold node? nodeAt?
  rw [if_neg hq, Option.map_eq_some_iff]
  constructor
  · rintro ⟨e, he, rfl⟩
    have heq : e.1 = q := by simpa using List.find?_some he
    rw [← heq]
    exact List.mem_of_find?_eq_some he
  · intro hmem
    cases hf : t.nodes.find? fun e => e.1 = q with
    | none =>
      have hnone := List.find?_eq_none.1 hf _ hmem
      simp at hnone
    | some e =>
      -- Places are unique, so that this is the node itself.
      have heq : e.1 = q := by simpa using List.find?_some hf
      exact ⟨e, rfl, congrArg Prod.snd
        (List.inj_on_of_nodup_map t.nodup (List.mem_of_find?_eq_some hf) hmem heq)⟩

/-- What has a place below another one lies in a directory. -/
theorem node?_of_append {node : Node} (hne : names ≠ [])
    (h : t.node? (names ++ p) = some node) : t.node? p = some .directory := by
  induction names generalizing node with
  | nil => exact absurd rfl hne
  | cons n names ih =>
    have hmem := (node?_eq_some_iff (List.cons_ne_nil _ _)).1 h
    have hdir := t.closed n (names ++ p) (List.mem_map_of_mem (f := Prod.fst) hmem)
    by_cases hn : names = []
    · rw [hn] at hdir
      exact hdir
    · exact ih hn hdir

/-! ## Files below a path -/

/-- There is a file at the place to which the names lead from the path. -/
def HasFileBelow (t : FileTree) (root : String) (names : List String) : Prop :=
  ∃ p bytes, t.resolve root = .ok p ∧ t.node? (names ++ p) = some (.file bytes)

/-- A walk from the path can enter the directory around the place to which the names lead: its path
is not too long. -/
def CanEnter (root : String) (names : List String) : Prop :=
  names ≠ [] → Path.isLong (pathBelow root names.tail) = false

theorem found?_append (hne : names ≠ []) (node : Node) :
    found? root p (names ++ p, node) =
      if Path.isLong (pathBelow root names.tail) then none
      else if node.isFile || !Path.isLong (pathBelow root names) then
        some (pathBelow root names, .ok node)
      else some (pathBelow root names, .error .tooLong) := by
  have htake : (names ++ p).take ((names ++ p).length - p.length) = names := by
    rw [List.length_append, Nat.add_sub_cancel, List.take_left]
  have hself : names ++ p ≠ p := fun e => hne (List.append_left_eq_self.1 e)
  have hsuffix : p.isSuffixOf (names ++ p) = true :=
    List.isSuffixOf_iff_suffix.2 (List.suffix_append names p)
  unfold found?
  simp only [htake, hself, hsuffix, not_true_eq_false, false_or]

theorem walk_of_directory (hp : t.resolve root = .ok p) (hd : t.node? p = some .directory) :
    t.walk root = (root, .ok .directory) :: t.nodes.filterMap (found? root p) := by
  unfold walk
  simp only [hp, hd]

/-- **The files that a walk gets to.** -/
theorem mem_walk_file_iff {path : String} : (∃ bytes, (path, .ok (.file bytes)) ∈ t.walk root) ↔
    ∃ names, path = pathBelow root names ∧ t.HasFileBelow root names ∧ CanEnter root names := by
  constructor
  · rintro ⟨bytes, h⟩
    unfold walk at h
    split at h
    · cases List.mem_singleton.1 h
    · next p hp =>
      split at h
      · cases List.mem_singleton.1 h
      · next hnode =>
        cases List.mem_singleton.1 h
        exact ⟨[], rfl, ⟨p, bytes, hp, hnode⟩, fun hne => absurd rfl hne⟩
      · rcases List.mem_cons.1 h with h | h
        · cases h
        · obtain ⟨⟨q, node⟩, he, hx⟩ := List.mem_filterMap.1 h
          obtain ⟨names, hne, rfl, hpath⟩ := found?_eq_some hx
          have hq : names ++ p ≠ [] := by simp [hne]
          rw [found?_append hne] at hx
          split_ifs at hx with hlong hnode
          · cases hx
            exact ⟨names, rfl, ⟨p, bytes, hp, (node?_eq_some_iff hq).2 he⟩,
              fun _ => Bool.eq_false_iff.2 hlong⟩
          · cases hx
  · rintro ⟨names, rfl, ⟨p, bytes, hp, hnode⟩, henter⟩
    refine ⟨bytes, ?_⟩
    by_cases hne : names = []
    · subst hne
      rw [List.nil_append] at hnode
      unfold walk
      simp only [hp, hnode]
      exact List.mem_singleton_self _
    · have hq : names ++ p ≠ [] := by simp [hne]
      rw [walk_of_directory hp (node?_of_append hne hnode)]
      refine List.mem_cons_of_mem _ (List.mem_filterMap.2 ⟨_, (node?_eq_some_iff hq).1 hnode, ?_⟩)
      rw [found?_append hne, henter hne]
      rfl

/-! ## Walks without errors -/

theorem exists_error_of_isLong (hp : t.resolve root = .ok p)
    (hd : t.node? (names ++ p) = some .directory) (hlong : Path.isLong (pathBelow root names)) :
    ∃ path e, (path, .error e) ∈ t.walk root := by
  -- Of the directories on the way to this one, the walk tells of the first with too long a path.
  induction names with
  | nil =>
    -- A path that is too long leads nowhere.
    have hroot : Path.isLong root = true := hlong
    unfold resolve at hp
    split_ifs at hp
  | cons n names ih =>
    have hne : n :: names ≠ [] := List.cons_ne_nil _ _
    have hmem : (n :: names ++ p, .directory) ∈ t.nodes :=
      (node?_eq_some_iff (List.cons_ne_nil _ _)).1 hd
    by_cases hparent : Path.isLong (pathBelow root names)
    · exact ih (t.closed n (names ++ p) (List.mem_map_of_mem (f := Prod.fst) hmem)) hparent
    · refine ⟨pathBelow root (n :: names), .tooLong, ?_⟩
      rw [walk_of_directory hp (node?_of_append hne hd)]
      refine List.mem_cons_of_mem _ (List.mem_filterMap.2 ⟨_, hmem, ?_⟩)
      rw [found?_append hne, List.tail_cons, if_neg hparent, hlong]
      rfl

/-- **A walk without errors gets to all files.** -/
theorem canEnter_of_walk (h : ∀ path e, (path, .error e) ∉ t.walk root)
    (hfile : t.HasFileBelow root names) : CanEnter root names := by
  intro hne
  obtain ⟨n, names, rfl⟩ := List.exists_cons_of_ne_nil hne
  obtain ⟨p, bytes, hp, hnode⟩ := hfile
  have hmem := (node?_eq_some_iff (List.cons_ne_nil _ _)).1 hnode
  have hdir := t.closed n (names ++ p) (List.mem_map_of_mem (f := Prod.fst) hmem)
  by_contra hlong
  obtain ⟨path, e, he⟩ := exists_error_of_isLong hp hdir (Bool.not_eq_false _ ▸ hlong)
  exact h path e he

/-! ## The order of the nodes -/

section Order

variable (hnodes : u.nodes.Perm t.nodes)

include hnodes

theorem node?_of_perm (q : Place) : u.node? q = t.node? q := by
  by_cases hq : q = []
  · subst hq
    rfl
  · refine Option.ext fun node => ?_
    rw [node?_eq_some_iff hq, node?_eq_some_iff hq, hnodes.mem_iff]

theorem follow_of_perm (p : Place) (pieces : List (List Char)) :
    u.follow p pieces = t.follow p pieces := by
  induction pieces generalizing p with
  | nil => rfl
  | cons piece pieces ih => simp only [follow, node?_of_perm hnodes, ih]

variable (hw : u.workingDirectory = t.workingDirectory)

include hw

theorem resolve_of_perm (path : String) : u.resolve path = t.resolve path := by
  unfold resolve
  simp only [follow_of_perm hnodes, hw]

/-- **A walk of a tree whose nodes are listed in another order** finds the same in another order. -/
theorem walk_perm (root : String) : (u.walk root).Perm (t.walk root) := by
  unfold walk
  rw [resolve_of_perm hnodes hw]
  cases t.resolve root with
  | error e => exact .refl _
  | ok p =>
    simp only [node?_of_perm hnodes]
    rcases t.node? p with _ | (bytes | _)
    · exact .refl _
    · exact .refl _
    · exact (hnodes.filterMap _).cons _

end Order

end LocalizedStrings.FileTree
