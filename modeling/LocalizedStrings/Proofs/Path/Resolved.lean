import LocalizedStrings.Proofs.Path.Order
import Mathlib.Logic.Function.Iterate
import Mathlib.Data.List.Induction

/-!
# Paths without dots

A `.` in a path adds nothing, and a `..` takes away the name before it. What is left of a path are
steps up that have no name before them, and then names. In a path from the root, the root stands in
place of the steps up.

* `resolved`: the components of a path without dots, as far as they can be taken away.
* `climb`: what steps up leave of some components.
* **`resolved_cases`**: what is left of a path, and of a path that is read from a directory.
* `exists_names_of_resolved`, `slash_notMem_of_name_mem_resolved`: the names that are left.
* `StaysIn`: the paths that lead to something in the directory they are read from, with
  `staysIn_of_resolved` and `exists_resolved_of_staysIn`.
-/

namespace LocalizedStrings.Path

namespace Component

/-- The components `cs` of a path, the last one first, with one more after them. There is nothing
above the root. -/
def extend : List Component → Component → List Component
  | _, root => [root]
  | cs, here => cs
  | name _ :: cs, up => cs
  | root :: cs, up => root :: cs
  | cs, up => up :: cs
  | cs, name n => name n :: cs

theorem extend_here (cs : List Component) : extend cs here = cs := by
  cases cs with
  | nil => rfl
  | cons c cs => cases c <;> rfl

end Component

open Component

/-- The components of a path without `.`, where each `..` has taken away the name before it. -/
def resolved (path : String) : List Component := ((components path).foldl extend []).reverse

/-! ## Paths put together -/

section Fold

variable {σ : Type} {f : σ → Component → σ} (hf : ∀ s, f s .here = s)

include hf

/-- A `.` at the start of a path makes no difference to what passes over it. -/
theorem foldl_components {path : String} (h : path.toList.head? ≠ some '/') (s : σ) :
    (components path).foldl f s = ((pieces path.toList).filterMap ofPiece?).foldl f s := by
  rw [components, componentsOf_eq, start, if_neg h, List.foldl_append]
  split_ifs
  · rw [List.foldl_cons, hf, List.foldl_nil]
  · rfl

theorem foldl_components_join (path : String) {below : String}
    (h : below.toList.head? ≠ some '/') (s : σ) : (components (join path below)).foldl f s =
      (components below).foldl f ((components path).foldl f s) := by
  by_cases hpath : path = ""
  · rw [hpath, join_empty]
    rfl
  · rw [components_join_of_head?_ne hpath h, List.foldl_append, foldl_components hf h]

end Fold

theorem ofPiece?_ne_root (piece : List Char) : ofPiece? piece ≠ some .root := by
  unfold ofPiece?
  split <;> nofun

theorem root_notMem_filterMap (ps : List (List Char)) : root ∉ ps.filterMap ofPiece? := by
  intro h
  obtain ⟨piece, -, hpiece⟩ := List.mem_filterMap.1 h
  exact ofPiece?_ne_root piece hpiece

/-! ## Steps up -/

/-- What is left of some components after `k` steps up. -/
def climb (k : Nat) (cs : List Component) : List Component :=
  ((extend · .up)^[k] cs.reverse).reverse

theorem climb_zero (cs : List Component) : climb 0 cs = cs := List.reverse_reverse cs

theorem climb_succ_append_name (k : Nat) (cs : List Component) (n : String) :
    climb (k + 1) (cs ++ [.name n]) = climb k cs := by
  rw [climb, List.reverse_append, Function.iterate_succ_apply]
  rfl

theorem climb_nil (k : Nat) : climb k [] = List.replicate k .up := by
  have h : (extend · .up)^[k] [] = List.replicate k .up := by
    induction k with
    | zero => rfl
    | succ k ih =>
      rw [Function.iterate_succ_apply', ih]
      cases k <;> rfl
  rw [climb, List.reverse_nil, h, List.reverse_replicate]

theorem climb_root (k : Nat) : climb k [.root] = [.root] := by
  have h : (extend · .up)^[k] [.root] = [.root] := Function.iterate_fixed rfl k
  rw [climb, List.reverse_singleton, h, List.reverse_singleton]

/-- Components without the root are some steps up and then some names, whatever they come after. -/
theorem exists_foldl_extend {cs : List Component} (h : .root ∉ cs) :
    ∃ (k : Nat) (names : List String), ∀ bs : List Component,
      (cs.foldl extend bs.reverse).reverse = climb k bs ++ names.map .name := by
  induction cs using List.reverseRecOn with
  | nil => exact ⟨0, [], fun bs => by simp [climb]⟩
  | append_singleton cs c ih =>
    obtain ⟨k, names, hcs⟩ := ih fun hm => h (List.mem_append_left _ hm)
    simp only [List.reverse_eq_iff] at hcs
    simp only [List.foldl_append, List.foldl_cons, List.foldl_nil, hcs]
    cases c with
    | root => exact absurd (List.mem_append_right _ List.mem_cons_self) h
    | here => exact ⟨k, names, fun bs => by rw [extend_here, List.reverse_reverse]⟩
    | name n => exact ⟨k, names ++ [n], fun bs => by simp [extend]⟩
    | up =>
      -- A step up takes away the last name. If there is none left, it is one more step up.
      rcases List.eq_nil_or_concat names with rfl | ⟨names, n, rfl⟩
      · refine ⟨k + 1, [], fun bs => ?_⟩
        rw [List.map_nil, List.append_nil, List.append_nil, climb, climb, List.reverse_reverse,
          Function.iterate_succ_apply']
      · exact ⟨k, names, fun bs => by simp [extend]⟩

/-- **What is left of a path.** A path from the root is left as the root and some names, and is the
same from wherever it is read. What is left of another path are some steps up and some names, also
when it is read from somewhere else. -/
theorem resolved_cases (below : String) :
    (∃ names : List String, resolved below = .root :: names.map .name ∧
      ∀ path, join path below = below) ∨
    ∃ (k : Nat) (names : List String),
      resolved below = List.replicate k .up ++ names.map .name ∧
        ∀ path, resolved (join path below) = climb k (resolved path) ++ names.map .name := by
  obtain ⟨k, names, hfold⟩ := exists_foldl_extend (root_notMem_filterMap (pieces below.toList))
  by_cases h : below.toList.head? = some '/'
  · refine .inl ⟨names, ?_, fun path => if_pos h⟩
    have hroot := hfold [.root]
    rw [climb_root] at hroot
    rw [resolved, components, componentsOf_eq, start, if_pos h]
    exact hroot
  · refine .inr ⟨k, names, ?_, fun path => ?_⟩
    · have hnil := hfold []
      rw [climb_nil] at hnil
      rw [resolved, foldl_components extend_here h]
      exact hnil
    · rw [← hfold, resolved, resolved, foldl_components_join extend_here path h,
        foldl_components extend_here h, List.reverse_reverse]

/-! ## Names -/

theorem exists_names_of_resolved {path n : String} {pre below : List Component}
    (h : resolved path = pre ++ .name n :: below) :
    ∃ names : List String, below = names.map .name := by
  obtain ⟨lead, names, hpath, hlead⟩ : ∃ (lead : List Component) (names : List String),
      resolved path = lead ++ names.map .name ∧ .name n ∉ lead := by
    rcases resolved_cases path with ⟨names, hpath, -⟩ | ⟨k, names, hpath, -⟩
    · exact ⟨[.root], names, hpath, by simp⟩
    · exact ⟨_, names, hpath, by simp [List.mem_replicate]⟩
  rw [hpath] at h
  rcases List.append_eq_append_iff.1 h with ⟨pre', -, hnames⟩ | ⟨lead', hpre, hnames⟩
  · obtain ⟨-, rest, -, -, hrest⟩ := List.map_eq_append_iff.1 hnames
    obtain ⟨-, names, -, -, hbelow⟩ := List.map_eq_cons_iff.1 hrest
    exact ⟨names, hbelow.symm⟩
  · cases lead' with
    | nil =>
      obtain ⟨-, names, -, -, hbelow⟩ := List.map_eq_cons_iff.1 hnames.symm
      exact ⟨names, hbelow.symm⟩
    | cons c lead' =>
      rw [hpre, ← (List.cons.inj hnames).1] at hlead
      simp at hlead

theorem mem_extend {c d : Component} {cs : List Component} (h : c ∈ extend cs d) :
    c = d ∨ c ∈ cs := by
  unfold extend at h
  split at h <;> simp_all

theorem mem_foldl_extend {c : Component} {cs bs : List Component} (h : c ∈ cs.foldl extend bs) :
    c ∈ cs ∨ c ∈ bs := by
  induction cs generalizing bs with
  | nil => exact .inr h
  | cons d cs ih =>
    rcases ih h with h | h
    · exact .inl (List.mem_cons_of_mem _ h)
    · rcases mem_extend h with rfl | h
      · exact .inl List.mem_cons_self
      · exact .inr h

theorem slash_notMem_of_name_mem_resolved {path n : String} (h : .name n ∈ resolved path) :
    '/' ∉ n.toList := by
  have hmem := (mem_foldl_extend (List.mem_reverse.1 h)).resolve_right List.not_mem_nil
  exact slash_notMem_of_mem_pieces (mem_pieces_of_name_mem hmem).1

theorem resolved_join_of_piece (path : String) {n : String} (hslash : '/' ∉ n.toList)
    (hpiece : ofPiece? n.toList = some (.name n)) :
    resolved (join path n) = resolved path ++ [.name n] := by
  have hhead : n.toList.head? ≠ some '/' := fun e => hslash (List.mem_of_mem_head? e)
  rw [resolved, foldl_components_join extend_here path hhead, foldl_components extend_here hhead,
    pieces_of_notMem hslash, List.filterMap_cons, hpiece]
  simp [extend, resolved]

/-! ## Staying in a directory -/

/-- Read from a directory of the name `d`, the path leads to something in it: by names alone, or by
a step out of the directory and straight back. -/
def StaysIn (d path : String) : Prop :=
  ∃ names, names ≠ [] ∧ (resolved path = names.map Component.name ∨
    resolved path = .up :: .name d :: names.map Component.name)

variable {dir d path : String}

theorem staysIn_of_resolved {below : List Component} (hdir : resolved dir = [.name d])
    (hbelow : below ≠ []) (h : resolved (join dir path) = .name d :: below) : StaysIn d path := by
  rcases resolved_cases path with ⟨names, hpath, hjoin⟩ | ⟨k, names, hpath, hjoin⟩
  · rw [hjoin, hpath] at h
    cases h
  · rw [hjoin, hdir] at h
    -- Each step up but the first one would be left of the path.
    match k with
    | 0 =>
      refine ⟨names, ?_, .inl hpath⟩
      rintro rfl
      exact hbelow (List.cons.inj h).2.symm
    | 1 =>
      obtain ⟨n, names, rfl, hn, rfl⟩ := List.map_eq_cons_iff.1 h
      obtain rfl := Component.name.inj hn
      exact ⟨names, fun e => hbelow (by rw [e, List.map_nil]), .inr hpath⟩
    | k + 2 =>
      rw [← List.nil_append [Component.name d], climb_succ_append_name, climb_nil] at h
      cases h

theorem up_cons_ne_map_name (cs : List Component) (names : List String) :
    .up :: cs ≠ names.map .name := by
  cases names <;> simp

theorem exists_resolved_of_staysIn {pre : List Component} (hdir : resolved dir = pre ++ [.name d])
    (h : StaysIn d path) :
    ∃ below, below ≠ [] ∧ resolved (join dir path) = pre ++ .name d :: below := by
  obtain ⟨below, hbelow, hstays⟩ := h
  refine ⟨below.map .name, mt List.map_eq_nil_iff.1 hbelow, ?_⟩
  rcases resolved_cases path with ⟨names, hpath, -⟩ | ⟨k, names, hpath, hjoin⟩
  · rcases hstays with hstays | hstays
    · cases below with
      | nil => exact absurd rfl hbelow
      | cons n below => cases hpath.symm.trans hstays
    · cases hpath.symm.trans hstays
  · rw [hjoin, hdir]
    rw [hpath] at hstays
    match k, hstays with
    | 0, .inl h =>
      rw [climb_zero, List.append_assoc, List.singleton_append]
      exact congrArg (pre ++ .name d :: ·) h
    | 1, .inr h =>
      rw [climb_succ_append_name, climb_zero]
      exact congrArg (pre ++ ·) (List.cons.inj h).2
    | 0, .inr h => exact absurd h.symm (up_cons_ne_map_name _ _)
    | k + 1, .inl h => exact absurd h (up_cons_ne_map_name _ _)
    | k + 2, .inr h => cases (List.cons.inj h).2

end LocalizedStrings.Path
