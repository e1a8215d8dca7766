import LocalizedStrings.Proofs.Path.Resolved
import Mathlib.Data.List.TakeWhile

/-!
# Parents of paths

The parent of a path has the components of the path but for the last one, however the path is
spelled: slashes and dots at its end go with the component before them. Only a path without
components and one of nothing but the root have no parent. So one gets from a path to its parents a
certain number of times, which its components tell and its length does not.

* `inner`: the components of the pieces of a text.
* `componentsOf_eq_anchor`: the components of a path are those of its anchor and of its pieces.
* `inner_skipBlankPieces`: slashes and dots at the end of a path add no component.
* **`components_of_parent?`**, **`parent?_eq_none_iff`**: the parent of a path.
* `ancestor?`, `depth`: the parents of a path one after another, and how many there are.
* **`ancestor?_isSome_iff`**, **`components_of_ancestor?`**: what they are.
-/

namespace LocalizedStrings.Path

open Component

/-! ## Pieces of a text -/

/-- The components of the pieces of a text, which does not count as the start of a path. -/
def inner (s : List Char) : List Component := (pieces s).filterMap ofPiece?

theorem inner_append_slash (s t : List Char) : inner (s ++ '/' :: t) = inner s ++ inner t := by
  rw [inner, pieces_append_slash, List.filterMap_append]
  rfl

theorem inner_slash_cons (t : List Char) : inner ('/' :: t) = inner t := inner_append_slash [] t

theorem inner_append_slash_nil (s : List Char) : inner (s ++ ['/']) = inner s := by
  rw [inner_append_slash]
  exact List.append_nil _

theorem inner_of_notMem {s : List Char} (h : '/' ∉ s) : inner s = (ofPiece? s).toList := by
  rw [inner, pieces_of_notMem h]
  cases hs : ofPiece? s with
  | none => rw [List.filterMap_cons_none hs]; rfl
  | some c => rw [List.filterMap_cons_some hs]; rfl

/-! ## The start of a path -/

/-- The component of an anchor. -/
def ofAnchor : List Char → List Component
  | ['/'] => [.root]
  | ['.'] => [.here]
  | _ => []

theorem eq_of_head?_pieces {path : List Char} (h : (pieces path).head? = some ['.']) :
    path = ['.'] ∨ ∃ s, path = '.' :: '/' :: s := by
  match path with
  | [] => cases h
  | [c] =>
    by_cases hc : c = '/'
    · subst hc
      cases h
    · obtain ⟨q, qs, hq, hcs⟩ := exists_pieces_cons hc []
      rw [hcs] at h
      cases h
      exact .inl rfl
  | c :: d :: s =>
    by_cases hc : c = '/'
    · subst hc
      rw [pieces_slash] at h
      cases h
    · obtain ⟨q, qs, hq, hcs⟩ := exists_pieces_cons hc (d :: s)
      rw [hcs] at h
      cases h
      by_cases hd : d = '/'
      · exact .inr ⟨s, by rw [hd]⟩
      · obtain ⟨q, qs', -, hds⟩ := exists_pieces_cons hd s
        rw [hq] at hds
        cases hds

/-- A path starts with a slash, or with a dot that is a piece of its own, or it has no anchor. -/
theorem anchor_cases (path : List Char) :
    (anchor path = ['/'] ∧ ∃ s, path = '/' :: s) ∨
      (anchor path = ['.'] ∧ (path = ['.'] ∨ ∃ s, path = '.' :: '/' :: s)) ∨
      (anchor path = [] ∧ path.head? ≠ some '/' ∧ path ≠ ['.'] ∧ ∀ s, path ≠ '.' :: '/' :: s) := by
  unfold anchor
  split
  · exact .inl ⟨rfl, _, rfl⟩
  · exact .inr (.inl ⟨rfl, .inl rfl⟩)
  · exact .inr (.inl ⟨rfl, .inr ⟨_, rfl⟩⟩)
  · next hslash hdot hdots =>
    refine .inr (.inr ⟨rfl, fun h => ?_, hdot, hdots⟩)
    obtain ⟨s, rfl⟩ := List.head?_eq_some_iff.1 h
    exact hslash s rfl

/-- **The components of a path** are that of its anchor and those of the pieces after it. -/
theorem componentsOf_eq_anchor (path : List Char) :
    componentsOf path = ofAnchor (anchor path) ++ inner (path.drop (anchor path).length) := by
  rw [componentsOf_eq]
  rcases anchor_cases path with ⟨ha, s, rfl⟩ | ⟨ha, rfl | ⟨s, rfl⟩⟩ | ⟨ha, hslash, hdot, hdots⟩
  · exact congrArg (Component.root :: ·) (inner_slash_cons s)
  · rfl
  · have hpieces : pieces ('.' :: '/' :: s) = ['.'] :: pieces s := pieces_append_slash ['.'] s
    rw [start, hpieces]
    exact congrArg (Component.here :: ·) (inner_slash_cons s).symm
  · have hfirst : (pieces path).head? ≠ some ['.'] := by
      intro h
      rcases eq_of_head?_pieces h with h | ⟨s, h⟩
      · exact hdot h
      · exact hdots s h
    rw [start, if_neg hslash, if_neg hfirst, ha]
    rfl

/-! ## The end of a path -/

/-- Slashes and dots at the end of a path add no component. -/
theorem inner_skipBlankPieces (s : List Char) :
    inner (skipBlankPieces s).reverse = inner s.reverse := by
  fun_induction skipBlankPieces s with
  | case1 s ih => rw [ih, List.reverse_cons, inner_append_slash_nil]
  | case2 s ih =>
    rw [ih, List.reverse_cons, List.reverse_cons, List.append_assoc]
    exact ((inner_append_slash s.reverse ['.']).trans (List.append_nil _)).symm
  | case3 => rfl
  | case4 => rfl

theorem skipBlankPieces_suffix (s : List Char) : skipBlankPieces s <:+ s := by
  fun_induction skipBlankPieces s with
  | case1 s ih => exact ih.trans (List.suffix_cons _ _)
  | case2 s ih => exact ih.trans ((List.suffix_cons _ _).trans (List.suffix_cons _ _))
  | case3 => exact List.nil_suffix
  | case4 s => exact List.suffix_rfl

theorem isSome_ofPiece? {piece : List Char} (hne : piece ≠ []) (hdot : piece ≠ ['.']) :
    (ofPiece? piece).isSome := by
  unfold ofPiece?
  split
  · exact absurd rfl hne
  · exact absurd rfl hdot
  · rfl
  · rfl

/-- What is left of a path ends in a piece that is a component. -/
theorem isSome_ofPiece?_of_skipBlankPieces {s : List Char} (h : skipBlankPieces s ≠ []) :
    (ofPiece? ((skipBlankPieces s).takeWhile (· != '/')).reverse).isSome := by
  fun_induction skipBlankPieces s with
  | case1 s ih => exact ih h
  | case2 s ih => exact ih h
  | case3 => exact absurd rfl h
  | case4 s hslash hdots hdot =>
    obtain ⟨c, s, rfl⟩ := List.exists_cons_of_ne_nil h
    have hc : (c != '/') = true := bne_iff_ne.2 fun e => hslash s (by rw [e])
    rw [List.takeWhile_cons_of_pos (p := (· != '/')) hc]
    refine isSome_ofPiece? (by simp) fun hpiece => ?_
    obtain ⟨rfl, hs⟩ := List.cons.inj (List.reverse_eq_iff.1 hpiece)
    -- The last piece would be a dot, with nothing or a slash before it.
    cases s with
    | nil => exact hdot rfl
    | cons d s =>
      by_cases hd : d = '/'
      · exact hdots s (by rw [hd])
      · rw [List.takeWhile_cons_of_pos (p := (· != '/')) (bne_iff_ne.2 hd)] at hs
        cases hs

/-- The last piece of a text is its last component. -/
theorem inner_reverse {s : List Char} {c : Component}
    (h : ofPiece? (s.takeWhile (· != '/')).reverse = some c) :
    inner s.reverse = inner (s.dropWhile (· != '/')).reverse ++ [c] := by
  have hslash : '/' ∉ (s.takeWhile (· != '/')).reverse := by
    intro hm
    simpa using List.mem_takeWhile_imp (List.mem_reverse.1 hm)
  have hlast : inner (s.takeWhile (· != '/')).reverse = [c] := by
    rw [inner_of_notMem hslash, h]
    rfl
  have hsplit : s.reverse =
      (s.dropWhile (· != '/')).reverse ++ (s.takeWhile (· != '/')).reverse := by
    rw [← List.reverse_append, List.takeWhile_append_dropWhile]
  rw [hsplit]
  cases hd : s.dropWhile (· != '/') with
  | nil => exact hlast
  | cons d u =>
    have hhead := List.head?_dropWhile_not (fun c : Char => c != '/') s
    rw [hd] at hhead
    obtain rfl : d = '/' := by simpa using hhead
    rw [List.reverse_cons, List.append_assoc, List.singleton_append, inner_append_slash, hlast,
      inner_append_slash_nil]

/-! ## The parent -/

/-- A shorter text after the anchor of a path leaves the anchor as it is. -/
theorem anchor_append {path s : List Char} (hs : s <+: path.drop (anchor path).length)
    (hdot : s ≠ ['.']) : anchor (anchor path ++ s) = anchor path := by
  rcases anchor_cases path with ⟨ha, q, rfl⟩ | ⟨ha, hpath⟩ | ⟨ha, hslash, -, hdots⟩
  · rfl
  · rw [ha] at hs ⊢
    -- Nothing or a slash follows the dot.
    cases s with
    | nil => rfl
    | cons c s =>
      rcases hpath with rfl | ⟨q, rfl⟩
      · exact absurd (List.prefix_nil.1 hs) (List.cons_ne_nil c s)
      · obtain ⟨rfl, -⟩ := List.cons_prefix_cons.1 hs
        rfl
  · rw [ha] at hs ⊢
    obtain ⟨r, hr⟩ := hs
    rw [List.length_nil, List.drop_zero] at hr
    rw [List.nil_append]
    rcases anchor_cases s with ⟨-, q, rfl⟩ | ⟨-, h | ⟨q, rfl⟩⟩ | ⟨h, -⟩
    · exact absurd (by rw [← hr]; rfl) hslash
    · exact absurd h hdot
    · exact absurd hr.symm (hdots (q ++ r))
    · exact h

theorem componentsOf_anchor_append {path s : List Char}
    (hs : s <+: path.drop (anchor path).length) (hdot : s ≠ ['.']) :
    componentsOf (anchor path ++ s) = ofAnchor (anchor path) ++ inner s := by
  rw [componentsOf_eq_anchor, anchor_append hs hdot, List.drop_left]

/-- What is left of a path is a start of it, and is not a dot alone. -/
theorem reverse_skipBlankPieces {s t : List Char} (h : s <:+ t.reverse) :
    (skipBlankPieces s).reverse <+: t ∧ (skipBlankPieces s).reverse ≠ ['.'] := by
  constructor
  · rw [← List.reverse_suffix, List.reverse_reverse]
    exact (skipBlankPieces_suffix s).trans h
  · intro hdot
    rw [List.reverse_eq_iff] at hdot
    have hpiece := isSome_ofPiece?_of_skipBlankPieces (s := s) (by rw [hdot]; nofun)
    rw [hdot] at hpiece
    cases hpiece

/-- The parent of a path has its components but for the last one. -/
theorem components_of_parentOf? {path p : List Char} (h : parentOf? path = some p) :
    ∃ c, c ≠ .root ∧ componentsOf path = componentsOf p ++ [c] := by
  have hinner := inner_skipBlankPieces (path.drop (anchor path).length).reverse
  rw [List.reverse_reverse] at hinner
  rw [componentsOf_eq_anchor path, ← hinner]
  simp only [parentOf?] at h
  split at h
  · next hbody =>
    split at h
    · next ha =>
      cases h
      rw [List.isEmpty_iff.1 hbody, ha]
      exact ⟨.here, by simp, rfl⟩
    · cases h
  · next hbody =>
    cases h
    obtain ⟨c, hc⟩ := Option.isSome_iff_exists.1
      (isSome_ofPiece?_of_skipBlankPieces (mt List.isEmpty_iff.2 hbody))
    obtain ⟨hstart, hdot⟩ := reverse_skipBlankPieces
      ((List.dropWhile_suffix (· != '/')).trans (skipBlankPieces_suffix _))
    refine ⟨c, fun e => ofPiece?_ne_root _ (e ▸ hc), ?_⟩
    rw [inner_reverse hc, componentsOf_anchor_append hstart hdot, inner_skipBlankPieces,
      List.append_assoc]

/-- **The parent of a path** has the components of the path but for the last one. -/
theorem components_of_parent? {path p : String} (h : parent? path = some p) :
    ∃ c, c ≠ .root ∧ components path = components p ++ [c] := by
  obtain ⟨q, hq, rfl⟩ := Option.map_eq_some_iff.1 h
  obtain ⟨c, hc, hpath⟩ := components_of_parentOf? hq
  exact ⟨c, hc, by rw [components, components, String.toList_ofList, hpath]⟩

/-- **A path has no parent** if it has no component, or none but the root. -/
theorem parent?_eq_none_iff {path : String} :
    parent? path = none ↔ components path = [] ∨ components path = [.root] := by
  constructor
  · intro h
    have h : parentOf? path.toList = none := Option.map_eq_none_iff.1 h
    have hinner := inner_skipBlankPieces (path.toList.drop (anchor path.toList).length).reverse
    simp only [parentOf?] at h
    split at h
    · next hbody =>
      rw [List.isEmpty_iff.1 hbody, List.reverse_reverse] at hinner
      rw [components, componentsOf_eq_anchor, ← hinner]
      split at h
      · cases h
      · next hdot =>
        rcases anchor_cases path.toList with ⟨ha, -⟩ | ⟨ha, -⟩ | ⟨ha, -⟩
        · exact .inr (by rw [ha]; rfl)
        · exact absurd ha hdot
        · exact .inl (by rw [ha]; rfl)
    · cases h
  · intro h
    rw [Option.eq_none_iff_forall_ne_some]
    intro p hp
    obtain ⟨c, hc, hpath⟩ := components_of_parent? hp
    rcases h with h | h
    · rw [h] at hpath
      simp at hpath
    · rw [h, ← List.nil_append [Component.root]] at hpath
      obtain ⟨-, hroot⟩ := List.append_inj' hpath rfl
      exact hc (List.cons.inj hroot).1.symm

/-! ## Parents of parents -/

/-- The path with its last component taken away `i` times, if that can be done. -/
def ancestor? (path : String) : Nat → Option String
  | 0 => some path
  | i + 1 => (ancestor? path i).bind parent?

/-- The number of components of the path that can be taken away, which are all but the root. -/
def depth (path : String) : Nat := (components path).countP (· ≠ .root)

theorem ancestor?_succ (path : String) (i : Nat) :
    ancestor? path (i + 1) = (parent? path).bind (ancestor? · i) := by
  induction i with
  | zero =>
    change (some path).bind parent? = (parent? path).bind some
    rw [Option.bind_some, Option.bind_fun_some]
  | succ i ih =>
    rw [ancestor?, ih, Option.bind_assoc]
    rfl

theorem depth_of_parent? {path p : String} (h : parent? path = some p) :
    depth path = depth p + 1 := by
  obtain ⟨c, hc, hpath⟩ := components_of_parent? h
  rw [depth, hpath, List.countP_append, List.countP_singleton, if_pos (by simpa using hc)]
  rfl

theorem depth_of_parent?_eq_none {path : String} (h : parent? path = none) : depth path = 0 := by
  rcases parent?_eq_none_iff.1 h with hpath | hpath
  · rw [depth, hpath]
    rfl
  · rw [depth, hpath]
    rfl

/-- **Components can be taken away** until none but the root is left. -/
theorem ancestor?_isSome_iff {path : String} {i : Nat} :
    (ancestor? path i).isSome ↔ i ≤ depth path := by
  induction i generalizing path with
  | zero => simp [ancestor?]
  | succ i ih =>
    rw [ancestor?_succ]
    cases hp : parent? path with
    | none => simp [depth_of_parent?_eq_none hp]
    | some p => simp [ih, depth_of_parent? hp]

/-- **What is left** after `i` components are taken away. -/
theorem components_of_ancestor? {path d : String} {i : Nat} (h : ancestor? path i = some d) :
    ∃ cs, cs.length = i ∧ .root ∉ cs ∧ components path = components d ++ cs := by
  induction i generalizing path with
  | zero =>
    cases h
    exact ⟨[], rfl, List.not_mem_nil, (List.append_nil _).symm⟩
  | succ i ih =>
    rw [ancestor?_succ] at h
    obtain ⟨p, hp, hd⟩ := Option.bind_eq_some_iff.1 h
    obtain ⟨c, hc, hpath⟩ := components_of_parent? hp
    obtain ⟨cs, hlength, hroot, hcs⟩ := ih hd
    refine ⟨cs ++ [c], by simp [hlength], ?_, by rw [hpath, hcs, List.append_assoc]⟩
    simp [hroot, Ne.symm hc]

end LocalizedStrings.Path
