import LocalizedStrings.Path
import Mathlib.Tactic.SplitIfs

/-!
# The order of paths

Paths are sorted by their components, so that two spellings of a path count as the same. Below a
given directory there is only one spelling: a name is put after the path of the directory and adds
one component to it, whatever the path is.

* `components_join`: a name adds one component.
* `le_total`, `le_trans`: the order of paths is total.
* **`components_eq_of_le`**: it tells paths with different components apart.
* `Precedes`: the strict order, by the first component that differs.
* **`precedes_of_le`**: a path that comes no later and has other components precedes.
-/

namespace LocalizedStrings.Path

/-! ## Pieces -/

theorem pieces_slash (s : List Char) : pieces ('/' :: s) = [] :: pieces s := by
  rw [pieces, if_pos rfl]

theorem pieces_ne_nil (s : List Char) : pieces s ≠ [] := by
  cases s with
  | nil => exact List.cons_ne_nil _ _
  | cons c s =>
    rw [pieces]
    split_ifs
    · exact List.cons_ne_nil _ _
    · split <;> exact List.cons_ne_nil _ _

theorem exists_pieces_cons {c : Char} (h : c ≠ '/') (s : List Char) :
    ∃ q qs, pieces s = q :: qs ∧ pieces (c :: s) = (c :: q) :: qs := by
  obtain ⟨q, qs, hq⟩ := List.exists_cons_of_ne_nil (pieces_ne_nil s)
  exact ⟨q, qs, hq, by rw [pieces, if_neg h, hq]⟩

theorem pieces_append_slash (s t : List Char) : pieces (s ++ '/' :: t) = pieces s ++ pieces t := by
  induction s with
  | nil => exact pieces_slash t
  | cons c s ih =>
    by_cases hc : c = '/'
    · subst hc
      rw [List.cons_append, pieces_slash, pieces_slash, ih, List.cons_append]
    · obtain ⟨q, qs, hs, hcs⟩ := exists_pieces_cons hc s
      obtain ⟨q', qs', hs', hcs'⟩ := exists_pieces_cons hc (s ++ '/' :: t)
      rw [ih, hs] at hs'
      obtain ⟨rfl, rfl⟩ := List.cons.inj hs'
      rw [List.cons_append, hcs', hcs]
      rfl

theorem slash_notMem_of_mem_pieces {s q : List Char} (h : q ∈ pieces s) : '/' ∉ q := by
  induction s generalizing q with
  | nil =>
    rw [List.mem_singleton.1 h]
    exact List.not_mem_nil
  | cons c s ih =>
    by_cases hc : c = '/'
    · subst hc
      rw [pieces_slash] at h
      rcases List.mem_cons.1 h with rfl | h
      · exact List.not_mem_nil
      · exact ih h
    · obtain ⟨p, ps, hs, hcs⟩ := exists_pieces_cons hc s
      rw [hs] at ih
      rw [hcs] at h
      rcases List.mem_cons.1 h with rfl | h
      · simp [Ne.symm hc, ih List.mem_cons_self]
      · exact ih (List.mem_cons_of_mem _ h)

theorem pieces_of_notMem {s : List Char} (h : '/' ∉ s) : pieces s = [s] := by
  induction s with
  | nil => rfl
  | cons c s ih =>
    have hc : c ≠ '/' := fun e => h (e ▸ List.mem_cons_self)
    rw [pieces, if_neg hc, ih fun hm => h (List.mem_cons_of_mem _ hm)]

/-! ## Components -/

/-- The component that comes before those of the pieces of a path. -/
def start (path : List Char) : List Component :=
  if path.head? = some '/' then [.root]
  else if (pieces path).head? = some ['.'] then [.here] else []

theorem componentsOf_eq (path : List Char) :
    componentsOf path = start path ++ (pieces path).filterMap Component.ofPiece? := by
  cases path with
  | nil => rfl
  | cons c s =>
    by_cases hc : c = '/'
    · subst hc
      rfl
    · obtain ⟨q, qs, -, hcs⟩ := exists_pieces_cons hc s
      have hroot : (c :: s).head? ≠ some '/' := by simpa using hc
      unfold componentsOf start
      rw [if_neg hroot, hcs]
      split
      · next h => exact absurd (List.cons.inj h).1 hc
      · -- The piece `.` adds no component of its own.
        next hdot _ =>
        rw [hdot]
        rfl
      · next h =>
        rw [if_neg fun e => h qs (by rw [Option.some.inj e]), List.nil_append]

/-- What follows a slash adds the components of its own pieces. -/
theorem componentsOf_append_slash (q t : List Char) : componentsOf (q ++ '/' :: t) =
    componentsOf (q ++ ['/']) ++ (pieces t).filterMap Component.ofPiece? := by
  obtain ⟨p, ps, hp⟩ := List.exists_cons_of_ne_nil (pieces_ne_nil q)
  have hstart : start (q ++ '/' :: t) = start (q ++ ['/']) := by
    rw [start, start, pieces_append_slash, pieces_append_slash, hp]
    cases q <;> rfl
  rw [componentsOf_eq, componentsOf_eq, hstart, pieces_append_slash, pieces_append_slash,
    List.filterMap_append, List.filterMap_append, List.append_assoc, List.append_assoc]
  rfl

/-- A slash at the end adds no component. -/
theorem componentsOf_slash {q : List Char} (h : q ≠ []) :
    componentsOf (q ++ ['/']) = componentsOf q := by
  obtain ⟨c, q, rfl⟩ := List.exists_cons_of_ne_nil h
  have hstart : start (c :: q ++ ['/']) = start (c :: q) := by
    obtain ⟨p, ps, hp⟩ := List.exists_cons_of_ne_nil (pieces_ne_nil (c :: q))
    rw [start, start, pieces_append_slash, hp]
    rfl
  have hend : (pieces []).filterMap Component.ofPiece? = [] := rfl
  rw [componentsOf_eq, componentsOf_eq, hstart, pieces_append_slash, List.filterMap_append, hend,
    List.append_nil]

theorem Component.toList_of_ofPiece? {q : List Char} {n : String}
    (h : ofPiece? q = some (.name n)) : n.toList = q := by
  unfold ofPiece? at h
  split at h
  · cases h
  · cases h
  · cases h
  · cases h
    exact String.toList_ofList

/-- A name among the components of a path is one of its pieces. -/
theorem mem_pieces_of_name_mem {path : List Char} {n : String} (h : .name n ∈ componentsOf path) :
    n.toList ∈ pieces path ∧ Component.ofPiece? n.toList = some (.name n) := by
  have hstart : Component.name n ∉ start path := by
    unfold start
    split_ifs <;> simp
  rw [componentsOf_eq] at h
  obtain ⟨q, hq, hqn⟩ := List.mem_filterMap.1 ((List.mem_append.1 h).resolve_left hstart)
  rw [Component.toList_of_ofPiece? hqn]
  exact ⟨hq, hqn⟩

/-- A name is one piece. -/
theorem IsName.piece {n : String} (h : IsName n) :
    '/' ∉ n.toList ∧ Component.ofPiece? n.toList = some (.name n) := by
  have hn : .name n ∈ componentsOf n.toList := by
    rw [show componentsOf n.toList = [.name n] from h.1]
    exact List.mem_singleton_self _
  obtain ⟨hq, hqn⟩ := mem_pieces_of_name_mem hn
  exact ⟨slash_notMem_of_mem_pieces hq, hqn⟩

theorem join_empty (below : String) : join "" below = below := by
  unfold join
  split_ifs with _ hempty
  · rfl
  · exact String.empty_append
  · exact absurd rfl hempty

/-- What does not start with a slash adds the components of its pieces. -/
theorem components_join_of_head?_ne {path below : String} (hpath : path ≠ "")
    (h : below.toList.head? ≠ some '/') : components (join path below) =
      components path ++ (pieces below.toList).filterMap Component.ofPiece? := by
  have hne : path.toList ≠ [] := fun e => hpath (String.toList_eq_nil_iff.1 e)
  unfold join
  rw [if_neg h]
  split_ifs with hp
  · rcases Bool.or_eq_true _ _ ▸ hp with hp | hp
    · exact absurd (List.isEmpty_iff.1 hp) hne
    · obtain ⟨q, hq⟩ := List.getLast?_eq_some_iff.1 (of_decide_eq_true hp)
      rw [components, components, String.toList_append, hq, List.append_assoc,
        List.singleton_append, componentsOf_append_slash]
  · rw [components, components, String.toList_append, String.toList_append,
      List.append_assoc, show "/".toList = ['/'] from rfl, List.singleton_append,
      componentsOf_append_slash, componentsOf_slash hne]

/-- **A name adds one component**, whatever path it is put after. -/
theorem components_join (path : String) {n : String} (h : IsName n) :
    components (join path n) = components path ++ [.name n] := by
  obtain ⟨hslash, hpiece⟩ := h.piece
  by_cases hpath : path = ""
  · rw [hpath, join_empty]
    exact h.1
  · rw [components_join_of_head?_ne hpath fun e => hslash (List.mem_of_mem_head? e),
      pieces_of_notMem hslash, List.filterMap_cons, hpiece]
    rfl

/-! ## Order -/

namespace Component

/-- The text of a name. -/
def text : Component → String
  | name t => t
  | _ => ""

theorem le_iff {a b : Component} :
    a.le b = true ↔ a.rank < b.rank ∨ a.rank = b.rank ∧ Text.utf8Le a.text b.text = true := by
  have hrefl : Text.utf8Le "" "" = true := by
    simpa using Text.utf8Le_total "" ""
  cases a <;> cases b <;> simp [le, rank, text, hrefl]

theorem eq_of_rank_of_text {a b : Component} (hr : a.rank = b.rank) (ht : a.text = b.text) :
    a = b := by
  cases a <;> cases b <;> simp_all [rank, text]

theorem le_total (a b : Component) : (a.le b || b.le a) = true := by
  have ht := Text.utf8Le_total a.text b.text
  rw [Bool.or_eq_true] at ht ⊢
  rw [le_iff, le_iff]
  rcases Nat.lt_trichotomy a.rank b.rank with h | h | h
  · exact .inl (.inl h)
  · exact ht.imp (fun ht => .inr ⟨h, ht⟩) (fun ht => .inr ⟨h.symm, ht⟩)
  · exact .inr (.inl h)

theorem le_trans {a b c : Component} (hab : a.le b = true) (hbc : b.le c = true) :
    a.le c = true := by
  rw [le_iff] at *
  rcases hab with hab | ⟨hab, ht⟩
  · rcases hbc with hbc | ⟨hbc, -⟩
    · exact .inl (Nat.lt_trans hab hbc)
    · exact .inl (hbc ▸ hab)
  · rw [hab]
    exact hbc.imp_right fun ⟨hbc, ht'⟩ => ⟨hbc, Text.utf8Le_trans ht ht'⟩

theorem le_antisymm {a b : Component} (hab : a.le b = true) (hba : b.le a = true) : a = b := by
  rw [le_iff] at *
  rcases hab with hab | ⟨hab, ht⟩
  · omega
  · rcases hba with hba | ⟨-, ht'⟩
    · omega
    · exact eq_of_rank_of_text hab (Text.utf8Le_antisymm ht ht')

end Component

theorem componentsLe_cons_iff {a b : Component} {as bs : List Component} :
    componentsLe (a :: as) (b :: bs) = true ↔
      a ≠ b ∧ a.le b = true ∨ a = b ∧ componentsLe as bs = true := by
  rw [componentsLe]
  split_ifs with h <;> simp [h]

theorem componentsLe_total (as bs : List Component) :
    componentsLe as bs = true ∨ componentsLe bs as = true := by
  induction as generalizing bs with
  | nil => exact .inl rfl
  | cons a as ih =>
    cases bs with
    | nil => exact .inr rfl
    | cons b bs =>
      rw [componentsLe_cons_iff, componentsLe_cons_iff]
      by_cases h : a = b
      · exact (ih bs).imp (fun hs => .inr ⟨h, hs⟩) fun hs => .inr ⟨h.symm, hs⟩
      · have ht := a.le_total b
        rw [Bool.or_eq_true] at ht
        exact ht.imp (fun ht => .inl ⟨h, ht⟩) fun ht => .inl ⟨Ne.symm h, ht⟩

theorem componentsLe_trans {as bs cs : List Component} (hab : componentsLe as bs = true)
    (hbc : componentsLe bs cs = true) : componentsLe as cs = true := by
  induction as generalizing bs cs with
  | nil => rfl
  | cons a as ih =>
    cases bs with
    | nil => cases hab
    | cons b bs =>
      cases cs with
      | nil => cases hbc
      | cons c cs =>
        rw [componentsLe_cons_iff] at *
        rcases hab with ⟨hab, h⟩ | ⟨rfl, h⟩
        · rcases hbc with ⟨-, h'⟩ | ⟨rfl, -⟩
          · refine .inl ⟨?_, Component.le_trans h h'⟩
            rintro rfl
            exact hab (Component.le_antisymm h h')
          · exact .inl ⟨hab, h⟩
        · exact hbc.imp_right fun ⟨hac, h'⟩ => ⟨hac, ih h h'⟩

theorem componentsLe_antisymm {as bs : List Component} (hab : componentsLe as bs = true)
    (hba : componentsLe bs as = true) : as = bs := by
  induction as generalizing bs with
  | nil =>
    cases bs with
    | nil => rfl
    | cons b bs => cases hba
  | cons a as ih =>
    cases bs with
    | nil => cases hab
    | cons b bs =>
      rw [componentsLe_cons_iff] at *
      rcases hab with ⟨hab, h⟩ | ⟨rfl, h⟩
      · rcases hba with ⟨-, h'⟩ | ⟨hba, -⟩
        · exact absurd (Component.le_antisymm h h') hab
        · exact absurd hba.symm hab
      · rcases hba with ⟨hba, -⟩ | ⟨-, h'⟩
        · exact absurd rfl hba
        · rw [ih h h']

theorem le_total (a b : String) : (le a b || le b a) = true :=
  (Bool.or_eq_true _ _).symm ▸ componentsLe_total (components a) (components b)

theorem le_trans {a b c : String} (hab : le a b = true) (hbc : le b c = true) : le a c = true :=
  componentsLe_trans hab hbc

/-- **The order tells paths with different components apart.** -/
theorem components_eq_of_le {a b : String} (hab : le a b = true) (hba : le b a = true) :
    components a = components b := componentsLe_antisymm hab hba

/-! ## Strict order -/

/-- The component comes before another one. -/
def Component.Before (a b : Component) : Prop := a.le b = true ∧ a ≠ b

/-- The path comes before another one: at the first place where their components differ, or because
it has only some of the components. -/
def Precedes (a b : String) : Prop := List.Lex Component.Before (components a) (components b)

theorem lex_of_componentsLe {as bs : List Component} (h : componentsLe as bs = true)
    (hne : as ≠ bs) : List.Lex Component.Before as bs := by
  induction as generalizing bs with
  | nil =>
    cases bs with
    | nil => exact absurd rfl hne
    | cons b bs => exact .nil
  | cons a as ih =>
    cases bs with
    | nil => cases h
    | cons b bs =>
      rcases componentsLe_cons_iff.1 h with ⟨hab, hle⟩ | ⟨rfl, hle⟩
      · exact .rel ⟨hle, hab⟩
      · exact .cons (ih hle fun e => hne (by rw [e]))

theorem precedes_of_le {a b : String} (h : le a b = true) (hne : components a ≠ components b) :
    Precedes a b := lex_of_componentsLe h hne

end LocalizedStrings.Path
