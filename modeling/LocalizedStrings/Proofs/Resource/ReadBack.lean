import LocalizedStrings.Proofs.Extraction
import LocalizedStrings.Resource

/-!
# Which pairs read back

The entries of a resource file stand in the order of their keys, and those of one key in the order
in which they were found.

Writing a pair escapes nothing, but reading takes a backslash and the character after it together.
A quote stands right after the key and right after the value of a line. If an odd number of
backslashes stands before it, reading goes on past this quote; the line has only four quotes, so one
is missing in the end and the line is no pair at all.

* `Entry.IsSortOf`: a list of entries by key, those of one key in their order.
* **`Entry.isSortOf_sorted`**: sorting gives such a list.
* `Text.endsEven`: a text ends in an even number of backslashes.
* `escaped?_append_quote`: reading a text up to its closing quote.
* **`Pair.ofLine?_text`**: a line reads back as its pair, or not at all.
* **`Entry.ofText_render`**: the pairs that a resource file gives back.
-/

namespace LocalizedStrings

/-! ## The order of the entries -/

namespace Entry

/-- `as` has the entries `es` by key, byte by byte, and those of one key in their order. -/
structure IsSortOf (as es : List Entry) : Prop where
  perm : as.Perm es
  ordered : as.Pairwise fun a b => keyLe a b = true
  stable : ∀ k, (as.filter fun e => e.key = k) = es.filter fun e => e.key = k

theorem keyLe_of_eq {a b : Entry} (h : a.key = b.key) : keyLe a b = true := by
  have := keyLe_total a a
  rw [Bool.or_self] at this
  rwa [keyLe, ← h]

theorem key_of_mem_filter {es : List Entry} {k : String} {e : Entry}
    (h : e ∈ es.filter fun e => e.key = k) : e.key = k := by
  simpa using (List.mem_filter.1 h).2

theorem pairwise_filter_key (es : List Entry) (k : String) :
    (es.filter fun e => e.key = k).Pairwise fun a b => keyLe a b = true := by
  refine List.Pairwise.imp_of_mem (fun {a b} ha hb _ => ?_)
    (List.pairwise_of_forall (R := fun _ _ => True) fun _ _ => trivial)
  exact keyLe_of_eq ((key_of_mem_filter ha).trans (key_of_mem_filter hb).symm)

theorem filter_key_sorted (es : List Entry) (k : String) :
    ((sorted es).filter fun e => e.key = k) = es.filter fun e => e.key = k := by
  have hs : (es.filter fun e => e.key = k).Sublist (sorted es) :=
    List.sublist_mergeSort (fun a b c => @keyLe_trans a b c) keyLe_total
      (pairwise_filter_key es k) List.filter_sublist
  have hs := hs.filter fun e => decide (e.key = k)
  rw [List.filter_filter] at hs
  simp only [Bool.and_self] at hs
  exact (hs.eq_of_length ((sorted_perm es).filter _).length_eq.symm).symm

/-- **Sorting keeps every entry, orders them by key and keeps the order of those of one key.** -/
theorem isSortOf_sorted (es : List Entry) : IsSortOf (sorted es) es :=
  ⟨sorted_perm es, pairwise_sorted es, filter_key_sorted es⟩

end Entry

open Source Text

/-! ## Backslashes at the end of a text -/

namespace Text

/-- The number of backslashes that the text ends in. -/
def backslashesAtEnd (s : List Char) : Nat := (s.reverse.takeWhile (· == '\\')).length

/-- The text ends in an even number of backslashes, which may be none. -/
def endsEven (s : List Char) : Bool := backslashesAtEnd s % 2 == 0

theorem length_takeWhile_reverse_iff {s : List Char} :
    (s.reverse.takeWhile (· == '\\')).length = s.reverse.length ↔ ∀ c ∈ s, c = '\\' := by
  constructor
  · intro h c hc
    have hs := List.all_takeWhile (p := (· == '\\')) (l := s.reverse)
    rw [(List.takeWhile_sublist _).eq_of_length h, List.all_eq_true] at hs
    exact beq_iff_eq.1 (hs c (List.mem_reverse.2 hc))
  · intro h
    have hs : (s.reverse ++ []).takeWhile (· == '\\') = s.reverse ++ [] :=
      List.takeWhile_append_of_pos fun c hc => beq_iff_eq.2 (h c (List.mem_reverse.1 hc))
    rw [List.append_nil] at hs
    rw [hs]

theorem backslashesAtEnd_of_forall {s : List Char} (h : ∀ c ∈ s, c = '\\') :
    backslashesAtEnd s = s.length := by
  rw [backslashesAtEnd, length_takeWhile_reverse_iff.2 h, List.length_reverse]

/-- A character matters at the end only if it is a backslash and nothing else follows it. -/
theorem backslashesAtEnd_cons_of_not {c : Char} {s : List Char}
    (h : ¬ (c = '\\' ∧ ∀ d ∈ s, d = '\\')) : backslashesAtEnd (c :: s) = backslashesAtEnd s := by
  unfold backslashesAtEnd
  rw [List.reverse_cons, List.takeWhile_append]
  by_cases hs : ∀ d ∈ s, d = '\\'
  · have hc : [c].takeWhile (· == '\\') = [] :=
      List.takeWhile_cons_of_neg fun hc => h ⟨beq_iff_eq.1 hc, hs⟩
    rw [if_pos (length_takeWhile_reverse_iff.2 hs), hc, List.append_nil,
      length_takeWhile_reverse_iff.2 hs]
  · rw [if_neg fun e => hs (length_takeWhile_reverse_iff.1 e)]

theorem endsEven_cons {c : Char} (h : c ≠ '\\') (s : List Char) :
    endsEven (c :: s) = endsEven s := by
  rw [endsEven, backslashesAtEnd_cons_of_not fun hc => h hc.1, endsEven]

/-- A backslash and the character after it do not change whether the number is even. -/
theorem endsEven_backslash_cons (c : Char) (s : List Char) :
    endsEven ('\\' :: c :: s) = endsEven s := by
  by_cases hs : ∀ d ∈ c :: s, d = '\\'
  · have h : ∀ d ∈ '\\' :: c :: s, d = '\\' := List.forall_mem_cons.2 ⟨rfl, hs⟩
    rw [endsEven, endsEven, backslashesAtEnd_of_forall h,
      backslashesAtEnd_of_forall (List.forall_mem_cons.1 hs).2, List.length_cons, List.length_cons,
      Nat.add_assoc, Nat.add_mod_right]
  · rw [endsEven, backslashesAtEnd_cons_of_not fun h => hs h.2,
      backslashesAtEnd_cons_of_not fun h => hs (List.forall_mem_cons.2 h), endsEven]

end Text

/-! ## The closing quote -/

namespace Pair

theorem escaped?_backslash {c : Char} (h : c ≠ '\n') (s : List Char) :
    escaped? ('\\' :: c :: s) = (escaped? s).map fun p => ('\\' :: c :: p.1, p.2) := by
  rw [escaped?, if_neg h]

theorem escaped?_cons {c : Char} (hq : c ≠ '"') (hb : c ≠ '\\') (s : List Char) :
    escaped? (c :: s) = (escaped? s).map fun p => (c :: p.1, p.2) := by
  rw [escaped?]
  · rw [if_neg hb]
  · exact fun h => hq h
  · exact fun _ _ h => absurd h hb

/-- **Reading up to a quote.** The quote after an inline text ends it if the text ends in an even
number of backslashes. Else reading goes on after the quote. -/
theorem escaped?_append_quote : ∀ {s : List Char}, IsInline s → ∀ r,
    escaped? (s ++ '"' :: r) =
      if endsEven s then some (s, r) else (escaped? r).map fun p => (s ++ '"' :: p.1, p.2)
  | [], _, r => rfl
  | [c], h, r => by
    by_cases hc : c = '\\'
    · subst hc
      exact escaped?_backslash (by decide) r
    · have hq : c ≠ '"' := fun e => h.quote (by simp [e])
      rw [List.singleton_append, escaped?_cons hq hc, endsEven_cons hc]
      rfl
  | c :: d :: s, h, r => by
    have hq : c ≠ '"' := fun e => h.quote (by simp [e])
    have ht : IsInline (d :: s) := h.of_cons
    by_cases hc : c = '\\'
    · subst hc
      have hs : IsInline s := ht.of_cons
      have hd : d ≠ '\n' := fun e => ht.lineFeed (by simp [e])
      rw [List.cons_append, List.cons_append, escaped?_backslash hd, escaped?_append_quote hs,
        endsEven_backslash_cons]
      split
      · rfl
      · rw [Option.map_map]
        rfl
    · rw [List.cons_append, escaped?_cons hq hc, escaped?_append_quote ht, endsEven_cons hc]
      split
      · rfl
      · rw [Option.map_map]
        rfl

/-! ## Lines -/

theorem eq_of_key_of_value {p q : Pair} (hkey : p.key = q.key) (hvalue : p.value = q.value) :
    p = q := (mk.injEq _ _ _ _).mpr ⟨hkey, hvalue⟩

/-- What comes after the closing quote of the key in the line for the pair. -/
def afterKey (p : Pair) : List Char := [' ', '=', ' '] ++ '"' :: (p.value.toList ++ ['"', ';'])

/-- The line for the pair, without its line feed. -/
def text (p : Pair) : List Char := '"' :: (p.key.toList ++ '"' :: p.afterKey)

theorem line_eq (p : Pair) : p.line = p.text ++ ['\n'] := by
  simp only [line, text, afterKey, List.append_assoc, List.cons_append]
  rfl

/-- The key and the value hold no quote and no line feed. -/
structure IsInline (p : Pair) : Prop where
  key : Text.IsInline p.key.toList
  value : Text.IsInline p.value.toList

/-- The key and the value both end in an even number of backslashes. -/
def endsEven (p : Pair) : Bool := Text.endsEven p.key.toList && Text.endsEven p.value.toList

theorem one_le_count_of_escaped? {s : List Char} {p : List Char × List Char}
    (h : escaped? s = some p) : 1 ≤ s.count '"' := by
  fun_induction escaped? s generalizing p with
  | case1 => cases h
  | case2 s => simp
  | case3 => cases h
  | case4 c s hc ih =>
    obtain ⟨q, hq, -⟩ := Option.map_eq_some_iff.1 h
    exact Nat.le_trans (ih hq)
      (((List.sublist_cons_self _ _).trans (List.sublist_cons_self _ _)).count_le _)
  | case5 => cases h
  | case6 c s _ _ _ ih =>
    obtain ⟨q, hq, -⟩ := Option.map_eq_some_iff.1 h
    exact Nat.le_trans (ih hq) ((List.sublist_cons_self _ _).count_le _)

theorem two_le_count_of_quotedText? {s : List Char} {p : List Char × List Char}
    (h : quotedText? s = some p) : 2 ≤ s.count '"' := by
  simp only [quotedText?, Option.bind_eq_bind, Option.bind_eq_some_iff, after?_eq_some_iff] at h
  obtain ⟨u, hu, hp⟩ := h
  have h1 := one_le_count_of_escaped? hp
  have h2 := (List.dropWhile_sublist (l := s) isBlank).count_le '"'
  rw [hu, List.singleton_append, List.count_cons_self] at h2
  omega

theorem quotedText?_quote (s : List Char) : quotedText? ('"' :: s) = escaped? s := rfl

/-- A line is no pair if less than two quotes are left after its key. -/
theorem ofLine?_eq_none {s r key : List Char} (h : quotedText? s = some (key, r))
    (hr : r.count '"' < 2) : ofLine? s = none := by
  refine Option.eq_none_iff_forall_ne_some.2 fun q hq => ?_
  simp only [ofLine?, h, Option.bind_eq_bind, Option.bind_some, Option.bind_eq_some_iff,
    after?_eq_some_iff] at hq
  obtain ⟨u, hu, v, hv, -⟩ := hq
  have h1 := two_le_count_of_quotedText? hv
  have h2 := (List.dropWhile_sublist (l := r) isBlank).count_le '"'
  rw [hu, List.singleton_append] at h2
  have h3 := (List.sublist_cons_self '=' u).count_le '"'
  omega

/-- The key as it is read. After an odd number of backslashes the quote that closes it is passed
over, and the one that opens the value is taken for it. -/
theorem quotedText?_text {p : Pair} (h : p.IsInline) :
    quotedText? p.text = if Text.endsEven p.key.toList then some (p.key.toList, p.afterKey)
      else some (p.key.toList ++ '"' :: [' ', '=', ' '], p.value.toList ++ ['"', ';']) := by
  have hs : Text.IsInline [' ', '=', ' '] := ⟨by decide, by decide⟩
  rw [text, quotedText?_quote, escaped?_append_quote h.key]
  split
  · rfl
  · rw [afterKey, escaped?_append_quote hs]
    rfl

/-- **A line reads back as its pair or not at all.** -/
theorem ofLine?_text {p : Pair} (h : p.IsInline) :
    ofLine? p.text = if p.endsEven then some p else none := by
  have hkey := quotedText?_text h
  unfold endsEven
  by_cases hk : Text.endsEven p.key.toList
  · have hvalue : quotedText? (' ' :: '"' :: (p.value.toList ++ ['"', ';'])) =
        if Text.endsEven p.value.toList then some (p.value.toList, [';']) else none :=
      escaped?_append_quote h.value [';']
    have heq : after? ['='] (p.afterKey.dropWhile isBlank) =
        some (' ' :: '"' :: (p.value.toList ++ ['"', ';'])) := rfl
    rw [if_pos hk] at hkey
    rw [hk, Bool.true_and, ofLine?, hkey]
    simp only [Option.bind_eq_bind, Option.bind_some, heq, hvalue]
    split
    · have hend : after? [';'] ([';'].dropWhile isBlank) = some [] := rfl
      simp only [Option.bind_some, hend, List.dropWhile_nil, List.isEmpty_nil, if_true,
        String.ofList_toList]
    · rfl
  · have hc : (p.value.toList ++ ['"', ';']).count '"' < 2 := by
      rw [List.count_append, List.count_eq_zero_of_not_mem h.value.quote]
      decide
    rw [if_neg hk] at hkey
    rw [ofLine?_eq_none hkey hc, Bool.eq_false_iff.2 hk]
    rfl

/-! ## Whole files -/

theorem lineFeed_notMem_text {p : Pair} (hkey : '\n' ∉ p.key.toList)
    (hvalue : '\n' ∉ p.value.toList) : '\n' ∉ p.text := by
  simp only [text, afterKey, List.mem_cons, List.mem_append, not_or]
  exact ⟨by decide, hkey, by decide, by decide, by decide, hvalue, by decide⟩

theorem lines_flatMap_line_of_notMem {ps : List Pair}
    (h : ∀ p ∈ ps, '\n' ∉ p.key.toList ∧ '\n' ∉ p.value.toList) :
    lines (ps.flatMap line) = ps.map text := by
  rw [funext line_eq]
  refine lines_flatMap fun p hp => ⟨lineFeed_notMem_text (h p hp).1 (h p hp).2, ?_⟩
  simp [text, afterKey, List.getLast?_cons, List.getLast?_append]

theorem lines_flatMap_line {ps : List Pair} (h : ∀ p ∈ ps, p.IsInline) :
    lines (ps.flatMap line) = ps.map text :=
  lines_flatMap_line_of_notMem fun p hp => ⟨(h p hp).key.lineFeed, (h p hp).value.lineFeed⟩

theorem map_ofLine?_text {ps : List Pair} (h : ∀ p ∈ ps, p.IsInline) :
    (ps.map text).map ofLine? = ps.map fun p => if p.endsEven then some p else none := by
  rw [List.map_map]
  exact List.map_congr_left fun p hp => ofLine?_text (h p hp)

theorem filterMap_ofLine?_text {ps : List Pair} (h : ∀ p ∈ ps, p.IsInline) :
    (ps.map text).filterMap ofLine? = ps.filter endsEven := by
  induction ps with
  | nil => rfl
  | cons p ps ih =>
    rw [List.map_cons, List.filterMap_cons, ofLine?_text (h p List.mem_cons_self), List.filter_cons,
      ih fun q hq => h q (List.mem_cons_of_mem _ hq)]
    by_cases hp : p.endsEven
    · rw [if_pos hp, if_pos hp]
    · rw [if_neg hp, if_neg hp]

/-- **What the lines of some pairs give back.** -/
theorem ofText_flatMap_line {ps : List Pair} (h : ∀ p ∈ ps, p.IsInline) :
    ofText (ps.flatMap line) = ps.filter endsEven := by
  rw [ofText, lines_flatMap_line h, filterMap_ofLine?_text h]

end Pair

namespace Entry

theorem toList_render (es : List Entry) (field : Field) :
    (render es field).toList = ((sorted es).map (pair field)).flatMap Pair.line := by
  rw [render, String.toList_ofList, List.flatMap_map]

theorem isInline_pair {texts : List (String × String)} {e : Entry} (h : e ∈ ofTexts texts)
    (field : Field) : (e.pair field).IsInline := by
  obtain ⟨hk, hc⟩ := isInline_ofTexts h
  cases field with
  | base => exact ⟨hk, hk⟩
  | comment => exact ⟨hk, hc⟩

theorem isInline_sorted {texts : List (String × String)} {field : Field} {p : Pair}
    (h : p ∈ (sorted (ofTexts texts)).map (pair field)) : p.IsInline := by
  obtain ⟨e, he, rfl⟩ := List.mem_map.1 h
  exact isInline_pair ((sorted_perm _).mem_iff.1 he) field

/-- **What a resource file gives back.** Each line of the file is that of an entry, by key and for
one key in the order of the entries. It reads back as the pair it was written for if the key and the
value of the pair both end in an even number of backslashes, and else not at all. -/
theorem ofText_render (texts : List (String × String)) (field : Field) :
    IsSortOf (sorted (ofTexts texts)) (ofTexts texts) ∧
      (Text.lines (render (ofTexts texts) field).toList).map Pair.ofLine? =
        ((sorted (ofTexts texts)).map (pair field)).map
          (fun p => if p.endsEven then some p else none) ∧
      Pair.ofText (render (ofTexts texts) field).toList =
        ((sorted (ofTexts texts)).map (pair field)).filter Pair.endsEven := by
  have h : ∀ p ∈ (sorted (ofTexts texts)).map (pair field), p.IsInline := fun _ => isInline_sorted
  rw [toList_render]
  refine ⟨isSortOf_sorted _, ?_, Pair.ofText_flatMap_line h⟩
  rw [Pair.lines_flatMap_line h, Pair.map_ofLine?_text h]

end Entry

end LocalizedStrings
