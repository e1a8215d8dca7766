import LocalizedStrings.Entry

/-!
# What extraction can give

A scanner of single lines sees no line feed. The texts of an extracted entry therefore hold neither
a quote nor a line feed, and this is all that is known about them: backslashes, carriage returns and
control characters may stand in them.

* `Text.mem_onLines`: what is found in a text is found in one of its lines.
* `Text.lineFeed_notMem`: no line holds a line feed.
* `Text.IsInline`: a text without quote and line feed.
* `Entry.ofTexts`: the entries of several texts.
* **`Entry.isInline_ofTexts`**: the texts of extracted entries are inline.
-/

namespace LocalizedStrings

/-! ## Lines -/

namespace Text

theorem mem_of_mem_chomp {c : Char} {l : List Char} (h : c ∈ chomp l) : c ∈ l := by
  unfold chomp at h
  split at h
  · exact List.mem_cons_of_mem _ h
  · exact h

theorem lineFeed_notMem_linesAfter {line s l : List Char} (hline : '\n' ∉ line)
    (h : l ∈ linesAfter line s) : '\n' ∉ l := by
  induction s generalizing line with
  | nil =>
    unfold linesAfter at h
    split at h
    · cases h
    · rw [List.mem_singleton.1 h, List.mem_reverse]
      exact hline
  | cons c s ih =>
    by_cases hc : c = '\n'
    · subst hc
      rw [linesAfter_lineFeed] at h
      rcases List.mem_cons.1 h with rfl | h
      · rw [List.mem_reverse]
        exact fun hm => hline (mem_of_mem_chomp hm)
      · exact ih List.not_mem_nil h
    · rw [linesAfter_cons hc] at h
      refine ih (fun hm => ?_) h
      rcases List.mem_cons.1 hm with hm | hm
      · exact hc hm.symm
      · exact hline hm

theorem lineFeed_notMem {s l : List Char} (h : l ∈ lines s) : '\n' ∉ l :=
  lineFeed_notMem_linesAfter List.not_mem_nil h

theorem mem_onLines {α : Type} {scan : List Char → Nat → List α} {s : List Char} {a : α} :
    a ∈ onLines scan s ↔ ∃ l n, (l, n) ∈ numbered s ∧ a ∈ scan l n := by
  unfold onLines
  rw [List.mem_flatMap]
  exact ⟨fun ⟨p, hp, ha⟩ => ⟨p.1, p.2, hp, ha⟩, fun ⟨l, n, hp, ha⟩ => ⟨(l, n), hp, ha⟩⟩

theorem mem_lines_of_mem_numbered {s l : List Char} {n : Nat} (h : (l, n) ∈ numbered s) :
    l ∈ lines s := (List.mem_zipIdx h).2.2 ▸ List.getElem_mem _

theorem linesAfter_append_lineFeed {l : List Char} (h : '\n' ∉ l) (line s : List Char) :
    linesAfter line (l ++ '\n' :: s) = (chomp (l.reverse ++ line)).reverse :: lines s := by
  induction l generalizing line with
  | nil => exact linesAfter_lineFeed line s
  | cons c l ih =>
    have hc : c ≠ '\n' := fun e => h (e ▸ List.mem_cons_self)
    have hl : '\n' ∉ l := fun hm => h (List.mem_cons_of_mem _ hm)
    rw [List.cons_append, linesAfter_cons hc, ih hl, List.reverse_cons, List.append_assoc]
    rfl

theorem chomp_of_head?_ne {l : List Char} (h : l.head? ≠ some '\r') : chomp l = l := by
  unfold chomp
  split
  · exact absurd rfl h
  · rfl

theorem lines_append_lineFeed {l : List Char} (h : '\n' ∉ l) (hr : l.getLast? ≠ some '\r')
    (s : List Char) : lines (l ++ '\n' :: s) = l :: lines s := by
  have hl : (l.reverse ++ []).head? ≠ some '\r' := by
    rwa [List.append_nil, List.head?_reverse]
  rw [lines, linesAfter_append_lineFeed h, chomp_of_head?_ne hl, List.append_nil,
    List.reverse_reverse]

/-- **A text that is put together from lines gives back these lines.** -/
theorem lines_flatMap {α : Type} {f : α → List Char} {as : List α}
    (h : ∀ a ∈ as, '\n' ∉ f a ∧ (f a).getLast? ≠ some '\r') :
    lines (as.flatMap fun a => f a ++ ['\n']) = as.map f := by
  induction as with
  | nil => rfl
  | cons a as ih =>
    obtain ⟨ha, hr⟩ := h a List.mem_cons_self
    rw [List.flatMap_cons, List.append_assoc, List.singleton_append, lines_append_lineFeed ha hr,
      ih fun b hb => h b (List.mem_cons_of_mem _ hb), List.map_cons]

/-- The text holds no quote and no line feed. -/
structure IsInline (s : List Char) : Prop where
  quote : '"' ∉ s
  lineFeed : '\n' ∉ s

theorem IsInline.of_cons {c : Char} {s : List Char} (h : IsInline (c :: s)) : IsInline s :=
  ⟨fun hm => h.quote (List.mem_cons_of_mem _ hm), fun hm => h.lineFeed (List.mem_cons_of_mem _ hm)⟩

end Text

/-! ## Entries -/

namespace Entry

open Text

/-- The entries of several texts, each given with the name of its file. -/
def ofTexts (texts : List (String × String)) : List Entry :=
  texts.flatMap fun t => ofText t.1 t.2.toList

theorem isInline_ofText {file : String} {text : List Char} {e : Entry} (h : e ∈ ofText file text) :
    IsInline e.key.toList ∧ IsInline e.comment.toList := by
  obtain ⟨l, n, hl, he⟩ := mem_onLines.1 h
  obtain ⟨-, -, hkq, hcq, hk, hc, -, -⟩ := mem_ofLine he
  have hn : '\n' ∉ l := lineFeed_notMem (mem_lines_of_mem_numbered hl)
  exact ⟨⟨hkq, fun hm => hn (hk.subset hm)⟩, ⟨hcq, fun hm => hn (hc.subset hm)⟩⟩

/-- **The texts of extracted entries are inline.** -/
theorem isInline_ofTexts {texts : List (String × String)} {e : Entry} (h : e ∈ ofTexts texts) :
    IsInline e.key.toList ∧ IsInline e.comment.toList := by
  obtain ⟨t, -, he⟩ := List.mem_flatMap.1 h
  exact isInline_ofText he

end Entry

end LocalizedStrings
