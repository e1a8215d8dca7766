import LocalizedStrings.Proofs.Extraction
import LocalizedStrings.Proofs.Literal.Comments
import LocalizedStrings.Proofs.Source.Grammar

/-!
# Records of a text

What a scanner of single lines finds in a text carries the number of its line. So the record tells
where its texts stand, and the records of a text are in the order of its lines.

* `Text.lineAt?`: the line with a number.
* `Text.lineAt?_of_mem_onLines`, `Text.pairwise_onLines`: what is found in a text, line by line.
* `Literal.mem_ofLine`: what is known of a literal of a line.
* `Entry.IsRecordOf`, `Literal.IsRecordOf`: what a record of a text is.
* **`ofText_isRecordOf`**: the entries and the literals of a text are records of it, in order.
-/

namespace LocalizedStrings

/-! ## Numbers of lines -/

namespace Text

/-- The line with a number, counted from 1. -/
def lineAt? (s : List Char) : Nat → Option (List Char)
  | 0 => none
  | n + 1 => (lines s)[n]?

theorem lineAt?_eq_some {s l : List Char} {n : Nat} (h : lineAt? s n = some l) :
    1 ≤ n ∧ n ≤ (lines s).length ∧ l ∈ lines s := by
  cases n with
  | zero => cases h
  | succ n =>
    obtain ⟨hn, -⟩ := List.getElem?_eq_some_iff.1 h
    exact ⟨Nat.succ_pos n, hn, List.mem_of_getElem? h⟩

theorem lineAt?_of_mem_numbered {s l : List Char} {n : Nat} (h : (l, n) ∈ numbered s) :
    lineAt? s n = some l := by
  obtain ⟨hpos, hlt, hl⟩ := List.mem_zipIdx h
  obtain ⟨k, rfl⟩ := Nat.exists_eq_add_of_le' hpos
  rw [lineAt?, List.getElem?_eq_some_iff]
  exact ⟨by omega, hl.symm⟩

section

variable {α : Type} [Record α] {scan : List Char → Nat → List α}
  (hscan : ∀ l n, ∀ a ∈ scan l n, Record.line a = n)

include hscan

/-- **What is found in a text is found in the line with its number.** -/
theorem lineAt?_of_mem_onLines {s : List Char} {a : α} (h : a ∈ onLines scan s) :
    ∃ l, lineAt? s (Record.line a) = some l ∧ a ∈ scan l (Record.line a) := by
  obtain ⟨l, n, hl, ha⟩ := mem_onLines.1 h
  rw [hscan l n a ha]
  exact ⟨l, lineAt?_of_mem_numbered hl, ha⟩

/-- **What is found in a text is in the order of its lines.** -/
theorem pairwise_onLines (s : List Char) :
    (onLines scan s).Pairwise fun a b => Record.line a ≤ Record.line b := by
  have hnumbers : (numbered s).Pairwise fun p q => p.2 < q.2 := by
    rw [← List.pairwise_map, numbered, List.zipIdx_map_snd]
    exact List.pairwise_lt_range'
  rw [onLines, List.pairwise_flatMap]
  constructor
  · intro p _
    refine List.pairwise_of_forall_mem_list fun a ha b hb => ?_
    rw [hscan _ _ a ha, hscan _ _ b hb]
  · refine hnumbers.imp fun {p q} hlt a ha b hb => ?_
    rw [hscan _ _ a ha, hscan _ _ b hb]
    exact hlt.le

end

end Text

/-! ## Literals of a line -/

namespace Literal

open Source

theorem quoted_infix_of_mem_reported {s : List Char} {x : List Char × List Char}
    (h : x ∈ reported s) : ['"'] ++ x.1 ++ ['"'] <:+: s := by
  have hle : afterComments s <:+ s :=
    (afterComments_suffix s).trans ((afterPrints_suffix s).trans (call.afterAll_suffix s))
  obtain ⟨t, ht⟩ := (quoted_suffix_of_mem_reported h).trans hle
  exact ⟨t, x.2, by rw [← ht]; simp⟩

/-- **Literals are not empty, hold no quote but a character outside ASCII, and stand in the line in
quotes.** -/
theorem mem_ofLine {file : String} {line : List Char} {n : Nat} {l : Literal}
    (h : l ∈ ofLine file line n) :
    l.text ≠ "" ∧ '"' ∉ l.text.toList ∧ (∃ c ∈ l.text.toList, 127 < c.toNat) ∧
      ['"'] ++ l.text.toList ++ ['"'] <:+: line ∧ l.file = file ∧ l.line = n := by
  rw [ofLine_eq_map_reported] at h
  obtain ⟨x, hx, rfl⟩ := List.mem_map.1 h
  obtain ⟨hplace, hascii⟩ := List.mem_filter.1 hx
  obtain ⟨-, u, -, hm⟩ := Source.quoted.mem_places hplace
  obtain ⟨ht, hq, -⟩ := quoted?_eq_some hm
  have htext : (String.ofList x.1).toList = x.1 := String.toList_ofList
  refine ⟨fun e => ht ?_, ?_, ?_, ?_, rfl, rfl⟩
  · exact htext.symm.trans (congrArg String.toList e)
  · rwa [htext]
  · rw [htext]
    simpa [Text.hasNonAscii] using hascii
  · rw [htext]
    exact quoted_infix_of_mem_reported hx

end Literal

/-! ## Records -/

open Text (IsInline lineAt? lines)

/-- The entry is one of the text: its key and its comment are not empty, hold neither a quote nor a
line feed, and stand in the line of the text that has its number. -/
structure Entry.IsRecordOf (file : String) (text : List Char) (e : Entry) : Prop where
  file_eq : e.file = file
  key_ne : e.key ≠ ""
  comment_ne : e.comment ≠ ""
  key_isInline : IsInline e.key.toList
  comment_isInline : IsInline e.comment.toList
  one_le_line : 1 ≤ e.line
  line_le : e.line ≤ (lines text).length
  stands : ∃ l, lineAt? text e.line = some l ∧ e.key.toList <:+: l ∧ e.comment.toList <:+: l

/-- The literal is one of the text: its own text is not empty, holds neither a quote nor a line feed
but a character outside ASCII, and stands in quotes in the line of the text that has its number. -/
structure Literal.IsRecordOf (file : String) (text : List Char) (l : Literal) : Prop where
  file_eq : l.file = file
  text_ne : l.text ≠ ""
  isInline : IsInline l.text.toList
  hasNonAscii : ∃ c ∈ l.text.toList, 127 < c.toNat
  one_le_line : 1 ≤ l.line
  line_le : l.line ≤ (lines text).length
  stands : ∃ m, lineAt? text l.line = some m ∧ ['"'] ++ l.text.toList ++ ['"'] <:+: m

theorem Entry.line_of_mem_ofLine (file : String) (l : List Char) (n : Nat) :
    ∀ e ∈ ofLine file l n, Record.line e = n :=
  fun _ he => (mem_ofLine he).2.2.2.2.2.2.2

theorem Literal.line_of_mem_ofLine (file : String) (l : List Char) (n : Nat) :
    ∀ x ∈ ofLine file l n, Record.line x = n :=
  fun _ hx => (mem_ofLine hx).2.2.2.2.2

theorem Entry.isRecordOf_of_mem {file : String} {text : List Char} {e : Entry}
    (h : e ∈ ofText file text) : e.IsRecordOf file text := by
  obtain ⟨l, hl, he⟩ := Text.lineAt?_of_mem_onLines (line_of_mem_ofLine file) h
  obtain ⟨hpos, hle, -⟩ := Text.lineAt?_eq_some hl
  obtain ⟨hk, hc, -, -, hkl, hcl, hfile, -⟩ := mem_ofLine he
  obtain ⟨hki, hci⟩ := isInline_ofText h
  exact ⟨hfile, hk, hc, hki, hci, hpos, hle, l, hl, hkl, hcl⟩

theorem Literal.isRecordOf_of_mem {file : String} {text : List Char} {x : Literal}
    (h : x ∈ ofText file text) : x.IsRecordOf file text := by
  obtain ⟨l, hl, hx⟩ := Text.lineAt?_of_mem_onLines (line_of_mem_ofLine file) h
  obtain ⟨hpos, hle, hmem⟩ := Text.lineAt?_eq_some hl
  obtain ⟨ht, hq, hascii, hquoted, hfile, -⟩ := mem_ofLine hx
  -- The text stands in a line, which holds no line feed.
  have hn : '\n' ∉ x.text.toList := fun hm =>
    Text.lineFeed_notMem hmem (hquoted.subset (by simp [hm]))
  exact ⟨hfile, ht, ⟨hq, hn⟩, hascii, hpos, hle, l, hl, hquoted⟩

/-- **The records of a text.** Each entry and each literal that is found in a text is a record of
it, with the number of a line in which its texts stand, and both are in the order of the lines. -/
theorem ofText_isRecordOf (file : String) (text : List Char) :
    (∀ e ∈ Entry.ofText file text, e.IsRecordOf file text) ∧
      (Entry.ofText file text).Pairwise (fun a b => a.line ≤ b.line) ∧
      (∀ l ∈ Literal.ofText file text, l.IsRecordOf file text) ∧
      (Literal.ofText file text).Pairwise (fun a b => a.line ≤ b.line) :=
  ⟨fun _ => Entry.isRecordOf_of_mem,
    Text.pairwise_onLines (Entry.line_of_mem_ofLine file) text,
    fun _ => Literal.isRecordOf_of_mem,
    Text.pairwise_onLines (Literal.line_of_mem_ofLine file) text⟩

end LocalizedStrings
