import LocalizedStrings.Proofs.Text.Width
import LocalizedStrings.Report
import Mathlib.Data.List.Forall2
import Mathlib.Order.Bounds.Defs

/-!
# Columns of the report

The report about repeated keys shows the first value of a key in one column and the later one in
another. The first column is as wide as the widest text in it, and each text is filled up to this
width.

* `le_widest`, `exists_eq_widest`: the widest text.
* `width_spaced`: a text that is filled up.
* **`repeatLines_aligned`**: the first column of the report about repeated keys.
-/

namespace LocalizedStrings.Report

open Text (width)

/-! ## The widest text -/

theorem le_widest {texts : List String} {text : String} (h : text ∈ texts) :
    width text.toList ≤ widest texts := by
  induction texts with
  | nil => cases h
  | cons s texts ih =>
    rw [widest, List.foldr_cons]
    rcases List.mem_cons.1 h with rfl | h
    · exact Nat.le_max_left _ _
    · exact Nat.le_trans (ih h) (Nat.le_max_right _ _)

theorem exists_eq_widest {texts : List String} (h : texts ≠ []) :
    ∃ text ∈ texts, width text.toList = widest texts := by
  induction texts with
  | nil => exact absurd rfl h
  | cons s texts ih =>
    rw [widest, List.foldr_cons]
    change ∃ text ∈ s :: texts, width text.toList = max (width s.toList) (widest texts)
    rcases Nat.le_total (widest texts) (width s.toList) with hle | hle
    · exact ⟨s, List.mem_cons_self, (Nat.max_eq_left hle).symm⟩
    · rw [Nat.max_eq_right hle]
      cases texts with
      | nil => exact ⟨s, List.mem_cons_self, Nat.le_antisymm hle (Nat.zero_le _)⟩
      | cons s' texts =>
        obtain ⟨text, htext, heq⟩ := ih (List.cons_ne_nil _ _)
        exact ⟨text, List.mem_cons_of_mem _ htext, heq⟩

/-! ## Filling up -/

/-- The text with so many spaces after it. -/
def spaced (text : String) (n : Nat) : String := text ++ String.ofList (List.replicate n ' ')

theorem width_spaced (text : String) (n : Nat) :
    width (spaced text n).toList = width text.toList + n := by
  rw [spaced, String.toList_append, String.toList_ofList]
  exact Text.width_append_spaces _ n

/-- The row for a value in the first column, whose text is filled up to `cell`, and a later one. -/
def repeatRow (cell : String) (later : Entry) : Console.Line :=
  ["\t" ++ cell ++ " ", .styled .yellow "<=>", " " ++ Record.short later]

/-- **The first column of the report about repeated keys.** It is as wide as the widest text in it,
no text is wider, and the spaces after each text fill it up to exactly this width. -/
theorem repeatLines_aligned (es : List Entry) :
    ∃ columns rows, repeatLines (Entry.repeats es) = [.styled .bold "Check duplicate"] :: rows ∧
      (Entry.repeats es ≠ [] → IsGreatest
        {n | ∃ r ∈ Entry.repeats es, n = width (Record.short r.1).toList} columns) ∧
      List.Forall₂ (fun r row => ∃ n, width (Record.short r.1).toList + n = columns ∧
          width (spaced (Record.short r.1) n).toList = columns ∧
          row = repeatRow (spaced (Record.short r.1) n) r.2)
        (Entry.repeats es) rows := by
  let columns := widest ((Entry.repeats es).map fun r => Record.short r.1)
  have hle : ∀ r ∈ Entry.repeats es, width (Record.short r.1).toList ≤ columns :=
    fun r hr => le_widest (List.mem_map_of_mem hr)
  refine ⟨columns, _, rfl, fun hne => ⟨?_, ?_⟩, ?_⟩
  · obtain ⟨text, htext, heq⟩ := exists_eq_widest (mt List.map_eq_nil_iff.1 hne)
    obtain ⟨r, hr, rfl⟩ := List.mem_map.1 htext
    exact ⟨r, hr, heq.symm⟩
  · rintro n ⟨r, hr, rfl⟩
    exact hle r hr
  · rw [List.forall₂_map_right_iff, List.forall₂_same]
    intro r hr
    have hfill := Nat.add_sub_cancel' (hle r hr)
    exact ⟨_, hfill, (width_spaced _ _).trans hfill, rfl⟩

end LocalizedStrings.Report
