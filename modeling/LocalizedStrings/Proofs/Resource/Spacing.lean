import LocalizedStrings.Proofs.Resource.Grammar

/-!
# Lines taken apart

A line that is read comes apart in one way only. Blanks end at the quote or the sign after them, and
a text in quotes ends at the first quote that no backslash goes with. So each part of a line tells
where the next one starts, and nothing is left to the order in which a reader tries things.

* `Text.Blanks`, `Pair.Spacing`: the blanks around the parts of a line.
* `Pair.IsReadable`, `Pair.spaced`: the pairs that a line can hold, and their lines.
* `Text.blanks_append_inj`, `Pair.escaped_append_inj`: each part of a line ends at one place.
* **`Pair.spaced_inj`**: a line comes apart in one way only.
* **`Pair.ofLine_spaced_exact`**: what is read from a line.
-/

namespace LocalizedStrings

open Text

/-! ## Blanks -/

/-- Blanks in a row, or none. -/
abbrev Text.Blanks : Type := { w : List Char // w.all isBlank = true }

/-- Blanks end at the first character that is not blank. -/
theorem Text.blanks_append_inj {c : Char} (hc : isBlank c = false) (w w' : Blanks)
    {r r' : List Char} (h : w.1 ++ c :: r = w'.1 ++ c :: r') : w = w' ∧ r = r' := by
  have htake : ∀ (v : Blanks) (s : List Char), (v.1 ++ c :: s).takeWhile isBlank = v.1 := by
    intro v s
    rw [List.takeWhile_append_of_pos (List.all_eq_true.1 v.2),
      List.takeWhile_cons_of_neg (by simp [hc]), List.append_nil]
  have hw : w.1 = w'.1 := by rw [← htake w r, h, htake]
  refine ⟨Subtype.ext hw, ?_⟩
  rw [hw] at h
  exact (List.cons.inj (List.append_cancel_left h)).2

namespace Pair

/-- The blanks in a line: before the quote that opens the key, before the equals sign, before the
quote that opens the value, before the semicolon, and at the end. -/
@[ext]
structure Spacing where
  beforeKey : Blanks
  beforeEquals : Blanks
  beforeValue : Blanks
  beforeSemicolon : Blanks
  atEnd : Blanks

/-- The blanks in a line as it is written. -/
def Spacing.plain : Spacing where
  beforeKey := ⟨[], rfl⟩
  beforeEquals := ⟨[' '], rfl⟩
  beforeValue := ⟨[' '], rfl⟩
  beforeSemicolon := ⟨[], rfl⟩
  atEnd := ⟨[], rfl⟩

/-! ## Lines -/

/-- In the key and in the value, a quote or a backslash only stands as the character that goes with
a backslash before it. -/
structure IsReadable (p : Pair) : Prop where
  key : IsEscaped p.key.toList
  value : IsEscaped p.value.toList

/-- The line for the pair with these blanks. -/
def spaced (p : Pair) (b : Spacing) : List Char :=
  b.beforeKey.1 ++ '"' :: (p.key.toList ++ '"' :: (b.beforeEquals.1 ++ '=' ::
    (b.beforeValue.1 ++ '"' :: (p.value.toList ++ '"' :: (b.beforeSemicolon.1 ++ ';' ::
      b.atEnd.1)))))

theorem spaced_plain (p : Pair) : p.spaced .plain = p.text := rfl

theorem isLine_iff {p : Pair} {s : List Char} :
    IsLine p s ↔ p.IsReadable ∧ ∃ b, s = p.spaced b := by
  constructor
  · rintro ⟨hk, hv, w₁, w₂, w₃, w₄, w₅, h₁, h₂, h₃, h₄, h₅, rfl⟩
    exact ⟨⟨hk, hv⟩, ⟨⟨w₁, h₁⟩, ⟨w₂, h₂⟩, ⟨w₃, h₃⟩, ⟨w₄, h₄⟩, ⟨w₅, h₅⟩⟩, by simp [spaced]⟩
  · rintro ⟨⟨hk, hv⟩, b, rfl⟩
    exact ⟨hk, hv, _, _, _, _, _, b.beforeKey.2, b.beforeEquals.2, b.beforeValue.2,
      b.beforeSemicolon.2, b.atEnd.2, by simp [spaced]⟩

/-- A text in quotes ends at one place. -/
theorem escaped_append_inj {s t r r' : List Char} (hs : IsEscaped s) (ht : IsEscaped t)
    (h : s ++ '"' :: r = t ++ '"' :: r') : s = t ∧ r = r' := by
  have hread := escaped?_append hs r
  rw [h, escaped?_append ht r'] at hread
  cases hread
  exact ⟨rfl, rfl⟩

/-- **A line comes apart in one way only.** -/
theorem spaced_inj {p q : Pair} {b d : Spacing} (hp : p.IsReadable) (hq : q.IsReadable)
    (h : p.spaced b = q.spaced d) : p = q ∧ b = d := by
  obtain ⟨h₁, h⟩ := blanks_append_inj isBlank_quote b.beforeKey d.beforeKey h
  obtain ⟨hkey, h⟩ := escaped_append_inj hp.key hq.key h
  obtain ⟨h₂, h⟩ := blanks_append_inj (by decide) b.beforeEquals d.beforeEquals h
  obtain ⟨h₃, h⟩ := blanks_append_inj isBlank_quote b.beforeValue d.beforeValue h
  obtain ⟨hvalue, h⟩ := escaped_append_inj hp.value hq.value h
  obtain ⟨h₄, hend⟩ := blanks_append_inj (by decide) b.beforeSemicolon d.beforeSemicolon h
  obtain rfl := eq_of_key_of_value (String.toList_inj.1 hkey) (String.toList_inj.1 hvalue)
  exact ⟨rfl, Spacing.ext h₁ h₂ h₃ h₄ (Subtype.ext hend)⟩

/-! ## Reading -/

/-- **What is read from a line.** A pair is read from a line if and only if it is readable and the
line is its own, with blanks. No line is that of two pairs, or that of a pair with two spacings. A
pair that was read is read again from the line that is written for it. -/
theorem ofLine_spaced_exact (s : List Char) :
    (∀ p, ofLine? s = some p ↔ p.IsReadable ∧ ∃ b, s = p.spaced b) ∧
    (∀ (p q : Pair) (b d : Spacing), p.IsReadable → q.IsReadable → s = p.spaced b →
      s = q.spaced d → p = q ∧ b = d) ∧
    ∀ p, ofLine? s = some p → ofLine? p.text = some p := by
  have hread : ∀ u p, ofLine? u = some p ↔ p.IsReadable ∧ ∃ b, u = p.spaced b := by
    intro u p
    rw [ofLine?_eq_some_iff, isLine_iff]
  refine ⟨hread s, fun p q b d hp hq hb hd => ?_, fun p hp => ?_⟩
  · exact spaced_inj hp hq (hb.symm.trans hd)
  · obtain ⟨hreadable, -⟩ := (hread s p).1 hp
    exact (hread p.text p).2 ⟨hreadable, .plain, (spaced_plain p).symm⟩

/-- In this line two quotes of the key go with backslashes. -/
theorem ofLine_spaced_exact_escapedQuotes :
    let s := "  \"Say \\\"hi\\\"\"=\"é\" ; ".toList
    let p : Pair := ⟨"Say \\\"hi\\\"", "é"⟩
    ofLine? s = some p ∧ (∀ (q : Pair) (d : Spacing), q.IsReadable → s = q.spaced d → q = p) ∧
      ofLine? p.text = some p := by
  intro s p
  obtain ⟨hread, hunique, hagain⟩ := ofLine_spaced_exact s
  have hp : ofLine? s = some p := by decide +kernel
  obtain ⟨hreadable, b, hb⟩ := (hread p).1 hp
  exact ⟨hp, fun q d hq hd => (hunique q p d b hq hreadable hd hb).1, hagain p hp⟩

end Pair

end LocalizedStrings
