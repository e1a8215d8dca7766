import LocalizedStrings.Proofs.Resource.ReadBack
import LocalizedStrings.Proofs.Source.Grammar

/-!
# The grammar of a line of a resource file

A line holds a key and a value in quotes, with `=` between them and `;` behind them, and blanks, or
none, around each part. In the two texts a backslash and the character after it stand together.

* `Pair.IsEscaped`: the texts that can stand between the two quotes.
* `Pair.IsLine`: the lines that hold a pair.
* `escaped?_eq_some_iff`, `quotedText?_eq_some_iff`: what the parts of a line read.
* **`Pair.ofLine?_eq_some_iff`**: the lines that are read are those of the grammar.
-/

namespace LocalizedStrings.Pair

open Source Text

/-- The text has neither a quote nor a backslash, other than backslashes with the character that
each of them stands together with. A line feed cannot be this character. -/
inductive IsEscaped : List Char → Prop
  | nil : IsEscaped []
  | char {c : Char} {s : List Char} (quote : c ≠ '"') (backslash : c ≠ '\\')
    (rest : IsEscaped s) : IsEscaped (c :: s)
  | escape {c : Char} {s : List Char} (lineFeed : c ≠ '\n') (rest : IsEscaped s) :
    IsEscaped ('\\' :: c :: s)

/-- The line `s` holds the pair `p`. -/
structure IsLine (p : Pair) (s : List Char) : Prop where
  key : IsEscaped p.key.toList
  value : IsEscaped p.value.toList
  form : ∃ w₁ w₂ w₃ w₄ w₅, w₁.all isBlank ∧ w₂.all isBlank ∧ w₃.all isBlank ∧ w₄.all isBlank ∧
    w₅.all isBlank ∧ s = w₁ ++ ['"'] ++ p.key.toList ++ ['"'] ++ w₂ ++ ['='] ++ w₃ ++ ['"'] ++
      p.value.toList ++ ['"'] ++ w₄ ++ [';'] ++ w₅

theorem escaped?_append {t : List Char} (h : IsEscaped t) (r : List Char) :
    escaped? (t ++ '"' :: r) = some (t, r) := by
  induction h with
  | nil => rfl
  | char hq hb _ ih => rw [List.cons_append, escaped?_cons hq hb, ih]; rfl
  | escape hn _ ih => rw [List.cons_append, List.cons_append, escaped?_backslash hn, ih]; rfl

theorem escaped?_eq_some_iff {s t r : List Char} :
    escaped? s = some (t, r) ↔ IsEscaped t ∧ s = t ++ '"' :: r := by
  constructor
  · intro h
    fun_induction escaped? s generalizing t with
    | case1 => cases h
    | case2 s =>
      cases h
      exact ⟨.nil, rfl⟩
    | case3 => cases h
    | case4 c s hc ih =>
      obtain ⟨⟨t, r⟩, hs, h⟩ := Option.map_eq_some_iff.1 h
      cases h
      obtain ⟨ht, rfl⟩ := ih hs
      exact ⟨.escape hc ht, rfl⟩
    | case5 => cases h
    | case6 c s hq _ hb ih =>
      obtain ⟨⟨t, r⟩, hs, h⟩ := Option.map_eq_some_iff.1 h
      cases h
      obtain ⟨ht, rfl⟩ := ih hs
      exact ⟨.char (fun e => hq e) hb ht, rfl⟩
  · rintro ⟨ht, rfl⟩
    exact escaped?_append ht r

theorem quotedText?_eq_some_iff {s t r : List Char} : quotedText? s = some (t, r) ↔
    IsEscaped t ∧ ∃ w, w.all isBlank ∧ s = w ++ (['"'] ++ (t ++ '"' :: r)) := by
  simp only [quotedText?, Option.bind_eq_bind, Option.bind_eq_some_iff,
    after?_dropWhile_eq_some_iff isBlank_quote, escaped?_eq_some_iff]
  constructor
  · rintro ⟨u, ⟨w, hw, rfl⟩, ht, rfl⟩
    exact ⟨ht, w, hw, rfl⟩
  · rintro ⟨ht, w, hw, rfl⟩
    exact ⟨_, ⟨w, hw, rfl⟩, ht, rfl⟩

/-- **The lines that are read are those of the grammar.** -/
theorem ofLine?_eq_some_iff {s : List Char} {p : Pair} : ofLine? s = some p ↔ IsLine p s := by
  have hend : ∀ u : List Char, (u.dropWhile isBlank).isEmpty ↔ u.all isBlank := by
    intro u
    rw [List.isEmpty_iff, List.dropWhile_eq_nil_iff, List.all_eq_true]
  simp only [ofLine?, Option.bind_eq_bind, Option.bind_eq_some_iff, Prod.exists,
    after?_dropWhile_eq_some_iff (show isBlank '=' = false by decide),
    after?_dropWhile_eq_some_iff (show isBlank ';' = false by decide), quotedText?_eq_some_iff,
    Option.ite_none_right_eq_some, hend]
  constructor
  · rintro ⟨key, s₁, ⟨hk, w₁, hw₁, rfl⟩, s₂, ⟨w₂, hw₂, rfl⟩, value, s₃, ⟨hv, w₃, hw₃, rfl⟩, w₅,
      ⟨w₄, hw₄, rfl⟩, hw₅, h⟩
    cases h
    exact ⟨by simpa using hk, by simpa using hv, w₁, w₂, w₃, w₄, w₅, hw₁, hw₂, hw₃, hw₄, hw₅,
      by simp⟩
  · rintro ⟨hk, hv, w₁, w₂, w₃, w₄, w₅, hw₁, hw₂, hw₃, hw₄, hw₅, rfl⟩
    exact ⟨_, _, ⟨hk, w₁, hw₁, by simp⟩, _, ⟨w₂, hw₂, rfl⟩, _, _, ⟨hv, w₃, hw₃, rfl⟩, _,
      ⟨w₄, hw₄, rfl⟩, hw₅, by simp⟩

end LocalizedStrings.Pair
