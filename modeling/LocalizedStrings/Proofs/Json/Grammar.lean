import LocalizedStrings.Json.Skip
import Mathlib.Data.List.Forall2

/-!
# The grammar of JSON texts

What can stand for a value, said without a reader. A character of a text in quotes is written as
itself, with a letter after a backslash, or with the hexadecimal digits of its code units. Values in
brackets have commas between them and blanks, or none, around them.

* `IsText`: the texts in quotes that stand for a text.
* `IsQuoted`: the texts in quotes of the right form, which may hold surrogates without a partner.
* `IsNumber`: numbers.
* `IsArray`, `IsObject`: arrays and objects, with what may stand for their items and keys.
* `IsValue`: all values, nested to any depth.
* `exists_isText`, `exists_isBracketed`, `exists_isObject`: there is always a way to write them.
-/

namespace LocalizedStrings.Json

/-- Blanks in a row, or none. -/
def IsBlanks (w : List Char) : Prop := w.all isBlank = true

theorem IsBlanks.nil : IsBlanks [] := rfl

/-! ## Texts in quotes -/

/-- The hexadecimal digit of `n`, in lower or upper case. -/
def IsHexDigit (n : Nat) (d : Char) : Prop :=
  n < 16 ∧ (d = Nat.digitChar n ∨ d = (Nat.digitChar n).toUpper)

/-- The four hexadecimal digits of `n`. -/
def IsHex (n : Nat) (ds : List Char) : Prop :=
  List.Forall₂ IsHexDigit [n / 0x1000, n / 0x100 % 0x10, n / 0x10 % 0x10, n % 0x10] ds

instance (n : Nat) (ds : List Char) : Decidable (IsHex n ds) :=
  inferInstanceAs (Decidable (List.Forall₂ (fun n d => n < 16 ∧
    (d = Nat.digitChar n ∨ d = (Nat.digitChar n).toUpper)) _ _))

/-- The letters that stand after a backslash, each with its character. -/
def letters : List (Char × Char) :=
  [('"', '"'), ('\\', '\\'), ('/', '/'), ('b', '\x08'), ('f', '\x0c'), ('n', '\n'), ('r', '\r'),
    ('t', '\t')]

/-- A character that stands for itself between quotes. -/
structure IsPlain (c : Char) : Prop where
  quote : c ≠ '"'
  backslash : c ≠ '\\'
  noControl : 0x20 ≤ c.toNat

theorem isPlain_iff {c : Char} : IsPlain c ↔ c ≠ '"' ∧ c ≠ '\\' ∧ 0x20 ≤ c.toNat :=
  ⟨fun h => ⟨h.quote, h.backslash, h.noControl⟩, fun h => ⟨h.1, h.2.1, h.2.2⟩⟩

/-- The ways to write a character between quotes. One beyond `U+FFFF` has two code units. -/
inductive IsSpelling : Char → List Char → Prop
  | plain {c : Char} (h : IsPlain c) : IsSpelling c [c]
  | letter {l c : Char} (h : (l, c) ∈ letters) : IsSpelling c ['\\', l]
  | unit {c : Char} {ds : List Char} (h : c.toNat < 0x10000) (hds : IsHex c.toNat ds) :
    IsSpelling c ('\\' :: 'u' :: ds)
  | pair {c : Char} {ds es : List Char} (h : 0x10000 ≤ c.toNat)
    (hds : IsHex (0xD800 + (c.toNat - 0x10000) / 0x400) ds)
    (hes : IsHex (0xDC00 + (c.toNat - 0x10000) % 0x400) es) :
    IsSpelling c ('\\' :: 'u' :: (ds ++ '\\' :: 'u' :: es))

/-- The text `u` stands for the text `s`, each character of which is written in some way. -/
def IsText (s : String) (u : List Char) : Prop :=
  ∃ us : List (List Char), List.Forall₂ IsSpelling s.toList us ∧ u = '"' :: (us.flatten ++ ['"'])

theorem forall₂_isSpelling_of_plain {cs : List Char} (h : ∀ c ∈ cs, IsPlain c) :
    List.Forall₂ IsSpelling cs (cs.map fun c => [c]) := by
  rw [List.forall₂_map_right_iff, List.forall₂_same]
  exact fun c hc => .plain (h c hc)

/-- A text may stand for itself if its characters do. -/
theorem IsText.of_plain {s : String} (h : ∀ c ∈ s.toList, IsPlain c) :
    IsText s ('"' :: (s.toList ++ ['"'])) :=
  ⟨_, forall₂_isSpelling_of_plain h, by rw [← List.flatMap_def, List.flatMap_singleton']⟩

theorem exists_isHex {n : Nat} (h : n < 0x10000) : ∃ ds, IsHex n ds := by
  have hdigit : ∀ m, m < 16 → IsHexDigit m (Nat.digitChar m) := fun m hm => ⟨hm, .inl rfl⟩
  exact ⟨_, .cons (hdigit _ (by omega)) (.cons (hdigit _ (by omega))
    (.cons (hdigit _ (by omega)) (.cons (hdigit _ (by omega)) .nil)))⟩

/-- A character that does not stand for itself has a letter, or is below the space. -/
theorem exists_isSpelling (c : Char) : ∃ u, IsSpelling c u := by
  by_cases hquote : c = '"'
  · subst hquote
    exact ⟨_, .letter (l := '"') (by decide)⟩
  by_cases hbackslash : c = '\\'
  · subst hbackslash
    exact ⟨_, .letter (l := '\\') (by decide)⟩
  by_cases hcontrol : 0x20 ≤ c.toNat
  · exact ⟨_, .plain ⟨hquote, hbackslash, hcontrol⟩⟩
  · obtain ⟨ds, hds⟩ := exists_isHex (n := c.toNat) (by omega)
    exact ⟨_, .unit (by omega) hds⟩

/-- Each text can be written. -/
theorem exists_isText (s : String) : ∃ u, IsText s u := by
  choose spell hspell using exists_isSpelling
  refine ⟨_, s.toList.map spell, ?_, rfl⟩
  rw [List.forall₂_map_right_iff, List.forall₂_same]
  exact fun c _ => hspell c

/-- What can stand between quotes as one character or one code unit. -/
inductive IsUnit : List Char → Prop
  | plain {c : Char} (h : IsPlain c) : IsUnit [c]
  | letter {l c : Char} (h : (l, c) ∈ letters) : IsUnit ['\\', l]
  | hex {n : Nat} {ds : List Char} (h : IsHex n ds) : IsUnit ('\\' :: 'u' :: ds)

/-- The text `u` is in quotes and has the right form, whether it stands for a text or not. -/
def IsQuoted (u : List Char) : Prop :=
  ∃ us : List (List Char), (∀ x ∈ us, IsUnit x) ∧ u = '"' :: (us.flatten ++ ['"'])

/-! ## Numbers -/

/-- One digit or more. -/
def IsDigits (ds : List Char) : Prop := ds ≠ [] ∧ ∀ d ∈ ds, d.isDigit = true

/-- The digits before the point. No digit follows a zero at their start. -/
def IsWhole (ds : List Char) : Prop := IsDigits ds ∧ (ds.head? = some '0' → ds = ['0'])

/-- The point with the digits after it, or nothing. -/
def IsFraction (u : List Char) : Prop := u = [] ∨ ∃ ds, IsDigits ds ∧ u = '.' :: ds

/-- The exponent with its sign, which may be left out, or nothing. -/
def IsExponent (u : List Char) : Prop :=
  u = [] ∨ ∃ e sign ds, (e = 'e' ∨ e = 'E') ∧ (sign = [] ∨ sign = ['+'] ∨ sign = ['-']) ∧
    IsDigits ds ∧ u = e :: (sign ++ ds)

/-- The text is a number. -/
def IsNumber (u : List Char) : Prop :=
  ∃ sign whole fraction exponent, (sign = [] ∨ sign = ['-']) ∧ IsWhole whole ∧
    IsFraction fraction ∧ IsExponent exponent ∧ u = sign ++ (whole ++ (fraction ++ exponent))

/-! ## Brackets -/

section

variable {α κ : Type}

/-- Texts for the members of a list, with commas between them and blanks, or none, around them. -/
inductive IsSeparated (R : α → List Char → Prop) : List α → List Char → Prop
  | one {a : α} {u w w' : List Char} (hw : IsBlanks w) (h : R a u) (hw' : IsBlanks w') :
    IsSeparated R [a] (w ++ (u ++ w'))
  | cons {a : α} {as : List α} {u v w w' : List Char} (hw : IsBlanks w) (h : R a u)
    (hw' : IsBlanks w') (rest : IsSeparated R as v) :
    IsSeparated R (a :: as) (w ++ (u ++ (w' ++ ',' :: v)))

/-- The same in brackets. For no members there are only blanks, or none. -/
def IsBracketed (first last : Char) (R : α → List Char → Prop) (as : List α) (u : List Char) :
    Prop :=
  ∃ v, (as = [] ∧ IsBlanks v ∨ IsSeparated R as v) ∧ u = first :: (v ++ [last])

theorem exists_isBracketed {R : α → List Char → Prop} {as : List α} (first last : Char)
    (h : ∀ a ∈ as, ∃ u, R a u) : ∃ u, IsBracketed first last R as u := by
  have hsep : as = [] ∨ ∃ v, IsSeparated R as v := by
    induction as with
    | nil => exact .inl rfl
    | cons a as ih =>
      obtain ⟨u, hu⟩ := h a (by simp)
      rcases ih fun b hb => h b (by simp [hb]) with rfl | ⟨v, hv⟩
      · exact .inr ⟨_, .one .nil hu .nil⟩
      · exact .inr ⟨_, .cons .nil hu .nil hv⟩
  rcases hsep with rfl | ⟨v, hv⟩
  · exact ⟨_, [], .inl ⟨rfl, .nil⟩, rfl⟩
  · exact ⟨_, v, .inr hv, rfl⟩

/-- An array, where `R` tells what can stand for its items. -/
def IsArray (R : α → List Char → Prop) (as : List α) (u : List Char) : Prop :=
  IsBracketed '[' ']' R as u

/-- The key and the text of a value with a colon between them, where `K` tells what can stand for
the key. -/
def IsMember (K : κ → List Char → Prop) (m : κ × List Char) (u : List Char) : Prop :=
  ∃ k w w', K m.1 k ∧ IsBlanks w ∧ IsBlanks w' ∧ u = k ++ (w ++ ':' :: (w' ++ m.2))

/-- An object with these members, each given by its key and by the text of its value. -/
def IsObject (K : κ → List Char → Prop) (ms : List (κ × List Char)) (u : List Char) : Prop :=
  IsBracketed '{' '}' (IsMember K) ms u

theorem exists_isObject {K : κ → List Char → Prop} {ms : List (κ × List Char)}
    (h : ∀ m ∈ ms, ∃ k, K m.1 k) : ∃ u, IsObject K ms u := by
  refine exists_isBracketed '{' '}' fun m hm => ?_
  obtain ⟨k, hk⟩ := h m hm
  exact ⟨_, k, [], [], hk, .nil, .nil, rfl⟩

end

/-! ## Values -/

/-- The text is a value. -/
inductive IsValue : List Char → Prop
  | word {u : List Char} (h : u ∈ ["null".toList, "true".toList, "false".toList]) : IsValue u
  | number {u : List Char} (h : IsNumber u) : IsValue u
  | text {u : List Char} (h : IsQuoted u) : IsValue u
  | array {vs : List (List Char)} {u : List Char} (items : ∀ v ∈ vs, IsValue v)
    (h : IsArray Eq vs u) : IsValue u
  | object {ms : List (List Char × List Char)} {u : List Char} (keys : ∀ m ∈ ms, IsQuoted m.1)
    (values : ∀ m ∈ ms, IsValue m.2) (h : IsObject Eq ms u) : IsValue u

end LocalizedStrings.Json
