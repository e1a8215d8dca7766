import LocalizedStrings.Search

/-!
# Constructs of a source line

The four constructs that scanning a source line knows. Texts in quotes are never empty and have no
escapes: they end at the next quote.

* `call`: a localization call, `NSLocalizedString("key", comment: "text")`, with blanks allowed
  before `comment:` and before its text.
* `printing`: a call `print("text")`.
* `lineComment`: two slashes and the rest of the line.
* `quoted`: a text between two quotes.
-/

namespace LocalizedStrings.Source

open Text

/-- The text after `word`, if the text starts with it. -/
def after? : (word s : List Char) → Option (List Char)
  | [], s => some s
  | _ :: _, [] => none
  | c :: word, d :: s => if c = d then after? word s else none

/-- A non-empty text without quotes, and what comes after the quote that ends it. -/
def untilQuote? (s : List Char) : Option (List Char × List Char) :=
  match s.takeWhile (· != '"'), s.dropWhile (· != '"') with
  | c :: text, _ :: rest => some (c :: text, rest)
  | _, _ => none

theorem after?_eq_some_iff {word s r : List Char} : after? word s = some r ↔ s = word ++ r := by
  fun_induction after? word s with
  | case1 s => simp
  | case2 c word => simp
  | case3 c word s ih => simp [ih]
  | case4 c word d s h => simp [Ne.symm h]

theorem untilQuote?_eq_some {s text r : List Char} (h : untilQuote? s = some (text, r)) :
    text ≠ [] ∧ '"' ∉ text ∧ s = text ++ '"' :: r := by
  unfold untilQuote? at h
  split at h
  · next c t q rest ht hd =>
    simp only [Option.some.injEq, Prod.mk.injEq] at h
    obtain ⟨rfl, rfl⟩ := h
    have hq : q = '"' := by
      have := List.head?_dropWhile_not (fun c : Char => c != '"') s
      rw [hd] at this
      simpa using this
    refine ⟨by simp, fun hm => ?_, ?_⟩
    · rw [← ht] at hm
      have := List.all_takeWhile (p := fun c : Char => c != '"') (l := s)
      rw [List.all_eq_true] at this
      simpa using this _ hm
    · rw [← hq, ← ht, ← hd, List.takeWhile_append_dropWhile]
  · cases h

/-- A localization call: the key, and the text of its comment. -/
structure Call where
  key : List Char
  comment : List Char

/-- A localization call at the start of a text. -/
def call? (s : List Char) : Option (Call × List Char) := do
  let s ← after? "NSLocalizedString(\"".toList s
  let (key, s) ← untilQuote? s
  let s ← after? [','] s
  let s ← after? "comment:".toList (s.dropWhile isBlank)
  let s ← after? ['"'] (s.dropWhile isBlank)
  let (comment, s) ← untilQuote? s
  let s ← after? [')'] s
  return (⟨key, comment⟩, s)

/-- A `print` of one quoted text at the start of a text. -/
def printing? (s : List Char) : Option (List Char × List Char) := do
  let s ← after? "print(\"".toList s
  let (text, s) ← untilQuote? s
  let s ← after? [')'] s
  return (text, s)

/-- A comment at the start of a text. -/
def lineComment? (s : List Char) : Option (Unit × List Char) := do
  let s ← after? ['/', '/'] s
  return ((), s.dropWhile (· != '\n'))

/-- A quoted text at the start of a text. -/
def quoted? (s : List Char) : Option (List Char × List Char) := do
  let s ← after? ['"'] s
  untilQuote? s

/-- What `call?` accepts: a call with blanks `w₁` and `w₂`. -/
theorem call?_eq_some {s r : List Char} {a : Call} (h : call? s = some (a, r)) :
    ∃ w₁ w₂, w₁.all isBlank ∧ w₂.all isBlank ∧ a.key ≠ [] ∧ '"' ∉ a.key ∧ a.comment ≠ [] ∧
      '"' ∉ a.comment ∧ s = "NSLocalizedString(\"".toList ++ a.key ++ ['"', ','] ++ w₁ ++
        "comment:".toList ++ w₂ ++ ['"'] ++ a.comment ++ ['"', ')'] ++ r := by
  simp only [call?, Option.bind_eq_bind, Option.bind_eq_some_iff, Prod.exists,
    after?_eq_some_iff, Option.pure_def, Option.some.injEq, Prod.mk.injEq] at h
  obtain ⟨s₁, rfl, key, s₂, hk, s₃, rfl, s₄, h₄, s₅, h₅, com, s₆, hc, s₇, rfl, rfl, rfl⟩ := h
  obtain ⟨hk0, hkq, rfl⟩ := untilQuote?_eq_some hk
  obtain ⟨hc0, hcq, rfl⟩ := untilQuote?_eq_some hc
  refine ⟨s₃.takeWhile isBlank, s₄.takeWhile isBlank, List.all_takeWhile, List.all_takeWhile,
    hk0, hkq, hc0, hcq, ?_⟩
  have e₃ : s₃ = s₃.takeWhile isBlank ++ ("comment:".toList ++ s₄) := by
    rw [← h₄, List.takeWhile_append_dropWhile]
  have e₄ : s₄ = s₄.takeWhile isBlank ++ (['"'] ++ (com ++ '"' :: ([')'] ++ s₇))) := by
    rw [← h₅, List.takeWhile_append_dropWhile]
  conv => lhs; rw [e₃, e₄]
  simp only [List.append_assoc, List.cons_append, List.nil_append]

theorem printing?_eq_some {s r text : List Char} (h : printing? s = some (text, r)) :
    text ≠ [] ∧ '"' ∉ text ∧ s = "print(\"".toList ++ text ++ ['"', ')'] ++ r := by
  simp only [printing?, Option.bind_eq_bind, Option.bind_eq_some_iff, Prod.exists,
    after?_eq_some_iff, Option.pure_def, Option.some.injEq, Prod.mk.injEq] at h
  obtain ⟨s₁, rfl, t, s₂, ht, s₃, rfl, rfl, rfl⟩ := h
  obtain ⟨ht0, htq, rfl⟩ := untilQuote?_eq_some ht
  exact ⟨ht0, htq, by simp⟩

theorem lineComment?_eq_some {s r : List Char} {a : Unit} (h : lineComment? s = some (a, r)) :
    (∃ text, '\n' ∉ text ∧ s = ['/', '/'] ++ text ++ r) ∧ ∀ c ∈ r.head?, c = '\n' := by
  simp only [lineComment?, Option.bind_eq_bind, Option.bind_eq_some_iff,
    after?_eq_some_iff, Option.pure_def, Option.some.injEq, Prod.mk.injEq] at h
  obtain ⟨s₁, rfl, -, rfl⟩ := h
  refine ⟨⟨s₁.takeWhile (· != '\n'), fun hm => ?_, by simp⟩, fun c hc => ?_⟩
  · have := List.all_takeWhile (p := fun c : Char => c != '\n') (l := s₁)
    rw [List.all_eq_true] at this
    simpa using this _ hm
  · have := List.head?_dropWhile_not (fun c : Char => c != '\n') s₁
    rw [Option.mem_def.1 hc] at this
    simpa using this

theorem quoted?_eq_some {s r text : List Char} (h : quoted? s = some (text, r)) :
    text ≠ [] ∧ '"' ∉ text ∧ s = ['"'] ++ text ++ ['"'] ++ r := by
  simp only [quoted?, Option.bind_eq_bind, Option.bind_eq_some_iff, after?_eq_some_iff] at h
  obtain ⟨s₁, rfl, ht⟩ := h
  obtain ⟨ht0, htq, rfl⟩ := untilQuote?_eq_some ht
  exact ⟨ht0, htq, by simp⟩

/-- A localization call. -/
def call : Shape Call where
  match? := call?
  progress h := by
    obtain ⟨w₁, w₂, -, -, -, -, -, -, rfl⟩ := call?_eq_some h
    exact ⟨_, by simp, rfl⟩

/-- A `print` of one quoted text. -/
def printing : Shape (List Char) where
  match? := printing?
  progress h := ⟨_, by simp, (printing?_eq_some h).2.2⟩

/-- A comment, up to the end of its line. -/
def lineComment : Shape Unit where
  match? := lineComment?
  progress h := by
    obtain ⟨⟨text, -, rfl⟩, -⟩ := lineComment?_eq_some h
    exact ⟨_, by simp, rfl⟩

/-- A quoted text. -/
def quoted : Shape (List Char) where
  match? := quoted?
  progress h := ⟨_, by simp, (quoted?_eq_some h).2.2⟩

end LocalizedStrings.Source
