import LocalizedStrings.Entry
import LocalizedStrings.Proofs.Search.Leftmost
import Mathlib.Data.List.TakeWhile

/-!
# The grammar of the constructs of a line

A call is `NSLocalizedString("key",` and `comment:` and `"text")`, with blanks, or none, before
`comment:` and before its text. The key and the text are not empty and hold no quote, so that each
of them ends at the next quote and each run of blanks at the next character that is not blank. A
call may start inside another one, in which case it is passed over. A `print` and a quoted text hold
one such text. A comment is told by what comes after it as well: it goes to the end of its line.

* `untilQuote?_append`, `after?_dropWhile_eq_some_iff`: what the parts of a construct read.
* `IsCall`, `IsPrinting`, `IsQuoted`, `IsComment`: the texts that are a construct.
* **`call_recognizes`**, `printing_recognizes`, `quoted_recognizes`, `lineComment_delimits`: the
  constructs that are recognised are exactly these.
* **`Entry.ofLine_eq_iff_leftmost`**: the entries of a line are its calls from left to right.
-/

namespace LocalizedStrings

namespace Source

open Text

/-! ## Parts of a construct -/

theorem bne_of_notMem {c : Char} {t : List Char} (h : c ∉ t) : ∀ d ∈ t, (d != c) = true :=
  fun _ hd => bne_iff_ne.2 fun e => h (e ▸ hd)

theorem untilQuote?_append {t : List Char} (h : '"' ∉ t) (r : List Char) :
    untilQuote? (t ++ '"' :: r) = if t = [] then none else some (t, r) := by
  have hp := bne_of_notMem h
  rw [untilQuote?, List.takeWhile_append_of_pos hp, List.dropWhile_append_of_pos hp,
    List.takeWhile_cons_of_neg (by decide), List.dropWhile_cons_of_neg (by decide), List.append_nil]
  cases t <;> simp

theorem untilQuote?_of_notMem {s : List Char} (h : '"' ∉ s) : untilQuote? s = none := by
  rw [untilQuote?, List.dropWhile_eq_nil_iff.2 (bne_of_notMem h)]
  split <;> simp_all

theorem untilQuote?_append_of_ne {t : List Char} (h : '"' ∉ t) (ht : t ≠ []) (r : List Char) :
    untilQuote? (t ++ '"' :: r) = some (t, r) := by
  rw [untilQuote?_append h, if_neg ht]

theorem after?_append (word r : List Char) : after? word (word ++ r) = some r :=
  after?_eq_some_iff.2 rfl

/-- A run of blanks before a word is passed over whole, since the word starts with no blank. -/
theorem after?_dropWhile_eq_some_iff {c : Char} (hc : isBlank c = false) {word s r : List Char} :
    after? (c :: word) (s.dropWhile isBlank) = some r ↔
      ∃ w, w.all isBlank ∧ s = w ++ (c :: word ++ r) := by
  rw [after?_eq_some_iff]
  constructor
  · intro h
    exact ⟨s.takeWhile isBlank, List.all_takeWhile, by rw [← h, List.takeWhile_append_dropWhile]⟩
  · rintro ⟨w, hw, rfl⟩
    rw [List.dropWhile_append_of_pos (List.all_eq_true.1 hw), List.cons_append,
      List.dropWhile_cons_of_neg (by simp [hc])]

/-! ## Calls -/

/-- The text `u` is a localization call with the key and the comment of `a`. -/
structure IsCall (a : Call) (u : List Char) : Prop where
  key_ne : a.key ≠ []
  key_quote : '"' ∉ a.key
  comment_ne : a.comment ≠ []
  comment_quote : '"' ∉ a.comment
  form : ∃ w₁ w₂, w₁.all isBlank ∧ w₂.all isBlank ∧ u = "NSLocalizedString(\"".toList ++ a.key ++
    "\",".toList ++ w₁ ++ "comment:".toList ++ w₂ ++ "\"".toList ++ a.comment ++ "\")".toList

theorem IsCall.head? {a : Call} {u : List Char} (h : IsCall a u) : u.head? = some 'N' := by
  obtain ⟨w₁, w₂, -, -, rfl⟩ := h.form
  simp only [List.append_assoc]
  rfl

theorem call?_append {a : Call} {u : List Char} (h : IsCall a u) (r : List Char) :
    call? (u ++ r) = some (a, r) := by
  obtain ⟨w₁, w₂, hw₁, hw₂, rfl⟩ := h.form
  -- What is left at each of the places where something is read.
  let s₄ := ['"'] ++ (a.comment ++ '"' :: ([')'] ++ r))
  let s₃ := "comment:".toList ++ (w₂ ++ s₄)
  let s₂ := a.key ++ '"' :: ([','] ++ (w₁ ++ s₃))
  have hs : "NSLocalizedString(\"".toList ++ a.key ++ "\",".toList ++ w₁ ++ "comment:".toList ++
      w₂ ++ "\"".toList ++ a.comment ++ "\")".toList ++ r =
        "NSLocalizedString(\"".toList ++ s₂ := by
    simp [s₂, s₃, s₄]
  have hcomment : after? "comment:".toList ((w₁ ++ s₃).dropWhile isBlank) = some (w₂ ++ s₄) :=
    (after?_dropWhile_eq_some_iff (by decide)).2 ⟨w₁, hw₁, rfl⟩
  have hquote : after? ['"'] ((w₂ ++ s₄).dropWhile isBlank) =
      some (a.comment ++ '"' :: ([')'] ++ r)) :=
    (after?_dropWhile_eq_some_iff isBlank_quote).2 ⟨w₂, hw₂, rfl⟩
  rw [hs, call?]
  simp only [s₂, after?_append, untilQuote?_append_of_ne h.key_quote h.key_ne, hcomment, hquote,
    untilQuote?_append_of_ne h.comment_quote h.comment_ne, Option.bind_eq_bind, Option.bind_some]
  rfl

/-- **The calls that are recognised are those of the grammar.** -/
theorem call_recognizes : call.Recognizes IsCall := by
  intro s a r
  constructor
  · intro h
    obtain ⟨w₁, w₂, hw₁, hw₂, hk, hkq, hc, hcq, rfl⟩ := call?_eq_some h
    exact ⟨_, ⟨hk, hkq, hc, hcq, w₁, w₂, hw₁, hw₂, rfl⟩, rfl⟩
  · rintro ⟨u, hu, rfl⟩
    exact call?_append hu r

/-! ## Other constructs -/

/-- The text `u` is a `print` of the text `t`. -/
structure IsPrinting (t u : List Char) : Prop where
  ne : t ≠ []
  quote : '"' ∉ t
  form : u = "print(\"".toList ++ t ++ "\")".toList

/-- The text `u` is `t` in quotes. -/
structure IsQuoted (t u : List Char) : Prop where
  ne : t ≠ []
  quote : '"' ∉ t
  form : u = ['"'] ++ t ++ ['"']

theorem printing_recognizes : printing.Recognizes IsPrinting := by
  intro s t r
  constructor
  · intro h
    obtain ⟨ht, hq, rfl⟩ := printing?_eq_some h
    exact ⟨_, ⟨ht, hq, rfl⟩, rfl⟩
  · rintro ⟨u, ⟨ht, hq, rfl⟩, rfl⟩
    have hs : "print(\"".toList ++ t ++ "\")".toList ++ r =
        "print(\"".toList ++ (t ++ '"' :: ([')'] ++ r)) := by simp
    change printing? _ = _
    rw [hs, printing?]
    simp only [after?_append, untilQuote?_append_of_ne hq ht, Option.bind_eq_bind,
      Option.bind_some]
    rfl

theorem quoted_recognizes : quoted.Recognizes IsQuoted := by
  intro s t r
  constructor
  · intro h
    obtain ⟨ht, hq, rfl⟩ := quoted?_eq_some h
    exact ⟨_, ⟨ht, hq, rfl⟩, rfl⟩
  · rintro ⟨u, ⟨ht, hq, rfl⟩, rfl⟩
    have hs : ['"'] ++ t ++ ['"'] ++ r = ['"'] ++ (t ++ '"' :: r) := by simp
    change quoted? _ = _
    rw [hs, quoted?, after?_append]
    exact untilQuote?_append_of_ne hq ht r

/-! ## Comments -/

/-- The text `u` is a comment if `r` comes after it. -/
structure IsComment (u r : List Char) : Prop where
  form : ∃ t, '\n' ∉ t ∧ u = ['/', '/'] ++ t
  /-- The line ends after it. -/
  boundary : ∀ c ∈ r.head?, c = '\n'

theorem lineComment?_append {u r : List Char} (h : IsComment u r) :
    lineComment? (u ++ r) = some ((), r) := by
  obtain ⟨⟨t, ht, rfl⟩, hr⟩ := h
  have hrest : r.dropWhile (· != '\n') = r := by
    cases r with
    | nil => rfl
    | cons c r => rw [hr c rfl, List.dropWhile_cons_of_neg (by decide)]
  rw [lineComment?, List.append_assoc, after?_append]
  simp only [Option.bind_eq_bind, Option.bind_some, List.dropWhile_append_of_pos (bne_of_notMem ht),
    hrest]
  rfl

theorem lineComment_delimits : lineComment.Delimits IsComment := by
  intro s r
  constructor
  · rintro ⟨a, h⟩
    obtain ⟨⟨t, ht, rfl⟩, hr⟩ := lineComment?_eq_some h
    exact ⟨_, ⟨⟨t, ht, rfl⟩, hr⟩, rfl⟩
  · rintro ⟨u, hu, rfl⟩
    exact ⟨(), lineComment?_append hu⟩

end Source

namespace Entry

open Source

/-- **The entries of a line are its calls from left to right.** At most one call starts at each
place of the line, and it has one key, one comment and one end. The first entry is that of the call
that starts first, and each other one that of the call that starts first at the end of the call
before or later, until no call starts any more. -/
theorem ofLine_eq_iff_leftmost (file : String) (line : List Char) (n : Nat) :
    (∀ q t a b u v, line = q ++ t → IsCall a u → IsCall b v → u <+: t → v <+: t →
      a = b ∧ u = v) ∧
    ∀ es, ofLine file line n = es ↔
      ∃ as, Leftmost IsCall line as ∧ es = as.map (ofCall file n) := by
  constructor
  · intro q t a b u v _ hu hv hut hvt
    exact call_recognizes.unique hu hv hut hvt
  · intro es
    simp only [call_recognizes.leftmost_iff, exists_eq_left, List.map_map]
    exact eq_comm

/-- A second call starts in the comment of the first one. -/
example : ofLine "A.swift"
    "NSLocalizedString(\"a\",comment:\"NSLocalizedString(\")\",comment:\"b\")".toList 1 =
      [⟨"a", "NSLocalizedString(", "A.swift", 1⟩] := by decide +kernel

end Entry

end LocalizedStrings
