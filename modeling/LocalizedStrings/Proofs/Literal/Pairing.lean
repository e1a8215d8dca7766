import LocalizedStrings.Proofs.Literal.Phases
import LocalizedStrings.Proofs.Source.Grammar
import Mathlib.Algebra.Group.Even
import Mathlib.Algebra.Group.Nat.Even

/-!
# Pairs of quotes

The quotes of a line belong together in pairs, the first with the second, the third with the fourth
and so on. Searching for quoted texts keeps to these pairs until one of them is empty, because no
empty text is found: the quote that closes it is then taken to open a text. From there on the texts
between two pairs are found and the texts inside the pairs are passed over, until two pairs touch.

* `Source.pairs`: the pairs of quotes of a line.
* `Literal.pairTexts`: the texts inside the pairs that have a character outside ASCII.
* `Literal.KeepsPairs`: no character outside ASCII stands where the pairs are lost.
* `Source.places_of_nextPair?`, `places_quote_of_nextPair?`: a search in step with the pairs, and
  out of step with them.
* **`Literal.foundTexts_eq_iff`**: when a search finds the texts inside the pairs.
* **`Literal.ofLine_eq_pairs`**: when they are the literals of a line.
* `Literal.ofLine_emptyText`: a literal that is missed, and a text that is none.
-/

namespace LocalizedStrings

namespace Source

/-! ## Pairs -/

/-- The text up to the next quote, and the text after this quote. -/
def toQuote? : List Char → Option (List Char × List Char)
  | [] => none
  | c :: s => if c = '"' then some ([], s) else (toQuote? s).map fun p => (c :: p.1, p.2)

theorem toQuote?_eq_some_iff {s t r : List Char} :
    toQuote? s = some (t, r) ↔ '"' ∉ t ∧ s = t ++ '"' :: r := by
  induction s generalizing t with
  | nil => simp [toQuote?]
  | cons c s ih =>
    rw [toQuote?]
    split_ifs with hc
    · subst hc
      constructor
      · intro h
        cases h
        exact ⟨List.not_mem_nil, rfl⟩
      · rintro ⟨ht, hs⟩
        cases t with
        | nil => cases hs; rfl
        | cons d t => exact absurd ((List.cons.inj hs).1 ▸ List.mem_cons_self) ht
    · rw [Option.map_eq_some_iff]
      constructor
      · rintro ⟨⟨u, v⟩, hu, h⟩
        cases h
        obtain ⟨hq, rfl⟩ := ih.1 hu
        refine ⟨fun hm => ?_, rfl⟩
        rcases List.mem_cons.1 hm with hm | hm
        · exact hc hm.symm
        · exact hq hm
      · rintro ⟨ht, hs⟩
        cases t with
        | nil => exact absurd (List.cons.inj hs).1 hc
        | cons d t =>
          obtain ⟨rfl, rfl⟩ := List.cons.inj hs
          exact ⟨(t, r), ih.2 ⟨fun hm => ht (List.mem_cons_of_mem _ hm), rfl⟩, rfl⟩

theorem toQuote?_eq_none_iff {s : List Char} : toQuote? s = none ↔ '"' ∉ s := by
  induction s with
  | nil => simp [toQuote?]
  | cons c s ih =>
    rw [toQuote?, List.mem_cons, not_or, ← ih]
    split_ifs with hc
    · simp [hc]
    · simp [Ne.symm hc]

/-- The next pair of quotes: the text before it, in it and after it. -/
def nextPair? (s : List Char) : Option (Found (List Char)) := do
  let (gap, s) ← toQuote? s
  let (text, s) ← toQuote? s
  return ⟨gap, text, s⟩

theorem nextPair?_eq_some {s : List Char} {f : Found (List Char)} (h : nextPair? s = some f) :
    '"' ∉ f.skipped ∧ '"' ∉ f.value ∧
      s = f.skipped ++ '"' :: (f.value ++ '"' :: f.rest) := by
  simp only [nextPair?, Option.bind_eq_bind, Option.bind_eq_some_iff, Prod.exists,
    toQuote?_eq_some_iff, Option.pure_def, Option.some.injEq] at h
  obtain ⟨gap, s, ⟨hgap, rfl⟩, text, r, ⟨htext, rfl⟩, rfl⟩ := h
  exact ⟨hgap, htext, rfl⟩

theorem length_rest_of_nextPair? {s : List Char} {f : Found (List Char)}
    (h : nextPair? s = some f) : f.rest.length < s.length := by
  obtain ⟨-, -, hs⟩ := nextPair?_eq_some h
  rw [hs]
  simp only [List.length_append, List.length_cons]
  omega

/-- The pairs of quotes of a text, from left to right. -/
def pairs (s : List Char) : List (Found (List Char)) :=
  match _h : nextPair? s with
  | none => []
  | some f => f :: pairs f.rest
termination_by s.length
decreasing_by exact length_rest_of_nextPair? ‹_›

theorem pairs_of_none {s : List Char} (h : nextPair? s = none) : pairs s = [] := by
  rw [pairs]; split <;> simp_all

theorem pairs_of_some {s : List Char} {f : Found (List Char)} (h : nextPair? s = some f) :
    pairs s = f :: pairs f.rest := by
  rw [pairs]; split <;> simp_all

theorem length_rest_of_mem_pairs {s : List Char} {f : Found (List Char)} (h : f ∈ pairs s) :
    f.rest.length < s.length := by
  fun_induction pairs s with
  | case1 => cases h
  | case2 s g hg ih =>
    have hlt := length_rest_of_nextPair? hg
    rcases List.mem_cons.1 h with rfl | h
    · exact hlt
    · exact (ih h).trans hlt

/-! ## An even number of quotes -/

theorem even_count_rest {s : List Char} {f : Found (List Char)} (h : nextPair? s = some f)
    (he : Even (s.count '"')) : Even (f.rest.count '"') := by
  obtain ⟨hgap, htext, hs⟩ := nextPair?_eq_some h
  rw [hs] at he
  simp only [List.count_append, List.count_cons_self, List.count_eq_zero_of_not_mem hgap,
    List.count_eq_zero_of_not_mem htext, Nat.zero_add] at he
  rw [Nat.even_iff] at he ⊢
  omega

/-- No quote is left without the other one of its pair. -/
theorem quote_notMem_of_nextPair? {s : List Char} (h : nextPair? s = none)
    (he : Even (s.count '"')) : '"' ∉ s := by
  rw [← toQuote?_eq_none_iff]
  by_contra hm
  obtain ⟨⟨gap, r⟩, hgap⟩ := Option.ne_none_iff_exists'.1 hm
  have hr : '"' ∉ r := by
    rw [← toQuote?_eq_none_iff]
    cases hr : toQuote? r with
    | none => rfl
    | some p =>
      rw [nextPair?, hgap, Option.bind_eq_bind, Option.bind_some] at h
      simp [hr] at h
  obtain ⟨hq, rfl⟩ := toQuote?_eq_some_iff.1 hgap
  rw [List.count_append, List.count_cons_self, List.count_eq_zero_of_not_mem hq,
    List.count_eq_zero_of_not_mem hr] at he
  exact absurd he (by decide)

/-! ## Searching for quoted texts -/

theorem places_append {t : List Char} (h : '"' ∉ t) (s : List Char) :
    quoted.places (t ++ s) = quoted.places s := by
  induction t with
  | nil => rfl
  | cons c t ih =>
    have hc : '"' ≠ c := fun e => h (e ▸ List.mem_cons_self)
    have hm : quoted.match? (c :: (t ++ s)) = none := by
      rw [show quoted.match? = quoted? from rfl, quoted?, after?, if_neg hc]
      rfl
    rw [List.cons_append, quoted.places_cons_of_none hm, ih fun hm => h (List.mem_cons_of_mem _ hm)]

theorem places_of_notMem {s : List Char} (h : '"' ∉ s) : quoted.places s = [] := by
  have hs := places_append h []
  rwa [List.append_nil, quoted.places_of_none (s := []) rfl] at hs

theorem quoted_match?_quote (s : List Char) : quoted.match? ('"' :: s) = untilQuote? s := rfl

theorem places_quote_of_notMem {s : List Char} (h : '"' ∉ s) : quoted.places ('"' :: s) = [] := by
  rw [quoted.places_cons_of_none ((quoted_match?_quote s).trans (untilQuote?_of_notMem h)),
    places_of_notMem h]

theorem places_quote_append {t : List Char} (h : '"' ∉ t) (r : List Char) :
    quoted.places ('"' :: (t ++ '"' :: r)) =
      if t = [] then quoted.places ('"' :: r) else (t, r) :: quoted.places r := by
  have hm := (quoted_match?_quote (t ++ '"' :: r)).trans (untilQuote?_append h r)
  split_ifs with ht
  · rw [if_pos ht] at hm
    rw [quoted.places_cons_of_none hm, places_append h]
  · rw [if_neg ht] at hm
    exact quoted.places_cons_of_some hm

/-- A text that is found is followed by less than the text after its first quote. -/
theorem length_of_mem_places_quote {s : List Char} {q : List Char × List Char}
    (h : q ∈ quoted.places ('"' :: s)) : q.2.length < s.length := by
  obtain ⟨t, u, hs, hm⟩ := quoted.mem_places h
  obtain ⟨ht, -, hu⟩ := quoted?_eq_some hm
  have h1 := congrArg List.length hs
  have h2 := congrArg List.length hu
  have h3 := List.length_pos_iff.2 ht
  simp only [List.length_append, List.length_cons, List.length_nil] at h1 h2
  omega

variable {s : List Char} {f : Found (List Char)}

/-- **In step with the pairs.** The search finds the text of the next pair, unless it is empty. -/
theorem places_of_nextPair? (h : nextPair? s = some f) : quoted.places s =
    if f.value = [] then quoted.places ('"' :: f.rest)
      else (f.value, f.rest) :: quoted.places f.rest := by
  obtain ⟨hgap, htext, hs⟩ := nextPair?_eq_some h
  rw [hs, places_append hgap, places_quote_append htext]

/-- **Out of step with the pairs.** After a quote that was left over, the search finds the text
before the next pair and passes over that in the pair, unless the pair follows at once. -/
theorem places_quote_of_nextPair? (h : nextPair? s = some f) : quoted.places ('"' :: s) =
    if f.skipped = [] then quoted.places s
      else (f.skipped, f.value ++ '"' :: f.rest) :: quoted.places ('"' :: f.rest) := by
  obtain ⟨hgap, htext, hs⟩ := nextPair?_eq_some h
  have hp := places_quote_append hgap (f.value ++ '"' :: f.rest)
  rw [← hs, places_append htext] at hp
  rw [hp]
  split_ifs with hg
  · rw [hs, hg]
    rfl
  · rfl

end Source

namespace Literal

open Source

/-! ## Reports -/

/-- The texts in the pairs that have a character outside ASCII, with their places. -/
def pairTexts (s : List Char) : List (List Char × List Char) :=
  ((pairs s).map fun f => (f.value, f.rest)).filter fun q => Text.hasNonAscii q.1

/-- No character outside ASCII stands before or in these pairs, up to the first pair that follows
the one before it at once. -/
def IsAsciiToTouch (fs : List (Found (List Char))) : Prop :=
  ∀ g ∈ fs.takeWhile fun g => g.skipped ≠ [],
    Text.hasNonAscii g.skipped = false ∧ Text.hasNonAscii g.value = false

/-- After an empty pair, no character outside ASCII stands before or in the next pairs, until two
pairs touch. -/
def KeepsPairs (fs : List (Found (List Char))) : Prop :=
  ∀ f rest, f :: rest <:+ fs → f.value = [] → IsAsciiToTouch rest

theorem isAsciiToTouch_cons_of_touch {f : Found (List Char)} (h : f.skipped = [])
    (fs : List (Found (List Char))) : IsAsciiToTouch (f :: fs) := by
  intro g hg
  simp [h] at hg

theorem isAsciiToTouch_cons {f : Found (List Char)} {fs : List (Found (List Char))}
    (h : f.skipped ≠ []) : IsAsciiToTouch (f :: fs) ↔ (Text.hasNonAscii f.skipped = false ∧
      Text.hasNonAscii f.value = false) ∧ IsAsciiToTouch fs := by
  unfold IsAsciiToTouch
  rw [List.takeWhile_cons_of_pos (by simpa using h), List.forall_mem_cons]

theorem keepsPairs_cons {f : Found (List Char)} {fs : List (Found (List Char))} :
    KeepsPairs (f :: fs) ↔ (f.value = [] → IsAsciiToTouch fs) ∧ KeepsPairs fs := by
  constructor
  · intro h
    exact ⟨h f fs List.suffix_rfl, fun g rest hg => h g rest (hg.trans (List.suffix_cons f fs))⟩
  · rintro ⟨hf, hfs⟩ g rest hg
    rcases List.suffix_cons_iff.1 hg with hg | hg
    · obtain ⟨rfl, rfl⟩ := List.cons.inj hg
      exact hf
    · exact hfs g rest hg

theorem keepsPairs_nil : KeepsPairs [] := fun _ _ h => by simp at h

theorem pairTexts_of_none {s : List Char} (h : nextPair? s = none) : pairTexts s = [] := by
  rw [pairTexts, pairs_of_none h]
  rfl

variable {s : List Char} {f : Found (List Char)}

theorem pairTexts_of_some (h : nextPair? s = some f) : pairTexts s =
    if Text.hasNonAscii f.value then (f.value, f.rest) :: pairTexts f.rest
      else pairTexts f.rest := by
  rw [pairTexts, pairs_of_some h, List.map_cons, List.filter_cons]
  rfl

/-- The next pair is the first, so that less follows the others. -/
theorem length_of_mem_pairTexts (h : nextPair? s = some f) {q : List Char × List Char}
    (hq : q ∈ pairTexts s) : q.2.length ≤ f.rest.length := by
  obtain ⟨g, hg, rfl⟩ := List.mem_map.1 (List.mem_filter.1 hq).1
  rw [pairs_of_some h] at hg
  rcases List.mem_cons.1 hg with rfl | hg
  · exact Nat.le_refl _
  · exact (length_rest_of_mem_pairs hg).le

theorem foundTexts_eq_ite {c : Prop} [Decidable c] {u v : List Char} {q : List Char × List Char}
    (h : quoted.places s = if c then quoted.places u else q :: quoted.places v) : foundTexts s =
      if c then foundTexts u
        else if Text.hasNonAscii q.1 then q :: foundTexts v else foundTexts v := by
  rw [foundTexts, h]
  by_cases hc : c
  · rw [if_pos hc, if_pos hc]
    rfl
  · rw [if_neg hc, if_neg hc, List.filter_cons]
    rfl

/-! ## Losing the pairs -/

theorem foundTexts_eq_iff_of_nextPair? (h : nextPair? s = some f)
    (hin : foundTexts f.rest = pairTexts f.rest ↔ KeepsPairs (pairs f.rest))
    (hout : foundTexts ('"' :: f.rest) = pairTexts f.rest ↔
      IsAsciiToTouch (pairs f.rest) ∧ KeepsPairs (pairs f.rest)) :
    foundTexts s = pairTexts s ↔ KeepsPairs (pairs s) := by
  rw [foundTexts_eq_ite (places_of_nextPair? h), pairTexts_of_some h, pairs_of_some h,
    keepsPairs_cons]
  by_cases hv : f.value = []
  · have hn : Text.hasNonAscii f.value = false := by rw [hv]; rfl
    rw [if_pos hv, hn, if_neg Bool.false_ne_true, hout]
    simp only [hv, forall_const]
  · rw [if_neg hv]
    simp only [hv, false_imp_iff, true_and]
    split_ifs with hn
    · rw [List.cons.injEq, hin]
      exact and_iff_right rfl
    · exact hin

theorem foundTexts_quote_eq_iff_of_nextPair? (h : nextPair? s = some f)
    (hin : foundTexts s = pairTexts s ↔ KeepsPairs (pairs s))
    (hout : foundTexts ('"' :: f.rest) = pairTexts f.rest ↔
      IsAsciiToTouch (pairs f.rest) ∧ KeepsPairs (pairs f.rest)) :
    foundTexts ('"' :: s) = pairTexts s ↔
      IsAsciiToTouch (pairs s) ∧ KeepsPairs (pairs s) := by
  rw [foundTexts_eq_ite (places_quote_of_nextPair? h)]
  by_cases hg : f.skipped = []
  · have ht : IsAsciiToTouch (pairs s) := by
      rw [pairs_of_some h]
      exact isAsciiToTouch_cons_of_touch hg _
    rw [if_pos hg, hin]
    exact (and_iff_right ht).symm
  · rw [if_neg hg, pairs_of_some h, isAsciiToTouch_cons hg, keepsPairs_cons]
    cases hs : Text.hasNonAscii f.skipped with
    | true =>
      -- The text before the pair is found, and no pair is followed by as much.
      refine iff_of_false (fun he => ?_) (fun hk => absurd hk.1.1.1 (by decide))
      rw [if_pos rfl] at he
      have hle := length_of_mem_pairTexts h (he ▸ List.mem_cons_self)
      simp only [List.length_append, List.length_cons] at hle
      omega
    | false =>
      rw [if_neg Bool.false_ne_true, pairTexts_of_some h]
      cases hv : Text.hasNonAscii f.value with
      | true =>
        -- The text in the pair is passed over, and what is found later is followed by less.
        refine iff_of_false (fun he => ?_) (fun hk => absurd hk.1.1.2 (by decide))
        rw [if_pos rfl] at he
        have hm : (f.value, f.rest) ∈ foundTexts ('"' :: f.rest) := he ▸ List.mem_cons_self
        exact absurd (length_of_mem_places_quote (List.mem_filter.1 hm).1) (Nat.lt_irrefl _)
      | false =>
        rw [if_neg Bool.false_ne_true, hout]
        exact ⟨fun ⟨ht, hk⟩ => ⟨⟨⟨rfl, rfl⟩, ht⟩, fun _ => ht, hk⟩,
          fun ⟨⟨_, ht⟩, _, hk⟩ => ⟨ht, hk⟩⟩

/-- **When the texts inside the pairs are found.** -/
theorem foundTexts_eq_iff (he : Even (s.count '"')) :
    (foundTexts s = pairTexts s ↔ KeepsPairs (pairs s)) ∧
      (foundTexts ('"' :: s) = pairTexts s ↔ IsAsciiToTouch (pairs s) ∧ KeepsPairs (pairs s)) := by
  fun_induction pairs s with
  | case1 s h =>
    have hq := quote_notMem_of_nextPair? h he
    have hk : IsAsciiToTouch [] := fun g hg => by simp at hg
    rw [foundTexts, foundTexts, places_of_notMem hq, places_quote_of_notMem hq, pairTexts_of_none h]
    exact ⟨iff_of_true rfl keepsPairs_nil, iff_of_true rfl ⟨hk, keepsPairs_nil⟩⟩
  | case2 s f h ih =>
    obtain ⟨hin, hout⟩ := ih (even_count_rest h he)
    rw [← pairs_of_some h]
    have hs := foundTexts_eq_iff_of_nextPair? h hin hout
    exact ⟨hs, foundTexts_quote_eq_iff_of_nextPair? h hs hout⟩

theorem afterComments_of_plain (hcall : ¬ call.OccursIn s) (hprint : ¬ printing.OccursIn s)
    (hcomment : ¬ ['/', '/'] <:+: s) : afterComments s = s := by
  rw [← lineComment_occursIn_iff] at hcomment
  rw [← Shape.find?_eq_none_iff] at hcall hprint hcomment
  rw [afterComments, afterPrints, afterCalls, call.afterAll_of_none hcall,
    printing.afterAll_of_none hprint, lineComment.afterAll_of_none hcomment]

/-- **When the texts inside the pairs are reported.** In a line without calls, `print`s and comments
whose quotes go in pairs, the literals are the texts with a character outside ASCII inside the
pairs, if nothing outside ASCII stands where the pairs are lost, and only then. -/
theorem ofLine_eq_pairs (file : String) (line : List Char) (n : Nat) (heven : Even (line.count '"'))
    (hcall : ¬ call.OccursIn line) (hprint : ¬ printing.OccursIn line)
    (hcomment : ¬ ['/', '/'] <:+: line) :
    ofLine file line n = (reported line).map (fun q => ⟨String.ofList q.1, file, n⟩) ∧
      (reported line = pairTexts line ↔ KeepsPairs (pairs line)) := by
  refine ⟨ofLine_eq_map_reported file line n, ?_⟩
  rw [reported, afterComments_of_plain hcall hprint hcomment]
  exact (foundTexts_eq_iff heven).1

/-- A line with an empty text, after which two other texts touch. -/
def touchingLine : List Char := "\"\" + \"a\"\"é\"".toList

theorem ofLine_eq_pairs_touching :
    Even (touchingLine.count '"') ∧ ¬ call.OccursIn touchingLine ∧
      ¬ printing.OccursIn touchingLine ∧ ¬ ['/', '/'] <:+: touchingLine ∧
      KeepsPairs (pairs touchingLine) ∧
      ofLine "A.swift" touchingLine 1 = [⟨"é", "A.swift", 1⟩] := by
  have heven : Even (touchingLine.count '"') := by decide +kernel
  have hcall : ¬ call.OccursIn touchingLine := (Shape.find?_eq_none_iff _).1 rfl
  have hprint : ¬ printing.OccursIn touchingLine := (Shape.find?_eq_none_iff _).1 rfl
  have hcomment : ¬ ['/', '/'] <:+: touchingLine := by decide +kernel
  obtain ⟨hlits, hkeeps⟩ := ofLine_eq_pairs "A.swift" touchingLine 1 heven hcall hprint hcomment
  refine ⟨heven, hcall, hprint, hcomment, hkeeps.1 (by decide +kernel), hlits.trans ?_⟩
  decide +kernel

/-! ## A text that is lost -/

/-- A line with an empty text before a character outside ASCII and a text with another one. -/
def emptyTextLine : List Char := "\"\" + é + \"ö\"".toList

/-- **A literal that is missed, and a text that is none.** What stands between the two pairs of
quotes is reported, and what stands in the second pair is not. -/
theorem ofLine_emptyText :
    '\n' ∉ emptyTextLine ∧ '\\' ∉ emptyTextLine ∧ Even (emptyTextLine.count '"') ∧
      ¬ call.OccursIn emptyTextLine ∧ ¬ printing.OccursIn emptyTextLine ∧
      ¬ ['/', '/'] <:+: emptyTextLine ∧
      (pairTexts emptyTextLine).map Prod.fst = ["ö".toList] ∧
      ofLine "A.swift" emptyTextLine 1 = [⟨" + é + ", "A.swift", 1⟩] := by
  refine ⟨by decide, by decide, by decide +kernel, (Shape.find?_eq_none_iff _).1 rfl,
    (Shape.find?_eq_none_iff _).1 rfl, by decide +kernel, ?_, ?_⟩
  · decide +kernel
  · decide +kernel

end Literal

end LocalizedStrings
