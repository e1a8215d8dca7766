import LocalizedStrings.Proofs.Literal.Phases
import LocalizedStrings.Proofs.Resource.Grammar
import LocalizedStrings.Proofs.Text.Lines

/-!
# Scanning line by line

A carriage return is part of no construct that ends a line: a call, a `print` and a quoted text end
in other characters, a comment takes it in without a trace, and after the pair of a resource file it
is one blank more. So the three scanners of texts ignore it at the end of a line, and each of them
goes by lines alone.

* `Shape.IgnoresAtEnd`: a character at the end of a text does not matter for a construct.
* `Entry.ignoresReturn_ofLine`, `Literal.ignoresReturn_ofLine`, `Pair.ignoresReturn_ofLine?`: a
  carriage return at the end of a line does not matter.
* **`ofText_lineByLine`**: two texts with a line feed between them, and other line ends.
-/

namespace LocalizedStrings

open Text

/-! ## A character at the end of a text -/

namespace Shape

variable {α : Type} {p : Shape α} {c : Char}

/-- The character `c` at the end of a text does not matter for the construct. It is left over. -/
def IgnoresAtEnd (p : Shape α) (c : Char) : Prop :=
  ∀ s, p.match? (s ++ [c]) = (p.match? s).map fun m => (m.1, m.2 ++ [c])

/-- A character in which no construct ends does not matter. -/
theorem Recognizes.ignoresAtEnd {G : α → List Char → Prop} (h : p.Recognizes G)
    (hc : ∀ a u, G a u → u.getLast? ≠ some c) : p.IgnoresAtEnd c := by
  intro s
  cases hs : p.match? s with
  | some m =>
    obtain ⟨u, hu, rfl⟩ := (h _ m.1 m.2).1 hs
    rw [List.append_assoc]
    exact h.match?_append hu _
  | none =>
    rw [Option.map_none, Option.eq_none_iff_forall_ne_some]
    rintro ⟨a, r⟩ hm
    obtain ⟨u, hu, hsu⟩ := (h _ _ _).1 hm
    rcases List.eq_nil_or_concat' r with rfl | ⟨r, d, rfl⟩
    · refine hc a u hu ?_
      rw [List.append_nil] at hsu
      rw [← hsu, List.getLast?_concat]
    · rw [← List.append_assoc] at hsu
      obtain ⟨rfl, -⟩ := List.append_inj' hsu rfl
      rw [h.match?_append hu r] at hs
      cases hs

namespace IgnoresAtEnd

variable (h : p.IgnoresAtEnd c)

include h

theorem find?_append (s : List Char) :
    p.find? (s ++ [c]) = (p.find? s).map fun f => { f with rest := f.rest ++ [c] } := by
  induction s with
  | nil =>
    have hc : p.match? [c] = none := by
      rw [← List.nil_append [c], h, p.match?_nil]
      rfl
    rw [List.nil_append, p.find?_cons_of_none hc]
    rfl
  | cons d s ih =>
    have hm : p.match? (d :: (s ++ [c])) = _ := h (d :: s)
    cases hd : p.match? (d :: s) with
    | none =>
      rw [hd] at hm
      rw [List.cons_append, p.find?_cons_of_none hm, p.find?_cons_of_none hd, ih, Option.map_map,
        Option.map_map]
      rfl
    | some m =>
      rw [hd] at hm
      rw [List.cons_append, p.find?_cons_of_some hm, p.find?_cons_of_some hd]
      rfl

theorem findAll_append (s : List Char) :
    p.findAll (s ++ [c]) = (p.findAll s).map fun f => { f with rest := f.rest ++ [c] } := by
  fun_induction findAll p s with
  | case1 s hs =>
    rw [p.findAll_of_none (by rw [h.find?_append, hs]; rfl)]
    rfl
  | case2 s f hf ih =>
    rw [p.findAll_of_some (by rw [h.find?_append, hf]; rfl), List.map_cons, ih]

theorem afterAll_append (s : List Char) : p.afterAll (s ++ [c]) = p.afterAll s ++ [c] := by
  rw [afterAll, afterAll, h.findAll_append, List.getLast?_map]
  cases (p.findAll s).getLast? <;> rfl

theorem places_append (s : List Char) :
    p.places (s ++ [c]) = (p.places s).map fun q => (q.1, q.2 ++ [c]) := by
  rw [places, places, h.findAll_append, List.map_map, List.map_map]
  rfl

end IgnoresAtEnd

end Shape

/-! ## Carriage returns -/

namespace Source

theorem call_ignoresAtEnd : call.IgnoresAtEnd '\r' := by
  refine call_recognizes.ignoresAtEnd fun a u hu => ?_
  obtain ⟨w₁, w₂, -, -, rfl⟩ := hu.form
  rw [List.getLast?_append]
  simp

theorem printing_ignoresAtEnd : printing.IgnoresAtEnd '\r' := by
  refine printing_recognizes.ignoresAtEnd fun t u hu => ?_
  rw [hu.form, List.getLast?_append]
  simp

theorem quoted_ignoresAtEnd : quoted.IgnoresAtEnd '\r' := by
  refine quoted_recognizes.ignoresAtEnd fun t u hu => ?_
  rw [hu.form, List.getLast?_append]
  simp

/-- A carriage return at the end starts no comment. -/
theorem infix_append_return_iff (s : List Char) :
    ['/', '/'] <:+: s ++ ['\r'] ↔ ['/', '/'] <:+: s := by
  rw [List.infix_concat_iff, or_iff_right]
  rintro ⟨t, ht⟩
  have hlast := congrArg List.getLast? ht
  simp at hlast

end Source

namespace Entry

theorem ignoresReturn_ofLine (file : String) : IgnoresReturn (ofLine file) where
  empty n := by
    rw [ofLine, Source.call.findAll_of_none rfl]
    rfl
  carriageReturn l n _ := by
    rw [ofLine, Source.call_ignoresAtEnd.findAll_append, List.map_map]
    rfl

end Entry

namespace Literal

open Source

theorem afterPrints_append_return (s : List Char) :
    afterPrints (s ++ ['\r']) = afterPrints s ++ ['\r'] := by
  rw [afterPrints, afterCalls, call_ignoresAtEnd.afterAll_append,
    printing_ignoresAtEnd.afterAll_append]
  rfl

theorem reported_append_return {s : List Char} (h : '\n' ∉ s) :
    (reported (s ++ ['\r'])).map Prod.fst = (reported s).map Prod.fst := by
  have hn : '\n' ∉ s ++ ['\r'] := by simp [h]
  by_cases hc : ['/', '/'] <:+: afterPrints s
  · have hc' : ['/', '/'] <:+: afterPrints (s ++ ['\r']) := by
      rwa [afterPrints_append_return, infix_append_return_iff]
    rw [reported, reported, afterComments_eq_nil h hc, afterComments_eq_nil hn hc']
  · have hc' : ¬ ['/', '/'] <:+: afterPrints (s ++ ['\r']) := by
      rwa [afterPrints_append_return, infix_append_return_iff]
    rw [← lineComment_occursIn_iff, ← lineComment.find?_eq_none_iff] at hc hc'
    rw [reported, reported, afterComments, afterComments, lineComment.afterAll_of_none hc,
      lineComment.afterAll_of_none hc', afterPrints_append_return, foundTexts, foundTexts,
      quoted_ignoresAtEnd.places_append, List.filter_map, List.map_map]
    rfl

theorem ignoresReturn_ofLine (file : String) : IgnoresReturn (ofLine file) where
  empty n := by
    rw [ofLine, textsOf_of_find?_none rfl rfl]
    rfl
  carriageReturn l n h := by
    have hmap : ∀ s, ofLine file s n =
        ((reported s).map Prod.fst).map fun t => ⟨String.ofList t, file, n⟩ := by
      intro s
      rw [ofLine_eq_map_reported, List.map_map]
      rfl
    rw [hmap, hmap, reported_append_return h]

end Literal

namespace Pair

/-- After a pair a carriage return is one blank more. -/
theorem isLine_append_return_iff {p : Pair} {s : List Char} :
    IsLine p (s ++ ['\r']) ↔ IsLine p s := by
  constructor
  · rintro ⟨hk, hv, w₁, w₂, w₃, w₄, w₅, hw₁, hw₂, hw₃, hw₄, hw₅, hs⟩
    rcases List.eq_nil_or_concat' w₅ with rfl | ⟨w₅, c, rfl⟩
    · rw [List.append_nil] at hs
      exact absurd (List.append_inj' hs rfl).2 (by decide)
    · rw [← List.append_assoc] at hs
      refine ⟨hk, hv, w₁, w₂, w₃, w₄, w₅, hw₁, hw₂, hw₃, hw₄, ?_, (List.append_inj' hs rfl).1⟩
      rw [List.all_append, Bool.and_eq_true] at hw₅
      exact hw₅.1
  · rintro ⟨hk, hv, w₁, w₂, w₃, w₄, w₅, hw₁, hw₂, hw₃, hw₄, hw₅, rfl⟩
    refine ⟨hk, hv, w₁, w₂, w₃, w₄, w₅ ++ ['\r'], hw₁, hw₂, hw₃, hw₄, ?_, by simp⟩
    rw [List.all_append, hw₅]
    rfl

theorem ignoresReturn_ofLine? : IgnoresReturn fun l _ => (ofLine? l).toList where
  empty _ := rfl
  carriageReturn l _ _ := by
    refine congrArg Option.toList (Option.ext fun p => ?_)
    rw [ofLine?_eq_some_iff, ofLine?_eq_some_iff, isLine_append_return_iff]

theorem ofText_eq_onLines (s : List Char) :
    ofText s = onLines (fun l _ => (ofLine? l).toList) s := by
  have hlines : lines s = (numbered s).map Prod.fst := (List.zipIdx_map_fst 1 (lines s)).symm
  rw [ofText, hlines, List.filterMap_map, List.filterMap_eq_flatMap_toList]
  rfl

end Pair

/-! ## Whole texts -/

/-- **Scanning goes line by line.** For two texts with a line feed between them the entries, the
literals and the pairs are those of the first text and then those of the second one, whose lines are
numbered on. A carriage return before each line feed of a text changes none of them. -/
theorem ofText_lineByLine (file : String) (a b : List Char) :
    Entry.ofText file (a ++ '\n' :: b) = Entry.ofText file a ++ (Entry.ofText file b).map
        (fun e => { e with line := e.line + (1 + a.count '\n') }) ∧
      Literal.ofText file (a ++ '\n' :: b) = Literal.ofText file a ++ (Literal.ofText file b).map
        (fun l => { l with line := l.line + (1 + a.count '\n') }) ∧
      Pair.ofText (a ++ '\n' :: b) = Pair.ofText a ++ Pair.ofText b ∧
      Entry.ofText file (crlf a) = Entry.ofText file a ∧
      Literal.ofText file (crlf a) = Literal.ofText file a ∧
      Pair.ofText (crlf a) = Pair.ofText a := by
  have hentry := Entry.ignoresReturn_ofLine file
  have hliteral := Literal.ignoresReturn_ofLine file
  have hpair := Pair.ignoresReturn_ofLine?
  refine ⟨?_, ?_, ?_, hentry.onLines_crlf a, hliteral.onLines_crlf a, ?_⟩
  · rw [Entry.ofText, hentry.onLines_append]
    simp only [Entry.ofText, onLines, List.map_flatMap, Entry.ofLine, List.map_map]
    rfl
  · rw [Literal.ofText, hliteral.onLines_append]
    simp only [Literal.ofText, onLines, List.map_flatMap, Literal.ofLine, List.map_map]
    rfl
  · simp only [Pair.ofText_eq_onLines]
    exact hpair.onLines_append a b
  · simp only [Pair.ofText_eq_onLines]
    exact hpair.onLines_crlf a

end LocalizedStrings
