import LocalizedStrings.Proofs.Literal.Phases

/-!
# Literals behind a comment

A comment hides what follows it, but it is looked for last: a call, or a `print`, is skipped with
all that stands before it, be this the start of a comment. A literal behind two slashes is therefore
reported only if something that is skipped ends behind them, and it then comes after all that is
skipped.

* `Literal.skipEnds`: where the calls and the `print`s of a line end that are skipped.
* `Literal.reported_eq_nil_of_comment`: behind these ends a comment leaves nothing.
* `Literal.suffix_of_mem_reported`: no literal is reported before one of them.
* **`Literal.ofLine_behind_comment`**: what is reported for a line with a comment.
* `Literal.ofLine_behind_comment_call`: a literal in a comment, behind a call.
-/

namespace LocalizedStrings

namespace Shape

variable {α : Type} (p : Shape α)

theorem afterAll_eq (s : List Char) :
    p.afterAll s = s ∨ ∃ f ∈ p.findAll s, p.afterAll s = f.rest := by
  unfold afterAll
  cases h : (p.findAll s).getLast? with
  | none => exact .inl rfl
  | some f => exact .inr ⟨f, List.mem_of_getLast? h, rfl⟩

theorem suffix_afterAll {m s : List Char} (hm : m <:+ s) (h : ∀ f ∈ p.findAll s, m <:+ f.rest) :
    m <:+ p.afterAll s := by
  rcases p.afterAll_eq s with hs | ⟨f, hf, hs⟩
  · rw [hs]
    exact hm
  · rw [hs]
    exact h f hf

theorem rest_suffix_of_mem {s : List Char} {f : Found α} (h : f ∈ p.findAll s) : f.rest <:+ s := by
  obtain ⟨t, u, hs, -⟩ := p.mem_findAll h
  exact ⟨t ++ u, hs.symm⟩

end Shape

namespace Literal

open Source

/-! ## Where something is skipped -/

/-- The ends of the calls that are skipped, and of the `print`s after the last one of them. A place
in a line is given by the text after it. -/
def skipEnds (s : List Char) : List (List Char) :=
  (call.findAll s).map Found.rest ++ (printing.findAll (afterCalls s)).map Found.rest

variable {s : List Char}

theorem forall_mem_skipEnds {P : List Char → Prop} : (∀ r ∈ skipEnds s, P r) ↔
    (∀ f ∈ call.findAll s, P f.rest) ∧ ∀ f ∈ printing.findAll (afterCalls s), P f.rest := by
  simp only [skipEnds, List.forall_mem_append, List.forall_mem_map]

theorem suffix_of_mem_skipEnds : ∀ r ∈ skipEnds s, r <:+ s := by
  rw [forall_mem_skipEnds]
  refine ⟨fun f hf => call.rest_suffix_of_mem hf, fun f hf => ?_⟩
  exact (printing.rest_suffix_of_mem hf).trans (call.afterAll_suffix s)

theorem afterPrints_suffix_of_mem : ∀ r ∈ skipEnds s, afterPrints s <:+ r := by
  rw [forall_mem_skipEnds]
  refine ⟨fun f hf => ?_, fun f hf => printing.afterAll_suffix_rest hf⟩
  exact (afterPrints_suffix s).trans (call.afterAll_suffix_rest hf)

/-- What comes after all that is skipped is left. -/
theorem suffix_afterPrints {m : List Char} (hm : m <:+ s) (h : ∀ r ∈ skipEnds s, m <:+ r) :
    m <:+ afterPrints s := by
  rw [forall_mem_skipEnds] at h
  exact printing.suffix_afterAll (call.suffix_afterAll hm h.1) h.2

/-! ## What is reported -/

/-- **A comment behind all that is skipped leaves nothing.** -/
theorem reported_eq_nil_of_comment {t : List Char} (hn : '\n' ∉ s) (ht : '/' :: '/' :: t <:+ s)
    (h : ∀ r ∈ skipEnds s, '/' :: '/' :: t <:+ r) : reported s = [] := by
  have hc : ['/', '/'] <:+: afterPrints s :=
    (List.prefix_append ['/', '/'] t).isInfix.trans (suffix_afterPrints ht h).isInfix
  rw [reported, afterComments_eq_nil hn hc, foundTexts, Shape.places_of_none _ rfl]
  rfl

theorem quoted_suffix_of_mem_reported {x : List Char × List Char} (h : x ∈ reported s) :
    '"' :: x.1 ++ '"' :: x.2 <:+ afterComments s := by
  unfold reported foundTexts at h
  obtain ⟨t, u, hs, hm⟩ := Source.quoted.mem_places (List.mem_filter.1 h).1
  obtain ⟨-, -, hu⟩ := quoted?_eq_some hm
  refine ⟨t, ?_⟩
  rw [hs, List.append_assoc, hu]
  simp

/-- **What is reported comes after all that is skipped.** -/
theorem suffix_of_mem_reported {x : List Char × List Char} (h : x ∈ reported s) {r : List Char}
    (hr : r ∈ skipEnds s) : '"' :: x.1 ++ '"' :: x.2 <:+ r :=
  ((quoted_suffix_of_mem_reported h).trans (afterComments_suffix s)).trans
    (afterPrints_suffix_of_mem r hr)

/-- **What is reported for a line with a comment.** Wherever two slashes stand in a single line, a
literal is reported only if some call that is skipped, or some `print` after the last one of these,
ends behind the first slash. The literal then stands behind the ends of all of them. So nothing is
reported if all of them end before the slashes. -/
theorem ofLine_behind_comment (file : String) (n : Nat) {q t : List Char}
    (hn : '\n' ∉ q ++ '/' :: '/' :: t) :
    ofLine file (q ++ '/' :: '/' :: t) n =
        (reported (q ++ '/' :: '/' :: t)).map (fun x => ⟨String.ofList x.1, file, n⟩) ∧
      ∀ x ∈ reported (q ++ '/' :: '/' :: t),
        (∃ r ∈ skipEnds (q ++ '/' :: '/' :: t), r <:+ '/' :: t) ∧
          ∀ r ∈ skipEnds (q ++ '/' :: '/' :: t), '"' :: x.1 ++ '"' :: x.2 <:+ r := by
  refine ⟨ofLine_eq_map_reported file _ n, fun x hx => ⟨?_, fun r => suffix_of_mem_reported hx⟩⟩
  have hslash : '/' :: '/' :: t <:+ q ++ '/' :: '/' :: t := List.suffix_append q _
  by_contra hnone
  refine List.ne_nil_of_mem hx (reported_eq_nil_of_comment hn hslash fun r hr => ?_)
  rcases List.suffix_or_suffix_of_suffix hslash (suffix_of_mem_skipEnds r hr) with h | h
  · exact h
  · -- The end is not behind the first slash, so that it is just before it.
    rcases List.suffix_cons_iff.1 h with rfl | h
    · exact List.suffix_rfl
    · exact absurd ⟨r, hr, h⟩ hnone

/-! ## A literal in a comment -/

/-- What follows the start of a comment: a call, and then a literal. -/
def commentedCall : List Char := " NSLocalizedString(\"k\", comment: \"v\") + \"é\"".toList

theorem ofLine_behind_comment_skipped :
    '\n' ∉ "a = 1 ".toList ++ '/' :: '/' :: commentedCall ∧
      ∃ x ∈ reported ("a = 1 ".toList ++ '/' :: '/' :: commentedCall),
        ∃ r ∈ skipEnds ("a = 1 ".toList ++ '/' :: '/' :: commentedCall),
          r <:+ '/' :: commentedCall ∧ '"' :: x.1 ++ '"' :: x.2 <:+ r := by
  have hn : '\n' ∉ "a = 1 ".toList ++ '/' :: '/' :: commentedCall := by decide
  obtain ⟨x, hx⟩ := List.exists_mem_of_ne_nil
    (reported ("a = 1 ".toList ++ '/' :: '/' :: commentedCall)) (by decide +kernel)
  obtain ⟨⟨r, hr, hend⟩, hall⟩ := (ofLine_behind_comment "A.swift" 1 hn).2 x hx
  exact ⟨hn, x, hx, r, hr, hend, hall r hr⟩

/-- **A literal in a comment.** The line starts with the comment, in which a call is skipped. -/
theorem ofLine_behind_comment_call :
    '\n' ∉ '/' :: '/' :: commentedCall ∧
      reported ('/' :: '/' :: commentedCall) = [("é".toList, [])] ∧
      "\"é\"".toList <:+ '/' :: '/' :: commentedCall ∧
      ofLine "A.swift" ('/' :: '/' :: commentedCall) 1 = [⟨"é", "A.swift", 1⟩] := by
  refine ⟨by decide, ?_, ?_, ?_⟩
  · decide +kernel
  · decide +kernel
  · decide +kernel

end Literal

end LocalizedStrings
