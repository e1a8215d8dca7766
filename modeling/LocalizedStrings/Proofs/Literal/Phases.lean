import LocalizedStrings.Literal
import LocalizedStrings.Proofs.Source.Grammar

/-!
# The three phases of a line

The steps that skip something never come back to an earlier kind. A rest without calls holds none
later on, so that all calls are skipped first, then all `print`s that follow them and then all
comments that follow these. What is left is searched for quoted texts. The rest of a line after each
phase is fixed by the grammars of the constructs, without any search.

* `Literal.afterCalls`, `afterPrints`, `afterComments`: the rest of a line after each phase.
* `Literal.Phases`, `Literal.phases_iff`: these rests by the grammars.
* `Literal.textsOf_afterAll`: a phase does not change what is reported.
* `Literal.reported`: the texts that are reported, with their places.
* **`Literal.ofLine_eq_map_reported`**: these are the literals of a line.
* **`Literal.ofLine_eq_phases`**: the literals of a line by its phases.
-/

namespace LocalizedStrings

open Source

/-! ## Characters outside ASCII -/

/-- Some character of the text is outside ASCII. -/
def Text.hasNonAscii (s : List Char) : Bool := s.any fun c => 127 < c.toNat

theorem Text.isMultibyte_eq_hasNonAscii : Text.isMultibyte = Text.hasNonAscii := by
  funext s
  rw [Bool.eq_iff_iff, Text.isMultibyte_iff, Text.hasNonAscii, List.any_eq_true]
  simp

/-! ## Comments -/

theorem Source.lineComment_occursIn_iff {s : List Char} :
    lineComment.OccursIn s ↔ ['/', '/'] <:+: s := by
  have hm : ∀ u, (lineComment.match? u).isSome ↔ ['/', '/'] <+: u := by
    intro u
    rw [show lineComment.match? u = lineComment? u from rfl, lineComment?]
    constructor
    · intro h
      obtain ⟨⟨a, r⟩, hr⟩ := Option.isSome_iff_exists.1 h
      obtain ⟨v, hv, -⟩ := Option.bind_eq_some_iff.1 hr
      exact ⟨v, (after?_eq_some_iff.1 hv).symm⟩
    · rintro ⟨v, rfl⟩
      rw [after?_eq_some_iff.2 rfl]
      rfl
  simp only [Shape.OccursIn, hm, List.infix_iff_prefix_suffix]
  exact exists_congr fun u => and_comm

/-- A comment in a text of one line leaves nothing of it. -/
theorem Source.rest_eq_nil_of_lineComment {s : List Char} {f : Found Unit} (h : '\n' ∉ s)
    (hf : lineComment.find? s = some f) : f.rest = [] := by
  obtain ⟨u, -, hs, hm⟩ := lineComment.find?_split hf
  obtain ⟨-, hr⟩ := lineComment?_eq_some hm
  cases hrest : f.rest with
  | nil => rfl
  | cons c r =>
    have hc : c = '\n' := hr c (by rw [hrest]; rfl)
    rw [hs, hrest, hc] at h
    exact absurd (List.mem_append_right _ List.mem_cons_self) h

namespace Literal

/-! ## Phases -/

/-- The rest of a line after its last call. -/
def afterCalls (s : List Char) : List Char := call.afterAll s

/-- The rest after the last `print` in the rest after the calls. -/
def afterPrints (s : List Char) : List Char := printing.afterAll (afterCalls s)

/-- The rest after the last comment in the rest after the `print`s. -/
def afterComments (s : List Char) : List Char := lineComment.afterAll (afterPrints s)

/-- The texts `a`, `b` and `c` are what is left of the line `s` after its calls, of `a` after its
`print`s and of `b` after its comments, where these are taken from left to right. -/
structure Phases (s a b c : List Char) : Prop where
  calls : LeftAfter (fun u _ => ∃ x, IsCall x u) s a
  prints : LeftAfter (fun u _ => ∃ t, IsPrinting t u) a b
  comments : LeftAfter IsComment b c

/-- **The rests of a line are those of the grammars.** -/
theorem phases_iff {s a b c : List Char} :
    Phases s a b c ↔ a = afterCalls s ∧ b = afterPrints s ∧ c = afterComments s := by
  constructor
  · rintro ⟨ha, hb, hc⟩
    obtain rfl := call_recognizes.delimits.leftAfter_iff.1 ha
    obtain rfl := printing_recognizes.delimits.leftAfter_iff.1 hb
    exact ⟨rfl, rfl, lineComment_delimits.leftAfter_iff.1 hc⟩
  · rintro ⟨rfl, rfl, rfl⟩
    exact ⟨call_recognizes.delimits.leftAfter_iff.2 rfl,
      printing_recognizes.delimits.leftAfter_iff.2 rfl, lineComment_delimits.leftAfter_iff.2 rfl⟩

theorem afterPrints_suffix (s : List Char) : afterPrints s <:+ afterCalls s :=
  printing.afterAll_suffix _

theorem afterComments_suffix (s : List Char) : afterComments s <:+ afterPrints s :=
  lineComment.afterAll_suffix _

theorem find?_call_of_suffix {s u : List Char} (h : u <:+ afterCalls s) : call.find? u = none :=
  call.find?_eq_none_of_suffix h (call.find?_afterAll s)

theorem find?_printing_of_suffix {s u : List Char} (h : u <:+ afterPrints s) :
    printing.find? u = none :=
  printing.find?_eq_none_of_suffix h (printing.find?_afterAll _)

variable {s : List Char}

theorem skip?_eq_none_iff : skip? s = none ↔
    call.find? s = none ∧ printing.find? s = none ∧ lineComment.find? s = none := by
  simp [skip?]

theorem textsOf_of_skip? {r : List Char} (h : skip? s = some r) : textsOf s = textsOf r := by
  have hstep : step? s = some (.skipped r) := by rw [step?, h]
  rw [textsOf]
  split <;> simp_all

theorem textsOf_of_find?_none (h : skip? s = none) (hq : Source.quoted.find? s = none) :
    textsOf s = [] := by
  have hstep : step? s = none := by rw [step?, h, hq]; rfl
  rw [textsOf]
  split <;> simp_all

theorem textsOf_of_find?_some {f : Found (List Char)} (h : skip? s = none)
    (hq : Source.quoted.find? s = some f) : textsOf s =
      if Text.isMultibyte f.value then f.value :: textsOf f.rest else textsOf f.rest := by
  have hstep : step? s = some (.quoted f.value f.rest) := by rw [step?, h, hq]; rfl
  rw [textsOf]
  split <;> simp_all

/-- **A phase does not change what is reported.** It skips one construct after the other. -/
theorem textsOf_afterAll {α : Type} (p : Shape α)
    (h : ∀ u f, u <:+ s → p.find? u = some f → skip? u = some f.rest) :
    textsOf (p.afterAll s) = textsOf s := by
  fun_induction Shape.findAll p s with
  | case1 s hs => rw [p.afterAll_of_none hs]
  | case2 s f hf ih =>
    rw [p.afterAll_of_some hf, ih fun u g hu => h u g (hu.trans (p.rest_suffix hf)),
      textsOf_of_skip? (h s f List.suffix_rfl hf)]

theorem textsOf_afterComments (s : List Char) : textsOf (afterComments s) = textsOf s := by
  calc textsOf (afterComments s) = textsOf (afterPrints s) := by
        refine textsOf_afterAll lineComment fun u f hu hf => ?_
        have hc := find?_call_of_suffix (hu.trans (afterPrints_suffix s))
        simp [skip?, hc, find?_printing_of_suffix hu, hf]
    _ = textsOf (afterCalls s) := by
        refine textsOf_afterAll printing fun u f hu hf => ?_
        simp [skip?, find?_call_of_suffix hu, hf]
    _ = textsOf s := by
        refine textsOf_afterAll call fun u f _ hf => ?_
        simp [skip?, hf]

/-- Nothing is left to skip. -/
theorem skip?_afterComments (s : List Char) : skip? (afterComments s) = none := by
  have hle := afterComments_suffix s
  rw [skip?_eq_none_iff]
  exact ⟨find?_call_of_suffix (hle.trans (afterPrints_suffix s)), find?_printing_of_suffix hle,
    lineComment.find?_afterAll _⟩

/-! ## Reports -/

/-- The quoted texts with a character outside ASCII, with their places. -/
def foundTexts (s : List Char) : List (List Char × List Char) :=
  (Source.quoted.places s).filter fun q => Text.hasNonAscii q.1

/-- The texts that are reported for a line, with their places. -/
def reported (s : List Char) : List (List Char × List Char) := foundTexts (afterComments s)

theorem textsOf_of_skip?_none (h : skip? s = none) : textsOf s = (foundTexts s).map Prod.fst := by
  rw [skip?_eq_none_iff] at h
  fun_induction Shape.findAll Source.quoted s with
  | case1 s hs =>
    rw [textsOf_of_find?_none (skip?_eq_none_iff.2 h) hs, foundTexts, Shape.places_of_none _ hs]
    rfl
  | case2 s f hf ih =>
    have hr := Source.quoted.rest_suffix hf
    have ih := ih ⟨call.find?_eq_none_of_suffix hr h.1,
      printing.find?_eq_none_of_suffix hr h.2.1, lineComment.find?_eq_none_of_suffix hr h.2.2⟩
    rw [textsOf_of_find?_some (skip?_eq_none_iff.2 h) hf, ih, Text.isMultibyte_eq_hasNonAscii,
      foundTexts, foundTexts, Shape.places_of_some _ hf, List.filter_cons]
    split <;> rfl

/-- **The literals of a line are the texts that are reported for it.** -/
theorem ofLine_eq_map_reported (file : String) (line : List Char) (n : Nat) :
    ofLine file line n = (reported line).map fun q => ⟨String.ofList q.1, file, n⟩ := by
  rw [ofLine, ← textsOf_afterComments, textsOf_of_skip?_none (skip?_afterComments line),
    List.map_map]
  rfl

theorem ofLine_eq_map_filter (file : String) (line : List Char) (n : Nat) : ofLine file line n =
    (((Source.quoted.findAll (afterComments line)).map Found.value).filter Text.hasNonAscii).map
      fun t => ⟨String.ofList t, file, n⟩ := by
  rw [ofLine_eq_map_reported, reported, foundTexts, Shape.places, List.filter_map, List.filter_map,
    List.map_map, List.map_map]
  rfl

theorem afterComments_eq_nil (h : '\n' ∉ s) (hc : ['/', '/'] <:+: afterPrints s) :
    afterComments s = [] := by
  have hle : afterPrints s <:+ s := (afterPrints_suffix s).trans (call.afterAll_suffix s)
  rw [← lineComment_occursIn_iff, ← not_not (a := lineComment.OccursIn _),
    ← lineComment.find?_eq_none_iff] at hc
  obtain ⟨f, hf⟩ := Option.ne_none_iff_exists'.1 hc
  have hr := rest_eq_nil_of_lineComment (fun hm => h (hle.subset hm)) hf
  rw [afterComments, lineComment.afterAll_of_some hf, hr, Shape.afterAll_of_none _ rfl]

/-- **The literals of a line by its phases.** They are the quoted texts with a character outside
ASCII in the rest of the line after its last call, the last `print` after that and the last comment
after that, where the grammars say what these are. So each of them comes after each call of the
line, and a comment after the calls and the `print`s of a single line leaves none. -/
theorem ofLine_eq_phases (file : String) (line : List Char) (n : Nat) :
    (∀ ls, ofLine file line n = ls ↔ ∃ a b c texts, Phases line a b c ∧ Leftmost IsQuoted c texts ∧
        ls = (texts.filter Text.hasNonAscii).map fun t => ⟨String.ofList t, file, n⟩) ∧
      ofLine file line n =
        ((Source.quoted.findAll (afterComments line)).filter fun f =>
          Text.hasNonAscii f.value).map (fun f => ⟨String.ofList f.value, file, n⟩) ∧
      (∀ f ∈ call.findAll line, afterComments line <:+ f.rest) ∧
      ('\n' ∉ line → ['/', '/'] <:+: afterPrints line → ofLine file line n = []) := by
  have hfound := ofLine_eq_map_filter file line n
  refine ⟨fun ls => ?_, ?_, ?_, ?_⟩
  · simp only [phases_iff, quoted_recognizes.leftmost_iff]
    constructor
    · rintro rfl
      exact ⟨_, _, _, _, ⟨rfl, rfl, rfl⟩, rfl, hfound⟩
    · rintro ⟨_, _, _, _, ⟨rfl, rfl, rfl⟩, rfl, rfl⟩
      exact hfound
  · rw [hfound, List.filter_map, List.map_map]
    rfl
  · intro f hf
    exact (afterComments_suffix line).trans
      ((afterPrints_suffix line).trans (call.afterAll_suffix_rest hf))
  · intro hn hc
    rw [hfound, afterComments_eq_nil hn hc, Shape.findAll_of_none _ rfl]
    rfl

/-- A line with a call and a comment after it. -/
def commentedLine : List Char := "NSLocalizedString(\"k\", comment: \"é\") + \"ö\" // \"ü\"".toList

theorem ofLine_eq_phases_commented :
    (∃ f ∈ call.findAll commentedLine, afterComments commentedLine <:+ f.rest) ∧
      '\n' ∉ commentedLine ∧ ['/', '/'] <:+: afterPrints commentedLine ∧
      ofLine "A.swift" commentedLine 1 = [] := by
  have hn : '\n' ∉ commentedLine := by decide
  have hc : ['/', '/'] <:+: afterPrints commentedLine := by decide +kernel
  obtain ⟨-, -, hcalls, hnil⟩ := ofLine_eq_phases "A.swift" commentedLine 1
  obtain ⟨f, hf⟩ := List.exists_mem_of_ne_nil (call.findAll commentedLine) (by decide +kernel)
  exact ⟨⟨f, hf, hcalls f hf⟩, hn, hc, hnil hn hc⟩

end Literal

end LocalizedStrings
