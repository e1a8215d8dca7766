import LocalizedStrings.Proofs.Source.Grammar

/-!
# Calls in a row

The word that a call starts with does not overlap itself, for its first letter stands in it only
once. So no call starts in a text without this word, not even one that goes on in the call after it.
A line put together from calls and such texts has exactly these calls, whatever else stands between
them.

* `callWord`: the word that a call starts with.
* `Passage`: a call, and the text between it and the next one.
* `not_starts_append`: no call starts before the next one.
* **`leftmost_passages`**: the calls from left to right are those that the line is made of.
* **`Entry.ofLine_passages`**: so are its entries.
-/

namespace LocalizedStrings

namespace Source

/-- The word that a call starts with, up to the quote before its key. -/
def callWord : List Char := "NSLocalizedString(\"".toList

/-- A call as it is written, and a text after it in which no further call starts. -/
structure Passage where
  call : Call
  text : List Char
  gap : List Char
  isCall : IsCall call text
  gap_free : ¬ callWord <:+: gap

/-- The text of a passage: its call, and what stands between this and the next one. -/
def Passage.written (p : Passage) : List Char := p.text ++ p.gap

/-! ## The word of a call -/

theorem IsCall.callWord_prefix {a : Call} {u : List Char} (h : IsCall a u) : callWord <+: u := by
  obtain ⟨w₁, w₂, -, -, rfl⟩ := h.form
  simp only [List.append_assoc]
  exact List.prefix_append _ _

theorem callWord_prefix_of_starts {s : List Char} (h : Starts IsCall s) : callWord <+: s := by
  obtain ⟨a, u, hu, hs⟩ := h
  exact hu.callWord_prefix.trans hs

/-- **The word does not overlap itself.** It starts in no proper end of itself. -/
theorem head?_ne_of_append_eq_callWord {y z : List Char} (hy : y ≠ []) (h : y ++ z = callWord) :
    z.head? ≠ some 'N' := by
  obtain ⟨c, y, rfl⟩ := List.exists_cons_of_ne_nil hy
  intro hz
  have hmem : 'N' ∈ callWord.tail := by
    rw [← h, List.cons_append, List.tail_cons]
    exact List.mem_append_right y (List.mem_of_mem_head? hz)
  exact absurd hmem (by decide)

theorem not_callWord_prefix_append {y s : List Char} (hy : y ≠ []) (hword : ¬ callWord <+: y)
    (hs : s.head? = some 'N') : ¬ callWord <+: y ++ s := by
  rintro ⟨t, ht⟩
  rcases List.append_eq_append_iff.1 ht with ⟨z, hyz, -⟩ | ⟨z, hz, hsz⟩
  · exact hword ⟨z, hyz.symm⟩
  · -- The word starts in `y` and ends behind it, so that a part of it starts `s`.
    have hz0 : z ≠ [] := by
      rintro rfl
      exact hword ⟨[], by rw [List.append_nil, hz, List.append_nil]⟩
    obtain ⟨c, z, rfl⟩ := List.exists_cons_of_ne_nil hz0
    subst hsz
    exact head?_ne_of_append_eq_callWord hy hz.symm hs

/-- **No call starts before the next one.** -/
theorem not_starts_append {gap s q t : List Char} (hgap : ¬ callWord <:+: gap)
    (hs : s.head? = some 'N') (ht : gap ++ s = q ++ t) (hq : q.length < gap.length) :
    ¬ Starts IsCall t := by
  intro hstart
  rcases List.append_eq_append_iff.1 ht with ⟨y, rfl, -⟩ | ⟨y, rfl, rfl⟩
  · rw [List.length_append] at hq
    omega
  · have hy : y ≠ [] := by
      rintro rfl
      simp at hq
    refine not_callWord_prefix_append hy (fun hp => hgap ?_) hs (callWord_prefix_of_starts hstart)
    exact hp.isInfix.trans (List.suffix_append q y).isInfix

/-! ## Lines of passages -/

theorem leftmost_passages {gap : List Char} (hgap : ¬ callWord <:+: gap) (ps : List Passage) :
    Leftmost IsCall (gap ++ ps.flatMap Passage.written) (ps.map Passage.call) := by
  induction ps generalizing gap with
  | nil =>
    rw [List.flatMap_nil, List.append_nil]
    refine .nil fun q t hqt hstart => hgap ?_
    rw [hqt]
    exact (callWord_prefix_of_starts hstart).isInfix.trans (List.suffix_append q t).isInfix
  | cons p ps ih =>
    rw [List.flatMap_cons, Passage.written, List.append_assoc, List.map_cons]
    refine .cons p.isCall (fun q t hqt hq => ?_) (ih p.gap_free)
    refine not_starts_append hgap ?_ hqt hq
    rw [List.head?_append, p.isCall.head?]
    rfl

end Source

namespace Entry

open Source

/-- **N calls give N entries.** A line that is put together from calls and from texts without the
word that a call starts with, one before the first call and one after each call, has one entry for
each of these calls, in this order. -/
theorem ofLine_passages (file : String) (n : Nat) {gap : List Char} (hgap : ¬ callWord <:+: gap)
    (ps : List Passage) : ofLine file (gap ++ ps.flatMap Passage.written) n =
      ps.map fun p => ⟨String.ofList p.call.key, String.ofList p.call.comment, file, n⟩ := by
  have hcalls := call_recognizes.leftmost_iff.1 (leftmost_passages hgap ps)
  calc ofLine file (gap ++ ps.flatMap Passage.written) n
      = ((call.findAll (gap ++ ps.flatMap Passage.written)).map Found.value).map
          (ofCall file n) := by unfold ofLine; rw [List.map_map]; rfl
    _ = (ps.map Passage.call).map (ofCall file n) := by rw [hcalls]
    _ = ps.map fun p => ofCall file n p.call := List.map_map

/-- A call whose key and gap end in the word but for its quote. -/
def nestedPassage : Passage where
  call := ⟨"NSLocalizedString(".toList, "é".toList⟩
  text := "NSLocalizedString(\"NSLocalizedString(\",\u3000comment:\"é\")".toList
  gap := " // \"b\" NSLocalizedString(".toList
  isCall := ⟨by decide, by decide, by decide, by decide, "\u3000".toList, [], by decide, by decide,
    by decide⟩
  gap_free := by decide +kernel

/-- A call with a backslash as its key, at the end of a line. -/
def plainPassage : Passage where
  call := ⟨"\\".toList, "c".toList⟩
  text := "NSLocalizedString(\"\\\",comment: \"c\")".toList
  gap := []
  isCall := ⟨by decide, by decide, by decide, by decide, [], [' '], by decide, by decide, by decide⟩
  gap_free := by decide

theorem ofLine_passages_nested :
    ¬ callWord <:+: "\"a\" + NSLocalized".toList ∧ ofLine "A.swift"
      ("\"a\" + NSLocalizedNSLocalizedString(\"NSLocalizedString(\",\u3000comment:\"é\") // " ++
        "\"b\" NSLocalizedString(NSLocalizedString(\"\\\",comment: \"c\")").toList 1 =
      [⟨"NSLocalizedString(", "é", "A.swift", 1⟩, ⟨"\\", "c", "A.swift", 1⟩] := by
  have hgap : ¬ callWord <:+: "\"a\" + NSLocalized".toList := by decide +kernel
  refine ⟨hgap, ?_⟩
  exact (congrArg (ofLine "A.swift" · 1) (by decide +kernel)).trans
    (ofLine_passages "A.swift" 1 hgap [nestedPassage, plainPassage])

end Entry

end LocalizedStrings
