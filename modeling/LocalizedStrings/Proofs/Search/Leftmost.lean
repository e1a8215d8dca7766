import LocalizedStrings.Proofs.Search

/-!
# The leftmost constructs of a text

A grammar says which texts are a construct. The constructs of a text from left to right are then
fixed without any search: the first one starts as early as any, each other one as early as any that
starts no earlier than the end of the one before, and behind the last one none starts.

Where a construct ends may depend on what comes after it. A grammar may therefore also say which
texts are a construct with which text after them.

* `Starts`: a construct starts a text.
* `Leftmost`: what the constructs of a text hold, from left to right.
* `LeftAfter`: what is left of a text after its constructs, from left to right.
* `Shape.Recognizes`, `Shape.Delimits`: a shape accepts exactly the constructs of a grammar.
* **`Shape.find?_eq_some_iff`**: a find is the first of its kind.
* **`Shape.Recognizes.leftmost_iff`**: searching for all gives the constructs from left to right.
* **`Shape.Delimits.leftAfter_iff`**: what is left after them is the text after the last find.
-/

namespace LocalizedStrings

variable {α : Type}

/-! ## Grammars -/

/-- A construct of the grammar `G` starts the text. `G a u` says that the text `u` is a construct
that holds `a`. -/
def Starts (G : α → List Char → Prop) (s : List Char) : Prop := ∃ a u, G a u ∧ u <+: s

/-- What the constructs of a text hold, from left to right. A place in the text is given by the text
before it. -/
inductive Leftmost (G : α → List Char → Prop) : List Char → List α → Prop
  /-- No construct starts at any place. -/
  | nil {s : List Char} (none : ∀ q t, s = q ++ t → ¬ Starts G t) : Leftmost G s []
  /-- A construct at the first place where one starts, and those of the text after it. -/
  | cons {q u r : List Char} {a : α} {as : List α} (construct : G a u)
    (first : ∀ q' t, q ++ (u ++ r) = q' ++ t → q'.length < q.length → ¬ Starts G t)
    (others : Leftmost G r as) : Leftmost G (q ++ (u ++ r)) (a :: as)

/-- What is left of a text after its constructs, from left to right. `G u r` says that the text `u`
is a construct where `r` comes after it. -/
inductive LeftAfter (G : List Char → List Char → Prop) : List Char → List Char → Prop
  /-- All of it if no construct starts at any place. -/
  | nil {s : List Char} (none : ∀ q u r, s = q ++ (u ++ r) → ¬ G u r) : LeftAfter G s s
  /-- What is left after a construct at the first place where one starts. -/
  | cons {q u r t : List Char} (construct : G u r)
    (first : ∀ q' u' r', q ++ (u ++ r) = q' ++ (u' ++ r') → q'.length < q.length → ¬ G u' r')
    (others : LeftAfter G r t) : LeftAfter G (q ++ (u ++ r)) t

namespace Shape

variable (p : Shape α)

/-! ## The first find -/

theorem find?_append {q s : List Char}
    (h : ∀ q' t, q ++ s = q' ++ t → q'.length < q.length → p.match? t = none) :
    p.find? (q ++ s) = (p.find? s).map fun f => { f with skipped := q ++ f.skipped } := by
  induction q with
  | nil => simp
  | cons c q ih =>
    have hc : p.match? (c :: (q ++ s)) = none := h [] _ rfl (Nat.zero_lt_succ _)
    have hq := ih fun q' t ht hl => h (c :: q') t (by rw [List.cons_append, ht, List.cons_append])
      (Nat.succ_lt_succ hl)
    rw [List.cons_append, p.find?_cons_of_none hc, hq, Option.map_map]
    rfl

theorem match?_eq_none_of_skipped {s : List Char} {f : Found α} (h : p.find? s = some f)
    {q t : List Char} (hs : s = q ++ t) (hq : q.length < f.skipped.length) :
    p.match? t = none := by
  induction s generalizing f q with
  | nil => cases h
  | cons c s ih =>
    cases hm : p.match? (c :: s) with
    | some m =>
      rw [p.find?_cons_of_some hm] at h
      cases h
      exact absurd hq (Nat.not_lt_zero _)
    | none =>
      rw [p.find?_cons_of_none hm] at h
      obtain ⟨g, hg, rfl⟩ := Option.map_eq_some_iff.1 h
      cases q with
      | nil =>
        cases hs
        exact hm
      | cons d q => exact ih hg (List.cons.inj hs).2 (Nat.lt_of_succ_lt_succ hq)

/-- **A find is the first of its kind.** The construct starts at no place before it. -/
theorem find?_eq_some_iff {s : List Char} {f : Found α} : p.find? s = some f ↔
    (∃ t, s = f.skipped ++ t ∧ p.match? t = some (f.value, f.rest)) ∧
      ∀ q t, s = q ++ t → q.length < f.skipped.length → p.match? t = none := by
  constructor
  · intro h
    obtain ⟨u, -, hs, hm⟩ := p.find?_split h
    exact ⟨⟨u ++ f.rest, by rw [hs, List.append_assoc], hm⟩,
      fun q t => p.match?_eq_none_of_skipped h⟩
  · rintro ⟨⟨t, rfl, hm⟩, hfirst⟩
    obtain ⟨c, t, rfl⟩ : ∃ c t', t = c :: t' := by
      cases t with
      | nil => rw [p.match?_nil] at hm; cases hm
      | cons c t => exact ⟨c, t, rfl⟩
    rw [p.find?_append hfirst, p.find?_cons_of_some hm, Option.map_some, List.append_nil]

theorem find?_eq_none_iff_forall {s : List Char} :
    p.find? s = none ↔ ∀ q t, s = q ++ t → p.match? t = none := by
  rw [p.find?_eq_none_iff]
  constructor
  · rintro hn q t rfl
    rw [← Option.not_isSome_iff_eq_none]
    exact fun hm => hn ⟨t, List.suffix_append q t, hm⟩
  · rintro hn ⟨t, ⟨q, rfl⟩, hm⟩
    rw [hn q t rfl] at hm
    cases hm

/-! ## All finds -/

/-- The shape accepts exactly the constructs of the grammar. -/
def Recognizes (G : α → List Char → Prop) : Prop :=
  ∀ s a r, p.match? s = some (a, r) ↔ ∃ u, G a u ∧ s = u ++ r

namespace Recognizes

variable {p} {G : α → List Char → Prop} (h : p.Recognizes G)

include h

theorem match?_append {a : α} {u : List Char} (hu : G a u) (r : List Char) :
    p.match? (u ++ r) = some (a, r) := (h _ _ _).2 ⟨u, hu, rfl⟩

theorem match?_eq_none_iff {s : List Char} : p.match? s = none ↔ ¬ Starts G s := by
  rw [Option.eq_none_iff_forall_ne_some]
  constructor
  · rintro hn ⟨a, u, hu, r, rfl⟩
    exact hn _ (h.match?_append hu r)
  · rintro hn ⟨a, r⟩ hm
    obtain ⟨u, hu, rfl⟩ := (h _ _ _).1 hm
    exact hn ⟨a, u, hu, List.prefix_append u r⟩

/-- **At most one construct starts a text.** What it holds and where it ends are fixed. -/
theorem unique {a b : α} {u v s : List Char} (hu : G a u) (hv : G b v) (hus : u <+: s)
    (hvs : v <+: s) : a = b ∧ u = v := by
  obtain ⟨r, rfl⟩ := hus
  obtain ⟨r', hr⟩ := hvs
  have hm := h.match?_append hv r'
  rw [hr, h.match?_append hu r] at hm
  obtain ⟨rfl, rfl⟩ := Prod.mk.inj (Option.some.inj hm)
  exact ⟨rfl, (List.append_cancel_right hr).symm⟩

theorem find?_eq_none_iff {s : List Char} :
    p.find? s = none ↔ ∀ q t, s = q ++ t → ¬ Starts G t := by
  simp only [p.find?_eq_none_iff_forall, h.match?_eq_none_iff]

/-- **Searching for all gives the constructs from left to right.** -/
theorem leftmost_iff {s : List Char} {as : List α} :
    Leftmost G s as ↔ as = (p.findAll s).map Found.value := by
  constructor
  · intro hl
    induction hl with
    | nil hn => rw [p.findAll_of_none (h.find?_eq_none_iff.2 hn), List.map_nil]
    | @cons q u r a as hu hfirst _ ih =>
      have hf : p.find? (q ++ (u ++ r)) = some ⟨q, a, r⟩ := p.find?_eq_some_iff.2
        ⟨⟨u ++ r, rfl, h.match?_append hu r⟩,
          fun q' t ht hq => h.match?_eq_none_iff.2 (hfirst q' t ht hq)⟩
      rw [p.findAll_of_some hf, List.map_cons, ih]
  · rintro rfl
    fun_induction findAll p s with
    | case1 s hn => exact .nil (h.find?_eq_none_iff.1 hn)
    | case2 s f hf ih =>
      obtain ⟨⟨t, rfl, hm⟩, hfirst⟩ := p.find?_eq_some_iff.1 hf
      obtain ⟨u, hu, rfl⟩ := (h _ _ _).1 hm
      exact .cons hu (fun q t ht hq => h.match?_eq_none_iff.1 (hfirst q t ht hq)) ih

end Recognizes

/-! ## After the last find -/

/-- The shape accepts exactly the constructs of the grammar, where their rest comes after them. -/
def Delimits (G : List Char → List Char → Prop) : Prop :=
  ∀ s r, (∃ a, p.match? s = some (a, r)) ↔ ∃ u, G u r ∧ s = u ++ r

variable {p}

/-- The rest does not matter where a construct is told by its text. -/
theorem Recognizes.delimits {G : α → List Char → Prop} (h : p.Recognizes G) :
    p.Delimits fun u _ => ∃ a, G a u := by
  intro s r
  simp only [h s _ r]
  constructor
  · rintro ⟨a, u, hu, hs⟩
    exact ⟨u, ⟨a, hu⟩, hs⟩
  · rintro ⟨u, ⟨a, hu⟩, hs⟩
    exact ⟨a, u, hu, hs⟩

namespace Delimits

variable {G : List Char → List Char → Prop} (h : p.Delimits G)

include h

theorem match?_eq_none_iff {s : List Char} :
    p.match? s = none ↔ ∀ u r, s = u ++ r → ¬ G u r := by
  rw [Option.eq_none_iff_forall_ne_some]
  constructor
  · intro hn u r hs hu
    obtain ⟨a, hm⟩ := (h s r).2 ⟨u, hu, hs⟩
    exact hn _ hm
  · rintro hn ⟨a, r⟩ hm
    obtain ⟨u, hu, hs⟩ := (h s r).1 ⟨a, hm⟩
    exact hn u r hs hu

theorem find?_eq_none_iff {s : List Char} :
    p.find? s = none ↔ ∀ q u r, s = q ++ (u ++ r) → ¬ G u r := by
  simp only [p.find?_eq_none_iff_forall, h.match?_eq_none_iff]
  exact ⟨fun hn q u r hs => hn q _ hs u r rfl, fun hn q t hs u r ht => hn q u r (ht ▸ hs)⟩

/-- **What is left after the constructs is the text after the last find.** -/
theorem leftAfter_iff {s t : List Char} : LeftAfter G s t ↔ t = p.afterAll s := by
  constructor
  · intro hl
    induction hl with
    | nil hn => rw [p.afterAll_of_none (h.find?_eq_none_iff.2 hn)]
    | @cons q u r t hu hfirst _ ih =>
      obtain ⟨a, hm⟩ := (h _ r).2 ⟨u, hu, rfl⟩
      have hf : p.find? (q ++ (u ++ r)) = some ⟨q, a, r⟩ := by
        refine p.find?_eq_some_iff.2 ⟨⟨u ++ r, rfl, hm⟩, fun q' t ht hq => ?_⟩
        exact h.match?_eq_none_iff.2 fun u' r' hs => hfirst q' u' r' (hs ▸ ht) hq
      rw [p.afterAll_of_some hf, ih]
  · rintro rfl
    fun_induction findAll p s with
    | case1 s hn =>
      rw [p.afterAll_of_none hn]
      exact .nil (h.find?_eq_none_iff.1 hn)
    | case2 s f hf ih =>
      obtain ⟨⟨t, hs, hm⟩, hfirst⟩ := p.find?_eq_some_iff.1 hf
      obtain ⟨u, hu, rfl⟩ := (h _ _).1 ⟨_, hm⟩
      rw [p.afterAll_of_some hf, hs]
      refine .cons hu (fun q u' r' hq hl => ?_) ih
      exact h.match?_eq_none_iff.1 (hfirst q _ (hs.trans hq) hl) u' r' rfl

end Delimits

end Shape

end LocalizedStrings
