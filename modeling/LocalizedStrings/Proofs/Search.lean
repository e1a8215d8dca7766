import LocalizedStrings.Search
import Mathlib.Data.List.Infix

/-!
# What searching finds

Whether a construct starts at some place of a text depends on what follows this place alone. So what
a text does not hold, no rest of it holds either, and searching for all leaves a rest without the
construct.

* `Shape.OccursIn`: the construct starts somewhere in the text.
* `Shape.find?_eq_none_iff`: searching misses nothing.
* `Shape.places`: what all constructs of a text hold, each with the text after it.
* `Shape.afterAll`: the text after the last construct.
* **`Shape.find?_afterAll`**: this text does not hold the construct.
* **`Shape.afterAll_suffix_rest`**: it comes after each construct.
-/

namespace LocalizedStrings.Shape

variable {α : Type} (p : Shape α)

/-- The construct starts somewhere in the text. -/
def OccursIn (s : List Char) : Prop := ∃ u, u <:+ s ∧ (p.match? u).isSome

theorem OccursIn.of_suffix {u s : List Char} (h : u <:+ s) (hu : p.OccursIn u) : p.OccursIn s := by
  obtain ⟨v, hv, hm⟩ := hu
  exact ⟨v, hv.trans h, hm⟩

theorem match?_nil : p.match? [] = none := by
  cases h : p.match? [] with
  | none => rfl
  | some m =>
    obtain ⟨u, hu, hs⟩ := p.progress h
    exact absurd (List.append_eq_nil_iff.1 hs.symm).1 hu

theorem find?_cons_of_none {c : Char} {s : List Char} (h : p.match? (c :: s) = none) :
    p.find? (c :: s) = (p.find? s).map fun f => { f with skipped := c :: f.skipped } := by
  rw [find?, h]

theorem find?_cons_of_some {c : Char} {s r : List Char} {a : α}
    (h : p.match? (c :: s) = some (a, r)) : p.find? (c :: s) = some ⟨[], a, r⟩ := by
  rw [find?, h]

/-- **Searching misses nothing.** -/
theorem find?_eq_none_iff {s : List Char} : p.find? s = none ↔ ¬ p.OccursIn s := by
  induction s with
  | nil =>
    refine ⟨fun _ => ?_, fun _ => rfl⟩
    rintro ⟨u, hu, hm⟩
    rw [List.suffix_nil.1 hu, p.match?_nil] at hm
    cases hm
  | cons c s ih =>
    cases h : p.match? (c :: s) with
    | none =>
      rw [p.find?_cons_of_none h, Option.map_eq_none_iff, ih]
      refine not_congr ⟨OccursIn.of_suffix p (List.suffix_cons c s), ?_⟩
      rintro ⟨u, hu, hm⟩
      rcases List.suffix_cons_iff.1 hu with rfl | hu
      · rw [h] at hm
        cases hm
      · exact ⟨u, hu, hm⟩
    | some m =>
      have ho : p.OccursIn (c :: s) := ⟨c :: s, List.suffix_rfl, by rw [h]; rfl⟩
      rw [p.find?_cons_of_some h]
      exact ⟨nofun, fun hn => absurd ho hn⟩

theorem find?_eq_none_of_suffix {u s : List Char} (h : u <:+ s) (hs : p.find? s = none) :
    p.find? u = none := by
  rw [find?_eq_none_iff] at hs ⊢
  exact fun hu => hs (hu.of_suffix p h)

theorem rest_suffix {s : List Char} {f : Found α} (h : p.find? s = some f) : f.rest <:+ s := by
  obtain ⟨u, -, hs, -⟩ := p.find?_split h
  exact ⟨f.skipped ++ u, hs.symm⟩

/-! ## Places -/

/-- What the constructs of the text hold, each with the text after it. A place in a text is given by
the text after it. -/
def places (s : List Char) : List (α × List Char) := (p.findAll s).map fun f => (f.value, f.rest)

theorem places_of_none {s : List Char} (h : p.find? s = none) : p.places s = [] := by
  rw [places, p.findAll_of_none h, List.map_nil]

theorem places_of_some {s : List Char} {f : Found α} (h : p.find? s = some f) :
    p.places s = (f.value, f.rest) :: p.places f.rest := by
  rw [places, p.findAll_of_some h]
  rfl

theorem places_cons_of_none {c : Char} {s : List Char} (h : p.match? (c :: s) = none) :
    p.places (c :: s) = p.places s := by
  have hf := p.find?_cons_of_none h
  cases hs : p.find? s with
  | none =>
    rw [hs] at hf
    rw [p.places_of_none hs, p.places_of_none hf]
  | some f =>
    rw [hs] at hf
    rw [p.places_of_some hs, p.places_of_some hf]

theorem places_cons_of_some {c : Char} {s r : List Char} {a : α}
    (h : p.match? (c :: s) = some (a, r)) : p.places (c :: s) = (a, r) :: p.places r :=
  p.places_of_some (p.find?_cons_of_some h)

theorem mem_places {s : List Char} {q : α × List Char} (h : q ∈ p.places s) :
    ∃ t u, s = t ++ u ++ q.2 ∧ p.match? (u ++ q.2) = some q := by
  obtain ⟨f, hf, rfl⟩ := List.mem_map.1 h
  exact p.mem_findAll hf

/-! ## After the last construct -/

/-- The text after the last construct, or all of it if there is none. -/
def afterAll (s : List Char) : List Char :=
  match (p.findAll s).getLast? with
  | some f => f.rest
  | none => s

theorem afterAll_of_none {s : List Char} (h : p.find? s = none) : p.afterAll s = s := by
  rw [afterAll, p.findAll_of_none h]
  rfl

theorem afterAll_of_some {s : List Char} {f : Found α} (h : p.find? s = some f) :
    p.afterAll s = p.afterAll f.rest := by
  rw [afterAll, p.findAll_of_some h, List.getLast?_cons, afterAll]
  cases (p.findAll f.rest).getLast? <;> rfl

/-- **After the last construct there is none.** -/
theorem find?_afterAll (s : List Char) : p.find? (p.afterAll s) = none := by
  fun_induction findAll p s with
  | case1 s h =>
    rw [p.afterAll_of_none h]
    exact h
  | case2 s f h ih =>
    rw [p.afterAll_of_some h]
    exact ih

theorem afterAll_suffix (s : List Char) : p.afterAll s <:+ s := by
  fun_induction findAll p s with
  | case1 s h =>
    rw [p.afterAll_of_none h]
  | case2 s f h ih =>
    rw [p.afterAll_of_some h]
    exact ih.trans (p.rest_suffix h)

/-- **The text after the last construct comes after each construct.** -/
theorem afterAll_suffix_rest {s : List Char} {f : Found α} (h : f ∈ p.findAll s) :
    p.afterAll s <:+ f.rest := by
  fun_induction findAll p s with
  | case1 => cases h
  | case2 s g hg ih =>
    rw [p.afterAll_of_some hg]
    rcases List.mem_cons.1 h with rfl | h
    · exact p.afterAll_suffix f.rest
    · exact ih h

end LocalizedStrings.Shape
