import LocalizedStrings.Text

/-!
# Leftmost search

A `Shape` recognises one construct at the start of a text and is never empty. Searching looks for
the first place where the construct starts, and searching for all resumes right after each find.

* `Shape.find?`: the leftmost construct, with the text skipped before it and the text after it.
* `Shape.findAll`: all of them, left to right, none overlapping another.
* `Shape.spans`: the same, with their places in bytes.
* **`Shape.find?_split`**: a find splits the text into what is skipped, a non-empty construct and
  the rest.
-/

namespace LocalizedStrings

open Text

/-- A construct that is recognised at the start of a text. -/
structure Shape (α : Type) where
  /-- What the construct holds, and the text after it. -/
  match? : List Char → Option (α × List Char)
  /-- The construct is not empty, and the rest is what follows it. -/
  progress : ∀ {s a r}, match? s = some (a, r) → ∃ u, u ≠ [] ∧ s = u ++ r

/-- A construct found in a text. -/
structure Found (α : Type) where
  /-- The text before it. -/
  skipped : List Char
  /-- What it holds. -/
  value : α
  /-- The text after it. -/
  rest : List Char

/-- The place of a construct in a text, in bytes from the start of the text. -/
structure Span (α : Type) where
  start : Nat
  stop : Nat
  value : α

namespace Shape

variable {α : Type} (p : Shape α)

/-- The construct that starts first in the text. -/
def find? : List Char → Option (Found α)
  | [] => none
  | c :: s => match p.match? (c :: s) with
    | some (a, r) => some ⟨[], a, r⟩
    | none => (find? s).map fun f => { f with skipped := c :: f.skipped }

/-- **A find splits the text** into what is skipped, the construct and the rest. -/
theorem find?_split {s : List Char} {f : Found α} (h : p.find? s = some f) :
    ∃ u, u ≠ [] ∧ s = f.skipped ++ u ++ f.rest ∧
      p.match? (u ++ f.rest) = some (f.value, f.rest) := by
  induction s generalizing f with
  | nil => simp [find?] at h
  | cons c s ih =>
    rw [find?] at h
    split at h
    · next a r hm =>
      obtain ⟨u, hu, hs⟩ := p.progress hm
      cases h
      exact ⟨u, hu, by simp [hs], by rw [← hs, hm]⟩
    · obtain ⟨g, hg, rfl⟩ := Option.map_eq_some_iff.1 h
      obtain ⟨u, hu, hs, hm⟩ := ih hg
      exact ⟨u, hu, by simp [hs], hm⟩

theorem length_rest_lt {s : List Char} {f : Found α} (h : p.find? s = some f) :
    f.rest.length < s.length := by
  obtain ⟨u, hu, hs, _⟩ := p.find?_split h
  have := List.length_pos_iff.2 hu
  rw [hs, List.length_append, List.length_append]
  omega

/-- All constructs of the text, each search resuming right after the find before. -/
def findAll (s : List Char) : List (Found α) :=
  match _h : p.find? s with
  | none => []
  | some f => f :: findAll f.rest
termination_by s.length
decreasing_by exact p.length_rest_lt ‹_›

theorem findAll_of_none {s : List Char} (h : p.find? s = none) : p.findAll s = [] := by
  rw [findAll]; split <;> simp_all

theorem findAll_of_some {s : List Char} {f : Found α} (h : p.find? s = some f) :
    p.findAll s = f :: p.findAll f.rest := by
  rw [findAll]; split <;> simp_all

/-- Each find is a construct of the text, followed by the rest of the text. -/
theorem mem_findAll {s : List Char} {f : Found α} (h : f ∈ p.findAll s) :
    ∃ t u, s = t ++ u ++ f.rest ∧ p.match? (u ++ f.rest) = some (f.value, f.rest) := by
  fun_induction findAll p s with
  | case1 => simp at h
  | case2 s g hg ih =>
    obtain ⟨v, -, hs, hv⟩ := p.find?_split hg
    rcases List.mem_cons.1 h with rfl | h
    · exact ⟨f.skipped, v, hs, hv⟩
    · obtain ⟨t, u, ht, hu⟩ := ih h
      exact ⟨g.skipped ++ v ++ t, u, by rw [hs, ht]; simp only [List.append_assoc], hu⟩

/-- The places of successive finds in a text of `size` bytes, of which `done` are behind. -/
def spansFrom (size : Nat) : Nat → List (Found α) → List (Span α)
  | _, [] => []
  | done, f :: fs =>
    ⟨done + byteSize f.skipped, size - byteSize f.rest, f.value⟩ ::
      spansFrom size (size - byteSize f.rest) fs

/-- The places of all constructs of the text. -/
def spans (s : List Char) : List (Span α) := spansFrom (byteSize s) 0 (p.findAll s)

end Shape

end LocalizedStrings
