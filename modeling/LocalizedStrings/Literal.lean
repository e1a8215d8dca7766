import LocalizedStrings.Entry

/-!
# Literals that are not localized

A literal is a quoted text with some character outside ASCII that no localization call, `print` or
comment accounts for. A line is read from left to right. As long as the rest of it holds a
localization call, the first one is skipped with all that stands before it; if it holds none, then
so is the first `print`, and else the first comment. Only in a rest that holds none of the three are
quoted texts taken.

* `Literal.step?`: what the next step takes from the rest of a line.
* `Literal.textsOf`: the texts that are reported, left to right.
* `Literal.ofLine`, `Literal.ofText`: the literals of a line and of a whole text.
* **`Literal.Step.length_rest_lt`**: each step moves on.
-/

namespace LocalizedStrings

open Source

/-- A quoted text at a line of a file that is not localized. -/
structure Literal where
  text : String
  file : String
  line : Nat
  deriving DecidableEq, Repr

namespace Literal

instance : Record Literal where
  file := file
  line := line
  payload := text

/-- The form `text,file,line`. -/
def display (l : Literal) : String := l.text ++ "," ++ l.file ++ "," ++ toString l.line

/-- The text after the first call, else after the first `print`, else after the first comment. -/
def skip? (s : List Char) : Option (List Char) :=
  ((call.find? s).map Found.rest).or
    (((printing.find? s).map Found.rest).or ((lineComment.find? s).map Found.rest))

/-- What one step takes from the rest of a line. -/
inductive Step where
  /-- A construct that is no literal, with what stands before it. -/
  | skipped (rest : List Char)
  /-- A quoted text, with what stands before it. -/
  | quoted (text rest : List Char)

/-- What is left of the line after a step. -/
def Step.rest : Step → List Char
  | skipped rest => rest
  | quoted _ rest => rest

/-- The next step, if there is one. -/
def step? (s : List Char) : Option Step :=
  match skip? s with
  | some rest => some (.skipped rest)
  | none => (Source.quoted.find? s).map fun f => .quoted f.value f.rest

theorem length_lt_of_skip? {s r : List Char} (h : skip? s = some r) : r.length < s.length := by
  simp only [skip?, Option.or_eq_some_iff, Option.map_eq_some_iff, Option.map_eq_none_iff] at h
  rcases h with ⟨f, hf, rfl⟩ | ⟨-, ⟨f, hf, rfl⟩ | ⟨-, f, hf, rfl⟩⟩
  · exact call.length_rest_lt hf
  · exact printing.length_rest_lt hf
  · exact lineComment.length_rest_lt hf

/-- **Each step moves on.** -/
theorem Step.length_rest_lt {s : List Char} {t : Step} (h : step? s = some t) :
    t.rest.length < s.length := by
  unfold step? at h
  split at h
  · next hr => cases h; exact length_lt_of_skip? hr
  · obtain ⟨f, hf, rfl⟩ := Option.map_eq_some_iff.1 h
    exact Source.quoted.length_rest_lt hf

/-- The multibyte texts that a line quotes and does not localize, left to right. -/
def textsOf (s : List Char) : List (List Char) :=
  match _h : step? s with
  | none => []
  | some (.skipped rest) => textsOf rest
  | some (.quoted text rest) =>
    if Text.isMultibyte text then text :: textsOf rest else textsOf rest
termination_by s.length
decreasing_by all_goals exact Step.length_rest_lt ‹_›

/-- The literals of one line, left to right. -/
def ofLine (file : String) (line : List Char) (n : Nat) : List Literal :=
  (textsOf line).map fun text => ⟨String.ofList text, file, n⟩

/-- The literals of a text, line by line. -/
def ofText (file : String) (text : List Char) : List Literal := Text.onLines (ofLine file) text

end Literal

end LocalizedStrings
