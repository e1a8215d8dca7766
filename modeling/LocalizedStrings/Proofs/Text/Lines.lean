import LocalizedStrings.Text
import Mathlib.Data.List.Basic

/-!
# Texts put together from lines

A line feed between two texts ends the last line of the first one, even if this line is empty, and
takes a carriage return at its end away. A scanner of single lines that finds the same with and
without this carriage return, and nothing in an empty line, cannot tell the difference. It then
scans the two texts one after the other, and the kind of the line ends does not matter to it.

* `linesAfter_append`, `length_linesAfter`: the lines of a text up to a line feed.
* `crlf`: a text with a carriage return before each line feed.
* `IgnoresReturn`: the scanner cannot tell the difference.
* **`onLines_append`**: two texts with a line feed between them.
* **`onLines_crlf`**: carriage returns before the line feeds.
-/

namespace LocalizedStrings.Text

theorem linesAfter_append (line a b : List Char) :
    linesAfter line (a ++ '\n' :: b) = linesAfter line (a ++ ['\n']) ++ lines b := by
  induction a generalizing line with
  | nil => simp [linesAfter_lineFeed]
  | cons c a ih =>
    by_cases hc : c = '\n'
    · subst hc
      simp only [List.cons_append, linesAfter_lineFeed]
      rw [lines, lines, ih, lines]
    · simp only [List.cons_append, linesAfter_cons hc, ih]

/-- Each line feed ends one line. -/
theorem length_linesAfter (line a : List Char) :
    (linesAfter line (a ++ ['\n'])).length = a.count '\n' + 1 := by
  induction a generalizing line with
  | nil => simp [linesAfter_lineFeed]
  | cons c a ih =>
    by_cases hc : c = '\n'
    · subst hc
      rw [List.cons_append, linesAfter_lineFeed, List.length_cons, lines, ih, List.count_cons_self]
    · rw [List.cons_append, linesAfter_cons hc, ih, List.count_cons_of_ne hc]

/-- The text with a carriage return before each line feed. -/
def crlf (s : List Char) : List Char := s.flatMap fun c => if c = '\n' then ['\r', '\n'] else [c]

theorem crlf_lineFeed (s : List Char) : crlf ('\n' :: s) = '\r' :: '\n' :: crlf s := rfl

theorem crlf_cons {c : Char} (h : c ≠ '\n') (s : List Char) : crlf (c :: s) = c :: crlf s := by
  rw [crlf, List.flatMap_cons, if_neg h]
  rfl

/-! ## Scanners of single lines -/

variable {α : Type}

/-- The scanner finds nothing in an empty line, and the same in a line with and without a carriage
return at its end. -/
structure IgnoresReturn (scan : List Char → Nat → List α) : Prop where
  empty : ∀ n, scan [] n = []
  carriageReturn : ∀ l n, '\n' ∉ l → scan (l ++ ['\r']) n = scan l n

/-- What the scanner finds in lines that are numbered from `n`. -/
def onLinesFrom (scan : List Char → Nat → List α) (n : Nat) (ls : List (List Char)) : List α :=
  (ls.zipIdx n).flatMap fun p => scan p.1 p.2

theorem onLines_eq (scan : List Char → Nat → List α) (s : List Char) :
    onLines scan s = onLinesFrom scan 1 (lines s) := rfl

theorem onLinesFrom_cons (scan : List Char → Nat → List α) (n : Nat) (l : List Char)
    (ls : List (List Char)) :
    onLinesFrom scan n (l :: ls) = scan l n ++ onLinesFrom scan (n + 1) ls := rfl

theorem onLinesFrom_append (scan : List Char → Nat → List α) (n : Nat) (ls ms : List (List Char)) :
    onLinesFrom scan n (ls ++ ms) =
      onLinesFrom scan n ls ++ onLinesFrom scan (n + ls.length) ms := by
  rw [onLinesFrom, List.zipIdx_append, List.flatMap_append]
  rfl

/-- Lines with higher numbers are scanned with higher numbers. -/
theorem onLinesFrom_add (scan : List Char → Nat → List α) (n k : Nat) (ls : List (List Char)) :
    onLinesFrom scan (n + k) ls = onLinesFrom (fun l m => scan l (m + k)) n ls := by
  induction ls generalizing n with
  | nil => rfl
  | cons l ls ih =>
    rw [onLinesFrom_cons, onLinesFrom_cons, ← ih (n + 1), Nat.add_right_comm]

namespace IgnoresReturn

variable {scan : List Char → Nat → List α} (h : IgnoresReturn scan)

include h

theorem scan_chomp {line : List Char} (hline : '\n' ∉ line) (n : Nat) :
    scan (chomp line).reverse n = scan line.reverse n := by
  unfold chomp
  split
  · next l =>
    rw [List.reverse_cons]
    exact (h.carriageReturn l.reverse n fun hm => hline (by simp at hm; simp [hm])).symm
  · rfl

/-- A line feed at the end does not matter, whether it ends the last line or an empty one. -/
theorem onLinesFrom_lineFeed {line : List Char} (hline : '\n' ∉ line) (n : Nat) (a : List Char) :
    onLinesFrom scan n (linesAfter line (a ++ ['\n'])) =
      onLinesFrom scan n (linesAfter line a) := by
  induction a generalizing line n with
  | nil =>
    rw [List.nil_append, linesAfter_lineFeed, onLinesFrom_cons, h.scan_chomp hline, linesAfter]
    cases line with
    | nil => exact congrArg (· ++ []) (h.empty n)
    | cons c line => rfl
  | cons c a ih =>
    by_cases hc : c = '\n'
    · subst hc
      rw [List.cons_append, linesAfter_lineFeed, linesAfter_lineFeed, onLinesFrom_cons,
        onLinesFrom_cons, lines, lines, ih List.not_mem_nil]
    · have hm : '\n' ∉ c :: line := by simp [hline, Ne.symm hc]
      rw [List.cons_append, linesAfter_cons hc, linesAfter_cons hc, ih hm]

theorem onLinesFrom_crlf {line : List Char} (hline : '\n' ∉ line) (n : Nat) (s : List Char) :
    onLinesFrom scan n (linesAfter line (crlf s)) = onLinesFrom scan n (linesAfter line s) := by
  induction s generalizing line n with
  | nil => rfl
  | cons c s ih =>
    by_cases hc : c = '\n'
    · subst hc
      have hr : '\r' ≠ '\n' := by decide
      rw [crlf_lineFeed, linesAfter_cons hr, linesAfter_lineFeed, linesAfter_lineFeed,
        onLinesFrom_cons, onLinesFrom_cons, lines, lines, ih List.not_mem_nil, h.scan_chomp hline]
      rfl
    · have hm : '\n' ∉ c :: line := by simp [hline, Ne.symm hc]
      rw [crlf_cons hc, linesAfter_cons hc, linesAfter_cons hc, ih hm]

/-- **Two texts with a line feed between them** are scanned one after the other. -/
theorem onLines_append (a b : List Char) :
    onLines scan (a ++ '\n' :: b) =
      onLines scan a ++ onLines (fun l n => scan l (n + (1 + a.count '\n'))) b := by
  simp only [onLines_eq]
  rw [lines, linesAfter_append, onLinesFrom_append, h.onLinesFrom_lineFeed List.not_mem_nil,
    length_linesAfter, onLinesFrom_add, Nat.add_comm (a.count '\n')]
  rfl

/-- **Carriage returns before the line feeds** do not matter. -/
theorem onLines_crlf (s : List Char) : onLines scan (crlf s) = onLines scan s :=
  h.onLinesFrom_crlf List.not_mem_nil 1 s

end IgnoresReturn

end LocalizedStrings.Text
