/-!
# Texts

A text is a list of characters while it is read, and a string else.

A line ends at a line feed, which is not part of it, nor is one carriage return just before it.
A text that ends in a line feed has no further empty line after it, and a carriage return that
no line feed follows belongs to its line.

* `between`, `Ranges.holds`: whether a character is in a range, or in one of some ranges.
* `isBlank`: the Unicode property `White_Space`, as its ranges.
* `trim`: a text without the blanks at its two ends.
* `byteSize`: how many bytes a text takes in UTF-8.
* `isMultibyte`: whether it takes more bytes than it has characters.
* **`isMultibyte_iff`**: that is so exactly if some character is outside ASCII.
* `utf8Le`: the order of texts by their bytes.
* `lines`, `numbered`: the lines of a text, and the same with their numbers, from 1.
* `onLines`: what a scanner of single lines finds in a whole text.
-/

namespace LocalizedStrings.Text

/-! ## Sets of characters -/

/-- The code point of the character is between two others. -/
def between (c : Char) (a b : Nat) : Bool := a ≤ c.toNat && c.toNat ≤ b

/-- A set of characters, as ranges of code points with both ends. -/
abbrev Ranges : Type := List (Nat × Nat)

/-- The character is in one of the ranges. -/
def Ranges.holds (ranges : Ranges) (c : Char) : Bool :=
  ranges.any fun r => between c r.1 r.2

/-! ## Blanks -/

/-- The Unicode property `White_Space`. -/
def isBlank (c : Char) : Bool :=
  (0x09 ≤ c.toNat && c.toNat ≤ 0x0D) || c.toNat == 0x20 || c.toNat == 0x85 || c.toNat == 0xA0 ||
    c.toNat == 0x1680 || (0x2000 ≤ c.toNat && c.toNat ≤ 0x200A) || c.toNat == 0x2028 ||
    c.toNat == 0x2029 || c.toNat == 0x202F || c.toNat == 0x205F || c.toNat == 0x3000

/-- The text without its leading and trailing blanks. -/
def trim (s : List Char) : List Char :=
  ((s.dropWhile isBlank).reverse.dropWhile isBlank).reverse

/-- A quote is no blank. -/
theorem isBlank_quote : isBlank '"' = false := by decide

/-! ## Bytes -/

/-- The number of bytes of a text in UTF-8. -/
def byteSize (s : List Char) : Nat := s.foldr (fun c n => c.utf8Size + n) 0

/-- Whether the text takes more bytes than it has characters. -/
def isMultibyte (s : List Char) : Bool := s.length < byteSize s

/-- The text `a` comes no later than `b`, byte by byte. -/
def utf8Le (a b : String) : Bool := decide (a.toByteArray.data.toList ≤ b.toByteArray.data.toList)

theorem utf8Le_total (a b : String) : (utf8Le a b || utf8Le b a) = true := by
  simp only [utf8Le, Bool.or_eq_true, decide_eq_true_eq]
  exact List.le_total _ _

theorem utf8Le_trans {a b c : String} (hab : utf8Le a b = true) (hbc : utf8Le b c = true) :
    utf8Le a c = true := by
  simp only [utf8Le, decide_eq_true_eq] at *
  exact List.le_trans hab hbc

theorem utf8Le_antisymm {a b : String} (hab : utf8Le a b = true) (hba : utf8Le b a = true) :
    a = b := by
  simp only [utf8Le, decide_eq_true_eq] at *
  exact String.toByteArray_inj.1 (ByteArray.ext (Array.toList_inj.1 (List.le_antisymm hab hba)))

@[simp] theorem byteSize_nil : byteSize [] = 0 := rfl

@[simp] theorem byteSize_cons (c : Char) (s : List Char) :
    byteSize (c :: s) = c.utf8Size + byteSize s := rfl

@[simp] theorem byteSize_append (s t : List Char) :
    byteSize (s ++ t) = byteSize s + byteSize t := by
  induction s with
  | nil => simp
  | cons c s ih => rw [List.cons_append, byteSize_cons, byteSize_cons, ih, Nat.add_assoc]

theorem length_le_byteSize (s : List Char) : s.length ≤ byteSize s := by
  induction s with
  | nil => simp
  | cons c s ih => simp only [List.length_cons, byteSize_cons]; have := c.utf8Size_pos; omega

/-- A character takes one byte exactly if it is in ASCII. -/
theorem one_lt_utf8Size_iff (c : Char) : 1 < c.utf8Size ↔ 127 < c.toNat := by
  have h : c.toNat = c.val.toNat := rfl
  unfold Char.utf8Size
  simp only [UInt32.le_iff_toNat_le, UInt32.toNat_ofNatLT, h]
  repeat' split
  all_goals omega

theorem length_lt_byteSize_iff (s : List Char) :
    s.length < byteSize s ↔ ∃ c ∈ s, 127 < c.toNat := by
  induction s with
  | nil => simp
  | cons c s ih =>
    have h1 := c.utf8Size_pos
    have h2 := length_le_byteSize s
    have h3 := one_lt_utf8Size_iff c
    simp only [List.length_cons, byteSize_cons, List.mem_cons, exists_eq_or_imp]
    constructor
    · intro h
      by_cases hc : 127 < c.toNat
      · exact Or.inl hc
      · exact Or.inr (ih.1 (by omega))
    · rintro (hc | hs)
      · have := h3.2 hc; omega
      · have := ih.2 hs; omega

/-- **A text is multibyte exactly if some character is outside ASCII.** -/
theorem isMultibyte_iff {s : List Char} : isMultibyte s = true ↔ ∃ c ∈ s, 127 < c.toNat := by
  rw [isMultibyte, decide_eq_true_eq]
  exact length_lt_byteSize_iff s

/-! ## Lines -/

/-- The line before a line feed, given backwards: less one carriage return at its end. -/
def chomp : List Char → List Char
  | '\r' :: line => line
  | line => line

/-- The lines of a text of which `line` was read already, backwards. -/
def linesAfter (line : List Char) : List Char → List (List Char)
  | [] => if line.isEmpty then [] else [line.reverse]
  | c :: s => if c = '\n' then (chomp line).reverse :: linesAfter [] s else linesAfter (c :: line) s

/-- The lines of a text. -/
def lines (s : List Char) : List (List Char) := linesAfter [] s

/-- The lines of a text, numbered from 1. -/
def numbered (s : List Char) : List (List Char × Nat) := (lines s).zipIdx 1

/-- What `scan` finds in each line, given the line and its number, in order. -/
def onLines {α : Type} (scan : List Char → Nat → List α) (s : List Char) : List α :=
  (numbered s).flatMap fun p => scan p.1 p.2

@[simp] theorem lines_nil : lines [] = [] := rfl

theorem linesAfter_lineFeed (line s : List Char) :
    linesAfter line ('\n' :: s) = (chomp line).reverse :: lines s := by
  simp [linesAfter, lines]

theorem linesAfter_cons {c : Char} (h : c ≠ '\n') (line s : List Char) :
    linesAfter line (c :: s) = linesAfter (c :: line) s := by
  simp [linesAfter, h]

end LocalizedStrings.Text
