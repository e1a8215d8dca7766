import LocalizedStrings.Text.Width
import Mathlib.Tactic.SplitIfs

/-!
# Columns of a text

Some characters take a column back that another one to their right has added. This column is in
reserve as long as such a character can follow, so that no text comes to less than nothing. Spaces
at the end of a text form a shape with nothing, and each of them adds a column.

* `Ranges.isDisjoint`: two sets of characters have none in common.
* `Shape.reserve`: the columns that a shape can give back.
* `reserve_sequence?`, **`reserve_step`**: a character takes no more columns back than there are.
* **`measure_nonneg`**: no text takes less than no column.
* **`width_append_spaces`**: spaces at the end of a text.
-/

namespace LocalizedStrings.Text

/-! ## Sets of characters -/

/-- No range of one set meets a range of the other. -/
def Ranges.isDisjoint (a b : Ranges) : Bool :=
  a.all fun r => b.all fun q => r.2 < q.1 || q.2 < r.1

theorem Ranges.holds_eq_false_of_isDisjoint {a b : Ranges} (h : a.isDisjoint b = true) {c : Char}
    (hc : a.holds c = true) : b.holds c = false := by
  obtain ⟨r, hr, hrc⟩ := List.any_eq_true.1 hc
  refine List.any_eq_false.2 fun q hq hqc => ?_
  have hrq := List.all_eq_true.1 (List.all_eq_true.1 h r hr) q hq
  simp only [between, Bool.and_eq_true, Bool.or_eq_true, decide_eq_true_eq] at hrc hqc hrq
  omega

namespace Width

theorem zeroWidth_of_isKhmerLetter {c : Char} (h : isKhmerLetter c = true) :
    Table.zeroWidth.holds c = false :=
  Ranges.holds_eq_false_of_isDisjoint (by decide +kernel) h

/-! ## Columns in reserve -/

/-- The columns that the shape can give back to a character on its left. -/
def Shape.reserve : Shape → Int
  | khmerLetter | tifinaghJoiner | oddRegionsJoined _ => 1
  | _ => 0

theorem Shape.reserve_nonneg (s : Shape) : 0 ≤ s.reserve := by
  unfold reserve
  split <;> decide

theorem Shape.reserve_withJoiner (s : Shape) : s.withJoiner.reserve = s.reserve := by
  cases s <;> rfl

theorem columns_nonneg (c : Char) : 0 ≤ columns c := by
  unfold columns
  split_ifs <;> decide

theorem one_le_columns {c : Char} (h : Table.zeroWidth.holds c = false) : 1 ≤ columns c := by
  simp only [columns, h, Bool.false_eq_true, if_false]
  split_ifs <;> decide

theorem Shape.reserve_le_one (s : Shape) : s.reserve ≤ 1 := by
  unfold reserve
  split <;> decide

theorem reserve_shapeOf_of_not {c : Char} (h : isKhmerLetter c = false) :
    (shapeOf c).reserve = 0 := by
  simp only [shapeOf, h, Bool.false_eq_true, if_false, apply_ite Shape.reserve]
  simp only [Shape.reserve, ite_self]

/-- The only letters with a column in reserve have a column of their own. -/
theorem reserve_shapeOf (c : Char) : (shapeOf c).reserve ≤ columns c := by
  cases h : isKhmerLetter c with
  | true =>
    have hle := (shapeOf c).reserve_le_one
    have hone := one_le_columns (zeroWidth_of_isKhmerLetter h)
    omega
  | false =>
    rw [reserve_shapeOf_of_not h]
    exact columns_nonneg c

theorem reserve_tagStep? {n : Nat} {digits : Bool} {c : Char} {k : Int} {s : Shape}
    (h : tagStep? n digits c = some (k, s)) : s.reserve ≤ k := by
  unfold tagStep? at h
  split_ifs at h <;> cases h <;> exact Int.le_refl 0

/-- A character that joins a shape takes no more columns back than this shape has in reserve. -/
theorem reserve_sequence? {c : Char} {s s' : Shape} {n : Int} (h : sequence? c s = some (n, s')) :
    s'.reserve ≤ n + s.reserve := by
  cases s with
  | tagLettersJoined k | tagDigitsJoined k =>
    have htag := reserve_tagStep? h
    change s'.reserve ≤ n + 0
    omega
  | _ => grind [sequence?, Shape.reserve]

theorem reserve_selector? {c : Char} {right right' : Right} (h : selector? c right = some right') :
    right'.shape.reserve ≤ right.shape.reserve := by
  have hplain : Shape.plain.reserve ≤ right.shape.reserve := right.shape.reserve_nonneg
  unfold selector? at h
  split_ifs at h <;> cases h <;> first | exact Int.le_refl _ | exact hplain

theorem reserve_withoutEmoji (right : Right) :
    right.withoutEmoji.shape.reserve ≤ right.shape.reserve := by
  unfold Right.withoutEmoji
  split_ifs
  · exact right.shape.reserve_nonneg
  · exact Int.le_refl _

theorem reserve_shapeStep (c : Char) (s : Shape) :
    (shapeStep c s).2.shape.reserve ≤ (shapeStep c s).1 + s.reserve := by
  unfold shapeStep
  split
  · rw [Int.zero_add]
    split_ifs
    · exact Int.le_of_eq s.reserve_withJoiner
    · exact Int.le_refl _
  · split
    · next n s' h => exact reserve_sequence? h
    · have hle := reserve_shapeOf c
      have hnonneg := s.reserve_nonneg
      simp only [Shape.alone]
      omega

theorem changed?_nonneg {c : Char} {right : Right} {n : Int} (h : changed? c right = some n) :
    0 ≤ n := by
  unfold changed? at h
  split_ifs at h <;> cases h <;> decide

theorem reserve_plainStep (c : Char) (right : Right) :
    (plainStep c right).2.shape.reserve ≤ (plainStep c right).1 + right.shape.reserve := by
  have hright := right.shape.reserve_nonneg
  unfold plainStep
  split_ifs
  · change 0 ≤ 1 + right.shape.reserve
    omega
  · change 0 ≤ 0 + right.shape.reserve
    omega
  · change 0 ≤ 1 + right.shape.reserve
    omega
  · split
    · next right' h =>
      rw [Int.zero_add]
      exact reserve_selector? h
    · next n _ h =>
      have hn := changed?_nonneg h
      change 0 ≤ n + right.shape.reserve
      omega
    · exact reserve_shapeStep c right.shape

/-- **A character takes no more columns back than there are in reserve.** -/
theorem reserve_step (c : Char) (right : Right) :
    (step c right).2.shape.reserve ≤ (step c right).1 + right.shape.reserve := by
  have hright := right.shape.reserve_nonneg
  unfold step
  split
  · have hcolumns : (0 : Int) ≤ if right.shape.takesEmoji then 0 else 2 := by
      split_ifs <;> decide
    change 0 ≤ (if right.shape.takesEmoji then 0 else 2) + right.shape.reserve
    omega
  · have hplain := reserve_plainStep c right.withoutEmoji
    have hwithout := reserve_withoutEmoji right
    omega

/-! ## Texts -/

@[simp] theorem measure_nil : measure [] = (0, Shape.plain.alone) := rfl

theorem measure_cons (c : Char) (s : List Char) : measure (c :: s) =
    ((step c (measure s).2).1 + (measure s).1, (step c (measure s).2).2) := rfl

/-- The columns in reserve are columns of the text. -/
theorem reserve_measure (s : List Char) : (measure s).2.shape.reserve ≤ (measure s).1 := by
  induction s with
  | nil => decide
  | cons c s ih =>
    have hstep := reserve_step c (measure s).2
    rw [measure_cons]
    change (step c (measure s).2).2.shape.reserve ≤ (step c (measure s).2).1 + (measure s).1
    omega

/-- **No text takes less than no column.** -/
theorem measure_nonneg (s : List Char) : 0 ≤ (measure s).1 :=
  Int.le_trans (Shape.reserve_nonneg _) (reserve_measure s)

/-- A text before one that forms a shape with nothing takes the columns that it takes alone. -/
theorem measure_append {t : List Char} (h : (measure t).2 = Shape.plain.alone) (s : List Char) :
    measure (s ++ t) = ((measure s).1 + (measure t).1, (measure s).2) := by
  induction s with
  | nil => simp [← h]
  | cons c s ih => rw [List.cons_append, measure_cons, measure_cons, ih, Int.add_assoc]

theorem measure_spaces (n : Nat) :
    measure (List.replicate n ' ') = ((n : Int), Shape.plain.alone) := by
  induction n with
  | zero => rfl
  | succ n ih =>
    have hspace : step ' ' Shape.plain.alone = (1, Shape.plain.alone) := by decide +kernel
    rw [List.replicate_succ, measure_cons, ih, hspace]
    simp [Int.add_comm]

end Width

open Width

/-- **Spaces at the end of a text** take a column each. -/
theorem width_append_spaces (s : List Char) (n : Nat) :
    width (s ++ List.replicate n ' ') = width s + n := by
  have hspaces := measure_spaces n
  have hnonneg := measure_nonneg s
  rw [width, width, measure_append (by rw [hspaces]), hspaces]
  exact Int.toNat_add_nat hnonneg n

end LocalizedStrings.Text
