import LocalizedStrings.Decimal.Shortest
import LocalizedStrings.Json.Reader

/-!
# JSON numbers

A number is read in two ways. Where its value matters, an integer of 64 bits is kept as it is and
any other number becomes a floating-point number, from its first digits that fit into 64 bits and a
power of ten; one that is too large is no number. Where it is only passed over, its form alone
counts, and one cut short by the end of the text is malformed rather than ended.

* `number`: what a number is seen as, after its first character.
* `skipNumber`: a number passed over, after its first character.
-/

namespace LocalizedStrings.Json

/-- The digits at the start of the text, which are taken. -/
def digits : Reader (List Char) := fun s =>
  .ok ⟨s.takeWhile Char.isDigit, s.dropWhile Char.isDigit, (List.dropWhile_sublist _).length_le⟩

/-- The next character, if it is one of `cs`, and then it is taken. -/
def oneOf? (cs : List Char) : Reader (Option Char) := do
  match ← peek? with
  | none => pure none
  | some c => if cs.contains c then next? else pure none

/-- One digit or more; `short` is the problem if the text ends before the first one. -/
def digits1 (short : Error) : Reader (List Char) := do
  let ds ← digits
  if ds.isEmpty then
    match ← next? with
    | none => .fail short
    | some _ => .fail .malformed
  else pure ds

/-- The digits from the digit `d` on, before the point. No digit follows a zero. -/
def wholeFrom (d : Char) : Reader (List Char) := do
  let ds ← digits
  if d = '0' && !ds.isEmpty then .fail .malformed else pure (d :: ds)

/-- The digits before the point, after the first character of the number: a digit, or a minus sign,
which a digit has to follow. -/
def wholePart (short : Error) (c : Char) : Reader (List Char) := do
  if c = '-' then
    match ← next? with
    | none => .fail short
    | some d => if d.isDigit then wholeFrom d else .fail .malformed
  else wholeFrom c

/-- The digits after the point, if there is one. -/
def fraction? (short : Error) : Reader (Option (List Char)) := do
  match ← oneOf? ['.'] with
  | none => pure none
  | some _ => do
    let ds ← digits1 short
    pure (some ds)

/-- The sign and the digits of the exponent, if there is one. -/
def exponent? (short : Error) : Reader (Option (Bool × List Char)) := do
  match ← oneOf? ['e', 'E'] with
  | none => pure none
  | some _ => do
    let sign ← oneOf? ['+', '-']
    let ds ← digits1 short
    pure (some (sign == some '-', ds))

/-- A number passed over, after its first character. -/
def skipNumber (c : Char) : Reader Unit := do
  let _ ← wholePart .malformed c
  let _ ← fraction? .malformed
  let _ ← exponent? .malformed

/-! ## Values -/

/-- The value of digits in base 10. -/
def valueOf (ds : List Char) : Nat := ds.foldl (fun n c => n * 10 + (c.toNat - 48)) 0

/-- As many digits as fit into 64 bits, after those of `n`: their value, and how many they are. -/
def fitting (n : Nat) : List Char → Nat × Nat
  | [] => (n, 0)
  | c :: ds =>
    let m := n * 10 + (c.toNat - 48)
    if Nat.pow 2 64 ≤ m then (n, 0) else let r := fitting m ds; (r.1, r.2 + 1)

/-- The floating-point number `f · 10 ^ exponent`, for `f` below `2 ^ 64`, or none if it is too
large. Dividing twice by `10 ^ 308` leaves zero, so that few steps are enough. -/
def scaled? (f : Float) (exponent : Int) : Nat → Option Float
  | 0 => some f
  | fuel + 1 =>
    if exponent.natAbs ≤ 308 then
      let power := Float.ofScientific 1 false exponent.natAbs
      if 0 ≤ exponent then
        let g := f * power
        if g.isInf then none else some g
      else some (f / power)
    else if f == 0 then some f
    else if 0 ≤ exponent then none
    else scaled? (f / Float.ofScientific 1 false 308) (exponent + 308) fuel

/-- The floating-point number written with these digits, before and after the point, and this
exponent. -/
def float? (whole fraction : List Char) (exponent : Option (Bool × List Char)) : Option Float :=
  let w := fitting 0 whole
  let rest := whole.length - w.2
  let f := fitting w.1 fraction
  let shift : Int := (rest : Int) - f.2
  match exponent with
  | none => scaled? (Float.ofNat f.1) shift 4
  | some (negative, ds) =>
    let e := valueOf ds
    if Nat.pow 2 31 ≤ e then if f.1 ≠ 0 && !negative then none else some 0
    else scaled? (Float.ofNat f.1) (if negative then shift - e else shift + e) 4

/-- What a number is seen as, after its first character. -/
def number (c : Char) : Reader Seen := do
  let whole ← wholePart .ended c
  let fraction ← fraction? .ended
  let exponent ← exponent? .ended
  let negative := c = '-'
  let n := valueOf whole
  if fraction.isNone && exponent.isNone && !negative && n < Nat.pow 2 64 then pure (.integer n)
  else if fraction.isNone && exponent.isNone && negative && 0 < n && n ≤ Nat.pow 2 63 then
    pure (.integer (-n))
  else match float? whole (fraction.getD []) exponent with
    | none => .fail .malformed
    | some f => pure (.float (Decimal.ofFloat (if negative then -f else f)))

end LocalizedStrings.Json
