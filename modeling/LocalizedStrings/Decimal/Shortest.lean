/-!
# Shortest decimals

The binary floating-point numbers of 64 bits, and the decimal with the fewest digits that rounds to
one of them. All comparisons are exact, in natural numbers.

* `Binary.ofBits`: the number `mantissa · 2 ^ exponent` behind the bits of a finite number.
* `Binary.holds`: whether a decimal rounds to it.
* `Binary.shortest`: the shortest decimal that does, the nearest of the shortest ones.
* `Decimal.render`: its text, without an exponent from `0.00001` up to below `10 ^ 16`.
-/

namespace LocalizedStrings

/-- The number `digits · 10 ^ exponent`. -/
structure Decimal where
  digits : Nat
  exponent : Int
  deriving DecidableEq, Repr

/-- The number `mantissa · 2 ^ exponent`. -/
structure Binary where
  mantissa : Nat
  exponent : Int
  /-- The number below this one is nearer than the one above. -/
  tightBelow : Bool
  deriving DecidableEq, Repr

namespace Binary

/-- The number with these bits, without its sign. -/
def ofBits (bits : Nat) : Binary :=
  let fraction : Nat := bits % Nat.pow 2 52
  let power : Nat := bits / Nat.pow 2 52 % Nat.pow 2 11
  if power = 0 then ⟨fraction, -1074, false⟩
  else ⟨Nat.pow 2 52 + fraction, power - 1075, fraction = 0 && 1 < power⟩

/-- Natural numbers in the ratio of `a · 10 ^ p` to `b · 2 ^ q`. -/
def scale (a : Nat) (p : Int) (b : Nat) (q : Int) : Nat × Nat :=
  (a * Nat.pow 10 p.toNat * Nat.pow 2 (-q).toNat, b * Nat.pow 2 q.toNat * Nat.pow 10 (-p).toNat)

/-- The decimal lies between the midpoints to the two neighbours of the number, or on one of them
if the mantissa is even. -/
def holds (x : Binary) (d : Decimal) : Bool :=
  let below := 4 * x.mantissa - (if x.tightBelow then 1 else 2)
  let (d₁, low) := scale d.digits d.exponent below (x.exponent - 2)
  let (d₂, high) := scale d.digits d.exponent (4 * x.mantissa + 2) (x.exponent - 2)
  if x.mantissa % 2 = 0 then low ≤ d₁ && d₂ ≤ high else low < d₁ && d₂ < high

/-- The decimal number with the digit place `10 ^ p` just below the number. -/
def roundDown (x : Binary) (p : Int) : Decimal :=
  let (a, b) := scale 1 p x.mantissa x.exponent
  ⟨b / a, p⟩

/-- The number is nearer to `d` than to the next decimal with the same places, or midway and `d` is
even. -/
def isNearer (x : Binary) (d : Decimal) : Bool :=
  let (a, b) := scale (2 * d.digits + 1) d.exponent (2 * x.mantissa) x.exponent
  b < a || (a = b && d.digits % 2 = 0)

/-- The decimal with digits down to `10 ^ p` that rounds to the number, if there is one. -/
def atPlace? (x : Binary) (p : Int) : Option Decimal :=
  let d := x.roundDown p
  let u : Decimal := ⟨d.digits + 1, p⟩
  match x.holds d, x.holds u with
  | true, true => some (if x.isNearer d then d else u)
  | true, false => some d
  | false, true => some u
  | false, false => none

/-- The place of the first digit of the number. -/
def leadingPlace (x : Binary) : Int :=
  let whole := (x.roundDown 0).digits
  if whole ≠ 0 then ((toString whole).length : Int) - 1
  else (((x.roundDown (-400)).digits |> toString).length : Int) - 401

/-- The shortest decimal that rounds to the number. -/
def shortest (x : Binary) : Decimal :=
  let top := x.leadingPlace
  ((List.range 17).findSome? fun n => x.atPlace? (top - (n : Nat))).getD (x.roundDown (top - 16))

end Binary

namespace Decimal

/-- The decimal without zeros at the end of its digits. -/
def strip (d : Decimal) : Nat → Decimal
  | 0 => d
  | n + 1 => if d.digits % 10 = 0 ∧ d.digits ≠ 0 then strip ⟨d.digits / 10, d.exponent + 1⟩ n else d

/-- The text of the decimal. -/
def render (d : Decimal) : String :=
  let d := d.strip 20
  let digits := toString d.digits
  let n : Int := digits.length
  let point := n + d.exponent
  let zeros (k : Int) := String.ofList (List.replicate k.toNat '0')
  if d.digits = 0 then "0.0"
  else if 0 ≤ d.exponent ∧ point ≤ 16 then digits ++ zeros d.exponent ++ ".0"
  else if 0 < point ∧ point ≤ 16 then
    String.ofList (digits.toList.take point.toNat) ++ "." ++
      String.ofList (digits.toList.drop point.toNat)
  else if -5 < point ∧ point ≤ 0 then "0." ++ zeros (-point) ++ digits
  else
    let power := point - 1
    let fraction := if n = 1 then "" else "." ++ String.ofList (digits.toList.drop 1)
    String.ofList (digits.toList.take 1) ++ fraction ++ "e" ++ (if power < 0 then "-" else "+") ++
      toString power.natAbs

end Decimal

/-- The text of a finite floating-point number. -/
def Decimal.ofFloat (x : Float) : String :=
  let bits := x.toBits.toNat
  let text := (Binary.ofBits bits).shortest.render
  if bits / Nat.pow 2 63 = 1 then "-" ++ text else text

end LocalizedStrings
