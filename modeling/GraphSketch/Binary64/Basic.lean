import GraphSketch.Decimal

/-!
# Binary numbers of double precision

A finite binary64 number is `± significand · 2 ^ exponent` with a significand below 2⁵³ and an
exponent from −1074 to 971; the significand is at least 2⁵² unless the exponent is the least.
Infinities and what is no number are apart. Numbers of JSON files with a fraction or an exponent
are such numbers; they come into documents as widths and ids, and into saved numberings.

* `Binary64.ofDecimal` rounds a decimal number to the nearest binary one, and half-way to the one
  with an even significand; what is too large becomes infinite, and what is too small zero.
* `Binary64.roundDiv` and `Binary64.exponentFor` are the two steps of that: a quotient is rounded
  in the units of the exponent that fits it.
* `Binary64.integer?` is the integer that a number is equal to, and `Binary64.integerPart` drops
  what comes after the point.

There is no arithmetic on these numbers; no program adds or compares them but by being equal to an
integer or not.
-/

set_option autoImplicit false

namespace GraphSketch

/-- A binary64 number. -/
inductive Binary64 where
  | finite (negative : Bool) (significand : Nat) (exponent : Int)
  | infinite (negative : Bool)
  | notANumber
  deriving DecidableEq, Repr

namespace Binary64

/-- The significands are below this number. -/
def significandBound : Nat := Nat.pow 2 53

/-- The exponent of the smallest numbers. -/
def leastExponent : Int := -1074

/-- The exponent of the largest numbers. -/
def greatestExponent : Int := 971

/-- The zero of the given sign. -/
def zero (negative : Bool) : Binary64 := finite negative 0 leastExponent

/-- Whether the number is one of the zeros. -/
def isZero : Binary64 → Bool
  | finite _ significand _ => significand = 0
  | _ => false

/-! ## Rounding -/

/-- The quotient rounded to the nearest natural number, and half-way to the even one. -/
def roundDiv (numerator denominator : Nat) : Nat :=
  let quotient := numerator / denominator
  let rest := numerator % denominator
  if denominator < 2 * rest ∨ (2 * rest = denominator ∧ quotient % 2 = 1) then quotient + 1
  else quotient

/-- The quotient in units of `2 ^ exponent`. -/
def inUnits (numerator denominator : Nat) : Int → Nat × Nat
  | .ofNat n => (numerator, denominator * Nat.pow 2 n)
  | .negSucc n => (numerator * Nat.pow 2 (n + 1), denominator)

/-- The exponent for a quotient that is not zero: the one that leaves just enough binary digits
before the point for a significand, but not less than the least. -/
def exponentFor (numerator denominator : Nat) : Int :=
  let exponent := max ((numerator.log2 : Int) - denominator.log2 - 53) leastExponent
  let (n, d) := inUnits numerator denominator exponent
  if n / d < significandBound then exponent else exponent + 1

/-- The number that is nearest to a quotient. -/
def ofQuotient (negative : Bool) (numerator denominator : Nat) : Binary64 :=
  if numerator = 0 then
    zero negative
  else
    let exponent := exponentFor numerator denominator
    let (n, d) := inUnits numerator denominator exponent
    let significand := roundDiv n d
    let full := significand = significandBound
    let exponent := if full then exponent + 1 else exponent
    if greatestExponent < exponent then infinite negative
    else finite negative (if full then significandBound / 2 else significand) exponent

/-- The number that is nearest to a decimal one. A number far too large or too small is told by
its size, without working out its powers of ten. -/
def ofDecimal (negative : Bool) (d : Decimal) : Binary64 :=
  if d.coefficient = 0 ∨ d.exponent < -(d.coefficient.log2 + 400 : Int) then zero negative
  else if 400 < d.exponent then infinite negative
  else
    match d.exponent with
    | .ofNat n => ofQuotient negative (d.coefficient * Nat.pow 10 n) 1
    | .negSucc n => ofQuotient negative d.coefficient (Nat.pow 10 (n + 1))

/-! ## Integers -/

/-- A natural number with a sign. -/
def signed (negative : Bool) (n : Nat) : Int := if negative then -(n : Int) else n

/-- The integer part of `± significand · 2 ^ exponent`, toward zero. -/
def integerPart (negative : Bool) (significand : Nat) : Int → Int
  | .ofNat n => signed negative (significand * Nat.pow 2 n)
  | .negSucc n => signed negative (significand / Nat.pow 2 (n + 1))

/-- The integer that the number is equal to, if there is one. -/
def integer? : Binary64 → Option Int
  | finite negative significand exponent =>
    match exponent with
    | .ofNat _ => some (integerPart negative significand exponent)
    | .negSucc n =>
      if significand % Nat.pow 2 (n + 1) = 0 then some (integerPart negative significand exponent)
      else none
  | _ => none

end Binary64

end GraphSketch
