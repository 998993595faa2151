import GraphSketch.Binary64.Basic

/-!
# The shortest text of a binary number

A number is written with the fewest decimal digits that still round to it, and of those decimals
with the nearest one. The decimals that round to `significand · 2 ^ exponent` make an interval;
its ends belong to it if the significand is even.

* `Binary64.reachBelow` tells how far the interval reaches below the number; below a power of two
  it reaches half as far as above.
* `Binary64.multipleOf?` looks for a multiple of a power of ten in the interval, the one nearest
  to the number. It compares whole numbers only: `quarterIn` is a quarter of `2 ^ exponent` in
  units of that power, as a quotient.
* `Binary64.shortest` finds the decimal: it begins with a power above the number (`powerAbove`)
  and goes down, so the first one found has the fewest digits.
* `Binary64.toText` writes it, with a sign, and the given words for infinities and for what is no
  number.

The search takes 24 steps at most, which is enough because seventeen digits tell any two binary
numbers apart and the first power lies at most a few above the number.
-/

set_option autoImplicit false

namespace GraphSketch

namespace Binary64

/-- How far the interval reaches below the number, in quarters of its last binary place. Below a
power of two the numbers lie twice as dense. -/
def reachBelow (significand : Nat) (exponent : Int) : Nat :=
  if significand = significandBound / 2 ∧ leastExponent < exponent then 1 else 2

/-- A quarter of `2 ^ exponent` in units of `10 ^ power`, as a quotient. -/
def quarterIn (exponent power : Int) : Nat × Nat :=
  let (n, d) : Nat × Nat :=
    match exponent - 2 with
    | .ofNat k => (Nat.pow 2 k, 1)
    | .negSucc k => (1, Nat.pow 2 (k + 1))
  match power with
  | .ofNat k => (n, d * Nat.pow 10 k)
  | .negSucc k => (n * Nat.pow 10 (k + 1), d)

/-- The multiple of `10 ^ power` that lies in the interval of a number and is nearest to it; of
two that are equally near the even one. -/
def multipleOf? (significand : Nat) (exponent power : Int) : Option Nat :=
  let (n, d) := quarterIn exponent power
  let low := (4 * significand - reachBelow significand exponent) * n
  let middle := 4 * significand * n
  let high := (4 * significand + 2) * n
  let inside (c : Nat) : Bool :=
    if significand % 2 = 0 then low ≤ c * d && c * d ≤ high else low < c * d && c * d < high
  let below := middle / d
  let rest := middle % d
  let nearer := if 2 * rest < d ∨ (2 * rest = d ∧ below % 2 = 0) then below else below + 1
  match inside below, inside (below + 1) with
  | true, true => some nearer
  | true, false => some below
  | false, true => some (below + 1)
  | false, false => none

/-- A power of ten of which no multiple but zero is as small as the number. -/
def powerAbove (significand : Nat) (exponent : Int) : Int :=
  (significand.log2 + 1 + exponent) * 30103 / 100000 + 2

/-- The shortest decimal for a number that is not zero. Powers of ten are tried from above;
seventeen digits are always enough. -/
def shortest (significand : Nat) (exponent : Int) : Decimal :=
  let decimalAt? (steps : Nat) : Option Decimal :=
    let power := powerAbove significand exponent - steps
    (multipleOf? significand exponent power).map fun c => ⟨c, power⟩
  ((List.range 24).findSome? decimalAt?).getD ⟨0, 0⟩

/-- The digits of a finite number without its sign. -/
def digits (significand : Nat) (exponent : Int) : Text :=
  if significand = 0 then Decimal.toText ⟨0, 0⟩ else (shortest significand exponent).toText

/-- The number as text, with the given words for what is not finite. -/
def toText (infinity nan : Text) : Binary64 → Text
  | finite negative significand exponent =>
    (if negative then ['-'] else []) ++ digits significand exponent
  | infinite negative => (if negative then ['-'] else []) ++ infinity
  | notANumber => nan

end Binary64

end GraphSketch
