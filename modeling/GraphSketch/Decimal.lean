import GraphSketch.Text.Basic

/-!
# Decimal numbers as text

A decimal number is a row of digits and a power of ten. Numbers with a fraction come into programs
as such texts and leave them as such texts; what is in between is in `Binary64`.

* `Decimal.significant` are the digits that count, without the zeros at their end.
* `Decimal.magnitude` is the power of ten that the leading digit stands for.
* `Decimal.toText` writes the number: with a point and at least one place (`positional`) where the
  leading digit stands for 10⁻⁴ up to 10¹⁵, and with an exponent of at least two digits elsewhere
  (`scientific`).

This is the form in which the runtime writes numbers, and no other: no choice of places, no
grouping, no form for integers, which have no point. Signs, infinities and what is not a number
are added by `Binary64.toText`. Nothing is rounded here; a number is written with all the digits
that it has.
-/

set_option autoImplicit false

namespace GraphSketch

/-- The number `coefficient · 10 ^ exponent`. -/
structure Decimal where
  coefficient : Nat
  exponent : Int
  deriving DecidableEq, Repr

namespace Decimal

/-- The digits without their trailing zeros; a zero is left with one digit. -/
def significant (d : Decimal) : Text :=
  match ((Text.ofNat d.coefficient).reverse.dropWhile (· = '0')).reverse with
  | [] => ['0']
  | digits => digits

/-- The power of ten of the leading digit. -/
def magnitude (d : Decimal) : Int :=
  if d.coefficient = 0 then 0 else (Text.ofNat d.coefficient).length - 1 + d.exponent

/-- The digits with the point placed after the digit of power zero. -/
def positional (digits : Text) (power : Int) : Text :=
  match power with
  | .ofNat p =>
    let whole := digits.take (p + 1)
    let places := digits.drop (p + 1)
    whole ++ List.replicate (p + 1 - whole.length) '0' ++ ['.'] ++
      (if places.isEmpty then ['0'] else places)
  | .negSucc p => "0." ++ List.replicate p '0' ++ digits

/-- The digits with the point after the first, and the power of ten, of two digits at least. -/
def scientific (digits : Text) (power : Int) : Text :=
  let size := Text.ofNat power.natAbs
  digits.take 1 ++ (if digits.length = 1 then [] else '.' :: digits.drop 1) ++ ['e'] ++
    (if power < 0 then ['-'] else ['+']) ++ List.replicate (2 - size.length) '0' ++ size

/-- The number as text. -/
def toText (d : Decimal) : Text :=
  if -4 ≤ d.magnitude ∧ d.magnitude < 16 then positional d.significant d.magnitude
  else scientific d.significant d.magnitude

end Decimal

end GraphSketch
