import GraphSketch.Numeral

/-!
# References by number

`:N` refers to the node with the number `N`, written with the digits `0` to `9` and nothing else:
no sign, no blanks, no digits of other scripts. A text that begins with a colon is meant as a
reference even if no number follows, so it can name no label.

* `isReference` (`is_reference`) says that a text is meant as a reference, well-formed or not.
* `Reference.number` (`reference_number`) reads the number of a well-formed one. Leading zeros are
  allowed, so `:2` and `:02` are one reference.
* `Unresolved` is a reference that names no node, with the two messages of
  `UnresolvedReferenceError`: one for texts without a number and one for numbers that no label
  has.
* `ResolveFault` is what a reference can fail with.

Digits are turned into a number by the rules of `Numeral`, which refuses more than `Numeral.limit`
of them. That refusal is a fault of another kind than an unresolved reference: it is not the fault
of one line, and ends the compilation of a sketch or the run of its commands.
-/

set_option autoImplicit false

namespace GraphSketch

/-- Whether a text is meant as a reference. -/
def isReference (t : Text) : Bool := t.head? = some ':'

namespace Reference

/-- The digits of a well-formed reference. -/
def digits? : Text → Option Text
  | ':' :: digits => if !digits.isEmpty && digits.all isAsciiDigit then some digits else none
  | _ => none

/-- The number of a well-formed reference, and none for any other text. A number with more
digits than are read is an error. -/
def number (t : Text) : Except OversizedNumeral (Option Nat) :=
  match digits? t with
  | none => .ok none
  | some digits => (Numeral.ofDigits (digits.filterMap asciiDigit?)).map some

end Reference

/-- A reference that names no node: it has a number that is not given to any label, or none. -/
structure Unresolved where
  ref : Text
  number : Option Nat
  deriving DecidableEq, Repr

/-- What is wrong with the reference. -/
def Unresolved.message (u : Unresolved) : Text :=
  match u.number with
  | none => "Invalid ID reference: " ++ u.ref
  | some n => "Node with ID " ++ Text.ofNat n ++ " not found"

/-- Why a label or reference is not resolved. -/
inductive ResolveFault where
  | unresolved (u : Unresolved)
  /-- The number of the reference has more digits than are read. -/
  | oversized (fault : OversizedNumeral)
  deriving DecidableEq, Repr

end GraphSketch
