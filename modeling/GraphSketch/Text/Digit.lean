import GraphSketch.Text.Basic

/-!
# Decimal digits

Every script with decimal digits has ten of them in a row, zero first; a digit is found by the row
it lies in.

* `digitValue?` gives the value of a decimal digit of any script, and `isDecimalDigit` says that a
  character is one.
* `asciiDigit?` and `isAsciiDigit` admit the digits `0` to `9` only.

Both are needed: a reference is written with the ASCII digits, while widths and saved numbers may
be written with the digits of any script, or of several. Superscripts and other numeric characters
are no decimal digits. The table has the zeros of Unicode 14.
-/

set_option autoImplicit false

namespace GraphSketch

/-- The code points of the zeros, one for each row of ten digits. -/
def digitZeros : List Nat :=
  [0x30, 0x660, 0x6f0, 0x7c0, 0x966, 0x9e6, 0xa66, 0xae6, 0xb66, 0xbe6, 0xc66, 0xce6, 0xd66,
   0xde6, 0xe50, 0xed0, 0xf20, 0x1040, 0x1090, 0x17e0, 0x1810, 0x1946, 0x19d0, 0x1a80, 0x1a90,
   0x1b50, 0x1bb0, 0x1c40, 0x1c50, 0xa620, 0xa8d0, 0xa900, 0xa9d0, 0xa9f0, 0xaa50, 0xabf0,
   0xff10, 0x104a0, 0x10d30, 0x11066, 0x110f0, 0x11136, 0x111d0, 0x112f0, 0x11450, 0x114d0,
   0x11650, 0x116c0, 0x11730, 0x118e0, 0x11950, 0x11c50, 0x11d50, 0x11da0, 0x16a60, 0x16ac0,
   0x16b50, 0x1d7ce, 0x1d7d8, 0x1d7e2, 0x1d7ec, 0x1d7f6, 0x1e140, 0x1e2f0, 0x1e950, 0x1fbf0]

/-- The value of a decimal digit, in any script. -/
def digitValue? (c : Char) : Option Nat :=
  (digitZeros.find? fun first => first ≤ c.toNat && c.toNat < first + 10).map (c.toNat - ·)

/-- Whether the character is a decimal digit, in any script. -/
def isDecimalDigit (c : Char) : Bool := (digitValue? c).isSome

/-- The value of one of the digits `0` to `9`. -/
def asciiDigit? (c : Char) : Option Nat :=
  if '0' ≤ c ∧ c ≤ '9' then some (c.toNat - '0'.toNat) else none

/-- Whether the character is one of `0` to `9`. -/
def isAsciiDigit (c : Char) : Bool := (asciiDigit? c).isSome

end GraphSketch
