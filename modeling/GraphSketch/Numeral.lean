import GraphSketch.Text.Blank
import GraphSketch.Text.Digit
import GraphSketch.Text.Quoted

/-!
# Numerals

Integers written in decimal. A numeral of more than `Numeral.limit` digits is neither read,
leading zeros counted, nor written, so that either takes bounded time. These are the rules of the
runtime for turning texts into integers and back; they matter for references, widths, saved
numbers and integers in JSON files.

* `Numeral.ofDigits` reads the digits of a natural number, given by their values.
* `Numeral.toInt` reads a whole text: blanks around it, a sign, and single underscores between the
  digits of any script are admitted. The blanks are those of `isBlank` without the four separators
  of files, groups, records and units.
* `Numeral.isWritable` holds of the integers that can be written.
* `OversizedNumeral` and `NumeralFault` say what is wrong with a numeral, and their messages say
  it with the number of digits or the text itself, long texts cut off.

The limit is 4300 digits, the one that the runtime has unless it is told another; no program here
changes it.
-/

set_option autoImplicit false

namespace GraphSketch

namespace Numeral

/-- The largest number of digits that is read or written. -/
def limit : Nat := 4300

/-- What is said of a numeral that is too long. -/
def limitMessage (found : Text) : Text :=
  "Exceeds the limit (" ++ Text.ofNat limit ++ " digits) for integer string conversion" ++ found ++
    "; use sys.set_int_max_str_digits() to increase the limit"

/-- The least natural number that cannot be written. -/
def bound : Nat := Nat.pow 10 limit

/-- Whether an integer can be written. -/
def isWritable (n : Int) : Bool := n.natAbs < bound

end Numeral

/-- A numeral with more digits than are read. -/
structure OversizedNumeral where
  digits : Nat
  deriving DecidableEq, Repr

/-- The fault in words. -/
def OversizedNumeral.message (fault : OversizedNumeral) : Text :=
  Numeral.limitMessage (": value has " ++ Text.ofNat fault.digits ++ " digits")

/-- Why a text is not read as an integer. -/
inductive NumeralFault where
  /-- The text is no numeral. -/
  | malformed
  | oversized (fault : OversizedNumeral)
  deriving DecidableEq, Repr

/-- The fault of a text in words; of a long text only the beginning is repeated. -/
def NumeralFault.message (t : Text) : NumeralFault → Text
  | malformed => "invalid literal for int() with base 10: " ++ t.quoted.take 200
  | oversized fault => fault.message

namespace Numeral

/-- The number with the given digits, the most significant first. -/
def value (digits : List Nat) : Nat := digits.foldl (fun n d => 10 * n + d) 0

/-- The number with the given digits, unless there are too many. -/
def ofDigits (digits : List Nat) : Except OversizedNumeral Nat :=
  if digits.length ≤ limit then .ok (value digits) else .error ⟨digits.length⟩

/-- The digits of a text that holds nothing else, and at least one. -/
def group? (t : Text) : Option (List Nat) :=
  if t.isEmpty then none else t.mapM digitValue?

/-- The digits of a numeral in which single underscores may separate digits. -/
def digits? (t : Text) : Option (List Nat) :=
  ((Text.splitOn '_' t).mapM group?).map List.flatten

/-- The blanks admitted around a numeral: every blank but the separators of files, groups,
records and units. -/
def isMargin (c : Char) : Bool := isBlank c && !(28 ≤ c.toNat && c.toNat < 32)

/-- The text without its margins. -/
def body (t : Text) : Text := ((t.dropWhile isMargin).reverse.dropWhile isMargin).reverse

/-- Whether a character may stand in a numeral. -/
def isNumeralChar (c : Char) : Bool := c = '_' || isDecimalDigit c

/-- The natural number that a text without sign or margins denotes. That there are too many
digits is found before what follows them. -/
def toNat (t : Text) : Except NumeralFault Nat :=
  match digits? (t.takeWhile isNumeralChar) with
  | none => .error .malformed
  | some digits =>
    match ofDigits digits with
    | .error fault => .error (.oversized fault)
    | .ok n => if t.all isNumeralChar then .ok n else .error .malformed

/-- The integer that a text denotes. -/
def toInt (t : Text) : Except NumeralFault Int :=
  match body t with
  | '-' :: magnitude => (toNat magnitude).map fun n => -(n : Int)
  | '+' :: magnitude => (toNat magnitude).map Int.ofNat
  | magnitude => (toNat magnitude).map Int.ofNat

end Numeral

end GraphSketch
