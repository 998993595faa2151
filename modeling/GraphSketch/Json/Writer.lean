import GraphSketch.Binary64.Shortest
import GraphSketch.Json.Basic
import GraphSketch.Numeral

/-!
# Writing JSON

The form of the files that programs write: strings keep every character but the quote, the
backslash and the controls below the space, which are escaped.

* `Json.pretty` writes one item or field a line, two spaces further in for each level, with no
  line feed at the end. An integer that cannot be written leaves a mark in its place, and
  `Json.beforeMark` is what comes before it: what a program has written of a file when it fails.
* `Json.isWritable` holds of values without such an integer. The mark is the null character, which
  strings cannot bring in, since it is escaped there.
* `Json.compact` writes everything on one line.

Numbers with a fraction are written with the fewest digits that still read back as the same number
(`Binary64.toText`), and those that are not finite as `Infinity`, `-Infinity` and `NaN`. The
fields of an object are written in their order.
-/

set_option autoImplicit false

namespace GraphSketch

namespace Json

/-- A hexadecimal digit. -/
def hexDigit (n : Nat) : Char := Nat.digitChar n

/-- A character inside a string. -/
def escapeChar (c : Char) : Text :=
  if c = '"' then ['\\', '"']
  else if c = '\\' then ['\\', '\\']
  else if c = '\x08' then ['\\', 'b']
  else if c = '\x0c' then ['\\', 'f']
  else if c = '\n' then ['\\', 'n']
  else if c = '\r' then ['\\', 'r']
  else if c = '\t' then ['\\', 't']
  else if c.toNat < 0x20 then
    ['\\', 'u', '0', '0', hexDigit (c.toNat / 16), hexDigit (c.toNat % 16)]
  else [c]

/-- A string between quotes. -/
def quote (t : Text) : Text := '"' :: (t.flatMap escapeChar ++ ['"'])

/-- A number that is no integer. -/
def numberText (x : Binary64) : Text := x.toText "Infinity" "NaN"

/-- Stands for an integer that cannot be written, and is never written for anything else. -/
def mark : Char := '\x00'

/-- An integer, or the mark if it cannot be written. -/
def integerText (n : Int) : Text := if Numeral.isWritable n then Text.ofInt n else [mark]

/-- A new line at the given depth. -/
def newLine (depth : Nat) : Text := '\n' :: List.replicate (2 * depth) ' '

mutual

/-- The value with one item or field a line; its own lines are `depth` levels in. -/
def prettyAt (depth : Nat) : Json → Text
  | null => "null"
  | bool true => "true"
  | bool false => "false"
  | int n => integerText n
  | real x => numberText x
  | str t => quote t
  | arr [] => "[]"
  | arr (v :: items) =>
    '[' :: (newLine (depth + 1) ++ prettyAt (depth + 1) v ++ prettyItems (depth + 1) items ++
      newLine depth ++ [']'])
  | obj [] => ['{', '}']
  | obj ((key, v) :: fields) =>
    '{' :: (newLine (depth + 1) ++ quote key ++ ": " ++ prettyAt (depth + 1) v ++
      prettyFields (depth + 1) fields ++ newLine depth ++ ['}'])

/-- The items of an array after the first. -/
def prettyItems (depth : Nat) : List Json → Text
  | [] => []
  | v :: items => ',' :: (newLine depth ++ prettyAt depth v ++ prettyItems depth items)

/-- The fields of an object after the first. -/
def prettyFields (depth : Nat) : List (Text × Json) → Text
  | [] => []
  | (key, v) :: fields =>
    ',' :: (newLine depth ++ quote key ++ ": " ++ prettyAt depth v ++ prettyFields depth fields)

end

@[simp] theorem prettyAt_str (depth : Nat) (t : Text) : prettyAt depth (str t) = quote t := by
  rw [prettyAt]

@[simp] theorem prettyItems_nil (depth : Nat) : prettyItems depth [] = [] := by rw [prettyItems]

@[simp] theorem prettyFields_nil (depth : Nat) : prettyFields depth [] = [] := by rw [prettyFields]

/-- The value with one item or field a line. -/
def pretty (v : Json) : Text := prettyAt 0 v

/-- Whether every integer in a value can be written. -/
def isWritable (v : Json) : Bool := (pretty v).all (· ≠ mark)

/-- What is written of a value before an integer that cannot be written. -/
def beforeMark (v : Json) : Text := (pretty v).takeWhile (· ≠ mark)

mutual

/-- The value on one line. -/
def compact : Json → Text
  | null => "null"
  | bool true => "true"
  | bool false => "false"
  | int n => Text.ofInt n
  | real x => numberText x
  | str t => quote t
  | arr [] => "[]"
  | arr (v :: items) => '[' :: (compact v ++ compactItems items ++ [']'])
  | obj [] => ['{', '}']
  | obj ((key, v) :: fields) =>
    '{' :: (quote key ++ ": " ++ compact v ++ compactFields fields ++ ['}'])

/-- The items of an array after the first. -/
def compactItems : List Json → Text
  | [] => []
  | v :: items => ", " ++ compact v ++ compactItems items

/-- The fields of an object after the first. -/
def compactFields : List (Text × Json) → Text
  | [] => []
  | (key, v) :: fields => ", " ++ quote key ++ ": " ++ compact v ++ compactFields fields

end

end Json

end GraphSketch
