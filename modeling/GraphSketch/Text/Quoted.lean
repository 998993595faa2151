import GraphSketch.Text.Visible

/-!
# Quoted values in messages

A value that a message repeats stands between single quotes, or between double quotes if it holds
single ones only. Backslashes, the quote itself and characters that cannot be seen are escaped.

* `Text.quoted` writes a value, and `Text.quotedChar` a character of it: tab, line feed and
  carriage return as a letter after a backslash, what else cannot be seen by its number.
* `Text.hexadecimal` writes numbers with a given number of digits at least.

Messages on paths, arguments and numerals are written so, and texts inside of arrays and objects
where a document has these for a colour or a key.
-/

set_option autoImplicit false

namespace GraphSketch

namespace Text

/-- A number in hexadecimal with at least `width` digits. -/
def hexadecimal (width n : Nat) : Text :=
  let digits := Nat.toDigits 16 n
  List.replicate (width - digits.length) '0' ++ digits

/-- The number of a character that is not visible, with as many digits as its size asks for. -/
def escapedChar (c : Char) : Text :=
  if c.toNat < 0x100 then "\\x" ++ hexadecimal 2 c.toNat
  else if c.toNat < 0x10000 then "\\u" ++ hexadecimal 4 c.toNat
  else "\\U" ++ hexadecimal 8 c.toNat

/-- A character between quotes of the given kind. -/
def quotedChar (mark c : Char) : Text :=
  if c = mark || c = '\\' then ['\\', c]
  else if c = '\t' then "\\t"
  else if c = '\n' then "\\n"
  else if c = '\r' then "\\r"
  else if isVisible c then [c]
  else escapedChar c

/-- A value between quotes. -/
def quoted (t : Text) : Text :=
  let mark := if t.any (· = '\'') && !t.any (· = '"') then '"' else '\''
  mark :: (t.flatMap (quotedChar mark) ++ [mark])

end Text

end GraphSketch
