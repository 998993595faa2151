import GraphSketch.Text.Basic

/-!
# Blank characters and trimming

`isBlank` is the set of white space that separates the parts of a sketch: the ASCII controls from
tab to carriage return and from file to unit separator, the space, and the Unicode spaces and
separators. The zero width space and the byte-order mark are not in it.

* `Text.trimStart`, `Text.trimEnd` and `Text.trim` remove the blanks at the beginning, at the end
  and at both ends.
* `Text.isBlankText` says that nothing else is there; such lines are passed over.

Patterns and the trimming of texts go by one and the same set in the runtime, so there is one
definition for both. Line feeds are blanks, which matters for labels: what is trimmed may have had
lines of its own.
-/

set_option autoImplicit false

namespace GraphSketch

/-- White space. -/
def isBlank (c : Char) : Bool :=
  let n := c.toNat
  (9 ≤ n && n ≤ 13) || (28 ≤ n && n ≤ 32) || n = 0x85 || n = 0xa0 || n = 0x1680 ||
    (0x2000 ≤ n && n ≤ 0x200a) || n = 0x2028 || n = 0x2029 || n = 0x202f || n = 0x205f ||
    n = 0x3000

namespace Text

/-- The text without its leading blanks. -/
def trimStart (t : Text) : Text := t.dropWhile isBlank

/-- The text without its trailing blanks. -/
def trimEnd (t : Text) : Text := (t.reverse.dropWhile isBlank).reverse

/-- The text without the blanks at either end. -/
def trim (t : Text) : Text := trimEnd (trimStart t)

/-- Whether the text holds blanks only. -/
def isBlankText (t : Text) : Bool := t.all isBlank

end Text

end GraphSketch
