/-!
# Text as a list of code points

All sketch text is a list of characters, so that positions, lengths and columns count code points;
`String` appears only where text enters or leaves the program.

* `Text.splitOn` cuts at a separator and `Text.join` puts the pieces back (`Text.join_splitOn`);
  `Text.lines` and `Text.unlines` do so with line feeds.
* `Text.contains`, `Text.replaceChar` and `Text.after?` look for a text, replace a character
  throughout, and give what follows a beginning.
* `Text.ofNat` and `Text.ofInt` write integers in decimal.
* `Text.before` is the order of texts by code points, in which names of files are sorted.
* `CodeRanges` holds sets of characters given by ranges of code points. The tables of the other
  modules on characters are such sets; they are those of Unicode 14.

Surrogates are no characters, so a text cannot hold half of a pair of them.
-/

set_option autoImplicit false

namespace GraphSketch

/-- A sequence of code points. -/
abbrev Text := List Char

instance : Coe String Text := ⟨String.toList⟩

namespace Text

/-- The pieces of a text between the occurrences of a separator; there is always one more
piece than there are separators. -/
def splitOn (sep : Char) : Text → List Text
  | [] => [[]]
  | c :: cs =>
    if c = sep then
      [] :: splitOn sep cs
    else
      match splitOn sep cs with
      | [] => [[c]]
      | piece :: pieces => (c :: piece) :: pieces

/-- The pieces in order, with `sep` between neighbours. -/
def join (sep : Text) : List Text → Text
  | [] => []
  | [piece] => piece
  | piece :: next :: pieces => piece ++ sep ++ join sep (next :: pieces)

/-- The lines of a text. -/
def lines (t : Text) : List Text := splitOn '\n' t

/-- The lines put together again. -/
def unlines (ls : List Text) : Text := join ['\n'] ls

/-- Whether `needle` occurs in the text. -/
def contains (needle : Text) : Text → Bool
  | [] => needle.isEmpty
  | c :: cs => needle.isPrefixOf (c :: cs) || contains needle cs

/-- Every occurrence of the character `c` replaced by the text `by'`. -/
def replaceChar (c : Char) (by' : Text) (t : Text) : Text :=
  t.flatMap fun d => if d = c then by' else [d]

/-- What follows `start`, if the text begins with it. -/
def after? (start : Text) (t : Text) : Option Text :=
  if start.isPrefixOf t then some (t.drop start.length) else none

/-- The text, unless it is empty. -/
def nonEmpty? (t : Text) : Option Text := if t.isEmpty then none else some t

/-- The decimal numeral of a natural number. -/
def ofNat (n : Nat) : Text := Nat.toDigits 10 n

/-- The decimal numeral of an integer, with a minus sign before negative ones. -/
def ofInt : Int → Text
  | .ofNat n => ofNat n
  | .negSucc n => '-' :: ofNat (n + 1)

/-- Strict order by code points, a proper beginning coming first. -/
def before : Text → Text → Bool
  | _, [] => false
  | [], _ :: _ => true
  | c :: cs, d :: ds => c.toNat < d.toNat || (c = d && before cs ds)

theorem splitOn_ne_nil (sep : Char) (t : Text) : splitOn sep t ≠ [] := by
  cases t with
  | nil => simp [splitOn]
  | cons c cs =>
    unfold splitOn
    split
    · simp
    · split <;> simp

theorem join_splitOn (sep : Char) (t : Text) : join [sep] (splitOn sep t) = t := by
  induction t with
  | nil => rfl
  | cons c cs ih =>
    unfold splitOn
    cases hs : splitOn sep cs with
    | nil => exact absurd hs (splitOn_ne_nil sep cs)
    | cons piece pieces =>
      rw [hs] at ih
      split
      · next h => simp [join, ih, h]
      · cases pieces with
        | nil => simpa [join] using ih
        | cons next rest => simpa [join] using ih

end Text

/-- A set of characters as ranges of code points, both ends included. -/
abbrev CodeRanges := List (Nat × Nat)

/-- Whether the character lies in one of the ranges. -/
def CodeRanges.has (ranges : CodeRanges) (c : Char) : Bool :=
  ranges.any fun r => r.1 ≤ c.toNat && c.toNat ≤ r.2

end GraphSketch
