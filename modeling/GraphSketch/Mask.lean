import GraphSketch.OrderedMap
import GraphSketch.Text.Blank
import GraphSketch.Text.Cut
import GraphSketch.Text.Digit

/-!
# Masking quoted spans

A quoted span `"…"` may hold anything, line feeds and arrows too; a backslash takes the next
character with it, and a quote without partner is literal. Before a sketch is cut into lines its
spans are replaced by placeholders, numbered words between two fences of underscores that are wide
enough not to occur in the text. This is the Quoted-String Extractor of the specification (section
D.1).

* `Text.spans` finds the quoted spans, from left to right; `spanContent?` is what lies between the
  quotes of one, with its backslashes, and `unescapeQuotes` takes those before quotes away.
* `fenceWidth` (`_choose_fence`) is the least width of a fence that is safe for a text. A fence
  longer than the text is always safe, which bounds the search.
* `Mask.ofText` and `Mask.conceal` are the two parts of what `extract` returns: the table of
  contents, and the masked text.
* `Mask.restore` (`restore`) puts contents back for placeholders, in any piece of the masked text,
  and leaves alone what looks like a placeholder and has no entry.
* `Mask.isPlaceholder` (`is_placeholder`) says that a text is one placeholder, blanks apart.
-/

set_option autoImplicit false

namespace GraphSketch

/-! ## Quoted spans -/

/-- What stands between an opening quote, already passed, and the quote that closes it. -/
def spanContent? : Text → Option Text
  | [] => none
  | '"' :: _ => some []
  | '\\' :: c :: cs => (spanContent? cs).map fun t => '\\' :: c :: t
  | ['\\'] => none
  | c :: cs => (spanContent? cs).map (c :: ·)

/-- The quoted span at the beginning of a text: its content as written, and its length. -/
def span? : Text → Option (Text × Nat)
  | '"' :: cs => (spanContent? cs).map fun t => (t, t.length + 2)
  | _ => none

/-- A text cut at its quoted spans. -/
def Text.spans (t : Text) : Cut Text := t.cut span?

/-- The content of a span with each escaped quote as a plain one. -/
def unescapeQuotes : Text → Text
  | '\\' :: '"' :: cs => '"' :: unescapeQuotes cs
  | c :: cs => c :: unescapeQuotes cs
  | [] => []

/-! ## Fences -/

/-- A fence of the given width. -/
def fence (width : Nat) : Text := List.replicate width '_'

/-- The word in a placeholder. -/
def placeholderWord : Text := "QUOTED_"

/-- Whether no placeholder with fences of this width begins in the text. -/
def fenceIsSafe (width : Nat) (t : Text) : Bool :=
  !Text.contains (fence width ++ placeholderWord) t

/-- The least safe width, two at least. A fence longer than the text is always safe. -/
def fenceWidth (t : Text) : Nat :=
  ((List.range' 2 (t.length + 1)).find? fun width => fenceIsSafe width t).getD (t.length + 2)

/-! ## Placeholders -/

/-- What was taken out of a text: the width of the fences, and the contents of the spans in
order. -/
structure Mask where
  width : Nat
  contents : List Text

namespace Mask

/-- The mask of a text without quoted spans. -/
def empty : Mask := ⟨2, []⟩

/-- The placeholder of a span by its number, with fences of the given width. -/
def placeholder (width : Nat) (n : Nat) : Text :=
  fence width ++ placeholderWord ++ Text.ofNat n ++ fence width

/-- The placeholders of the spans from number `n` on, each with its content. -/
def entriesFrom (width : Nat) : Nat → List Text → OrderedMap Text Text
  | _, [] => []
  | n, content :: contents =>
    (placeholder width n, content) :: entriesFrom width (n + 1) contents

/-- The placeholders in order, each with its content. -/
def entries (mask : Mask) : OrderedMap Text Text := entriesFrom mask.width 0 mask.contents

/-- What masking takes out of a text. -/
def ofText (t : Text) : Mask := ⟨fenceWidth t, t.spans.tokens.map unescapeQuotes⟩

/-- The gaps between spans with placeholders for the spans, from number `n` on. -/
def fillFrom (width : Nat) : Nat → List (Text × Text) → Text
  | _, [] => []
  | n, (_, gap) :: rest => placeholder width n ++ gap ++ fillFrom width (n + 1) rest

/-- The text with a placeholder for each quoted span. -/
def conceal (t : Text) : Text := t.spans.first ++ fillFrom (fenceWidth t) 0 t.spans.rest

/-- The spelling and length of the word at the beginning of a text, if it looks like a
placeholder between fences of the given width; its digits may be of any script. -/
def placeholder? (width : Nat) (t : Text) : Option (Text × Nat) := do
  let afterWord ← Text.after? (fence width ++ placeholderWord) t
  let digits := afterWord.takeWhile isDecimalDigit
  if digits.isEmpty then none
  let _ ← Text.after? (fence width) (afterWord.drop digits.length)
  let length := 2 * width + placeholderWord.length + digits.length
  pure (t.take length, length)

/-- A piece of the masked text with contents for placeholders. A word that only looks like a
placeholder stays. -/
def restore (mask : Mask) (t : Text) : Text :=
  (t.cut (placeholder? mask.width)).fill fun word => (mask.entries.get? word).getD word

/-- Whether the text is one placeholder with blanks around it. -/
def isPlaceholder (mask : Mask) (t : Text) : Bool := mask.entries.has (Text.trim t)

end Mask

end GraphSketch
