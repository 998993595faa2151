import GraphSketch.Text.Basic

/-!
# Texts cut at their tokens

A `Cut` is what a text looks like once certain tokens have been found in it from left to right:
the gap before the first token, and every token with the gap after it. Quoted spans, placeholders
and arrows are found so, each with a function that tells whether a token begins at a place.

* `Text.cut` finds the tokens: at each place it asks for the token that begins there and for its
  length, and goes on behind it, so tokens do not overlap.
* `Cut.tokens` and `Cut.gaps` are the two sides of a cut; there is one more gap than there are
  tokens (`Cut.gaps_length`). `Cut.fill` puts the gaps together with a text for each token.
* `Text.fill_cut` puts the gaps and the spellings of the tokens together and has the text back.

The recursion is on the text, with the number of characters that belong to a token found before.
-/

set_option autoImplicit false

namespace GraphSketch

/-- The gaps of a text and the tokens between them. -/
structure Cut (α : Type) where
  /-- The text before the first token. -/
  first : Text
  /-- The tokens in order, each with the text after it. -/
  rest : List (α × Text)

namespace Cut

variable {α : Type}

/-- The tokens in order. -/
def tokens (cut : Cut α) : List α := cut.rest.map (·.1)

/-- The gaps in order, one more than there are tokens. -/
def gaps (cut : Cut α) : List Text := cut.first :: cut.rest.map (·.2)

/-- The gaps in order, with a text for each token between them. -/
def fill (f : α → Text) (cut : Cut α) : Text :=
  cut.first ++ cut.rest.flatMap fun e => f e.1 ++ e.2

/-- A gap that begins one character earlier. -/
def cons (c : Char) (cut : Cut α) : Cut α := { cut with first := c :: cut.first }

theorem gaps_length (cut : Cut α) : cut.gaps.length = cut.tokens.length + 1 := by
  simp [gaps, tokens]

end Cut

namespace Text

variable {α : Type}

/-- Cuts a text of which the first `skip` characters belong to a token already found. -/
def cutAfter (token? : Text → Option (α × Nat)) : Nat → Text → Cut α
  | _, [] => ⟨[], []⟩
  | skip + 1, _ :: cs => cutAfter token? skip cs
  | 0, c :: cs =>
    match token? (c :: cs) with
    | some (a, n) => let tail := cutAfter token? (n - 1) cs; ⟨[], (a, tail.first) :: tail.rest⟩
    | none => (cutAfter token? 0 cs).cons c

/-- Cuts a text at its tokens: `token?` is asked for the token at the beginning of a text and
for its length. -/
def cut (token? : Text → Option (α × Nat)) (t : Text) : Cut α := cutAfter token? 0 t

theorem fill_cutAfter {token? : Text → Option (α × Nat)} {f : α → Text}
    (h : ∀ t a n, token? t = some (a, n) → 0 < n ∧ f a = t.take n) (skip : Nat) (t : Text) :
    (cutAfter token? skip t).fill f = t.drop skip := by
  induction t generalizing skip with
  | nil => simp [cutAfter, Cut.fill]
  | cons c cs ih =>
    cases skip with
    | succ skip => simpa [cutAfter] using ih skip
    | zero =>
      unfold cutAfter
      split
      · next a n hn =>
        obtain ⟨hpos, hf⟩ := h _ _ _ hn
        have htail := ih (n - 1)
        obtain ⟨k, rfl⟩ : ∃ k, n = k + 1 := ⟨n - 1, by omega⟩
        simp only [Cut.fill, List.flatMap_cons, List.nil_append, List.append_assoc] at htail ⊢
        rw [htail, hf]
        simp
      · have htail := ih 0
        simp only [Cut.fill, List.drop_zero] at htail
        simp [Cut.cons, Cut.fill, htail]

theorem fill_cut {token? : Text → Option (α × Nat)} {f : α → Text}
    (h : ∀ t a n, token? t = some (a, n) → 0 < n ∧ f a = t.take n) (t : Text) :
    (cut token? t).fill f = t := by
  simpa [cut] using fill_cutAfter h 0 t

end Text

end GraphSketch
