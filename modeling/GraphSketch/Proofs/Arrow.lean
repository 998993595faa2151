import GraphSketch.Arrow
import GraphSketch.Proofs.Text.Cut
import GraphSketch.Proofs.Text.Split
import GraphSketch.Proofs.Text.Trim
import Mathlib.Data.Option.Basic

/-!
# The spelling of arrows

`Arrow.Spelled` lists the five forms of an arrow with the label that each carries.  Every arrow
that is found has one of these forms and stands at the beginning of the text it was found in
(`spelled_of_at?`); so it begins with a dash or an angle bracket and ends with one.

* `Arrow.Found` — what a text is like where an arrow is found at its beginning.  The labelled
  forms are told by the run of characters that their label may hold (`IsLabelled`), and the plain
  ones by their spelling; `found_of_at?` goes through the forms in the order in which they are
  tried.
* `token?_length` — an arrow has at least one character, and no more than the text.
* `Chain.spelled_of_mem_arrows` — the same for the arrows of a line, which is what other modules
  use.
* `IsEdgeLabel` — a label is not blank and has no blanks at its ends (`Spelled.isEdgeLabel`).
-/

set_option autoImplicit false

namespace GraphSketch

/-- What is written on an edge: not blank, and without blanks at its ends. -/
def IsEdgeLabel (t : Text) : Prop := Text.isBlankText t = false ∧ Text.trim t = t

namespace Arrow

/-- The forms of an arrow: an opening, the label if there is one, and a closing. -/
inductive Spelled : Arrow → Prop
  | both (l : Text) : Spelled ⟨.bidirectional, cleanLabel l, ['<', '-'] ++ l ++ ['-', '>']⟩
  | forward (l : Text) : Spelled ⟨.forward, cleanLabel l, ['-'] ++ l ++ ['-', '>']⟩
  | plainBoth : Spelled ⟨.bidirectional, none, ['<', '-', '>']⟩
  | plainForward : Spelled ⟨.forward, none, ['-', '>']⟩
  | plainBackward : Spelled ⟨.backward, none, ['<', '-']⟩

/-- A text begins with an arrow that has a label between an opening and the closing. -/
def IsLabelled (direction : Direction) (start : Text) (p : Char → Bool) (t : Text)
    (arrow : Arrow) : Prop :=
  ∃ l rest, t = start ++ (l ++ (['-', '>'] ++ rest)) ∧ l ≠ [] ∧ (∀ c ∈ l, p c = true) ∧
    arrow = ⟨direction, cleanLabel l, start ++ l ++ ['-', '>']⟩

theorem IsLabelled.raw_prefix {direction : Direction} {start : Text} {p : Char → Bool} {t : Text}
    {arrow : Arrow} (h : IsLabelled direction start p t arrow) : arrow.raw <+: t := by
  obtain ⟨l, rest, rfl, -, -, rfl⟩ := h
  exact ⟨rest, by simp⟩

theorem labelledBoth?_eq_some_iff {t : Text} {arrow : Arrow} :
    labelledBoth? t = some arrow ↔
      IsLabelled .bidirectional ['<', '-'] isBothLabelChar t arrow := by
  constructor
  · intro h
    unfold labelledBoth? at h
    split at h
    · rename_i t
      simp only at h
      split at h
      · rename_i rest hrest
        split at h
        · rename_i hrun
          -- the run of label characters ends with the dash of the closing
          have hsplit : t.takeWhile isBothLabelChar =
              (t.takeWhile isBothLabelChar).dropLast ++ ['-'] :=
            (List.dropLast_append_getLast? '-' (by simp [hrun.2])).symm
          have ht : t = t.takeWhile isBothLabelChar ++ '>' :: rest := by
            rw [← hrest, List.takeWhile_append_dropWhile]
          have hpos : ∀ c ∈ t.takeWhile isBothLabelChar, isBothLabelChar c = true := fun c hc =>
            List.mem_takeWhile_imp hc
          generalize t.takeWhile isBothLabelChar = run at h hsplit ht hrun hpos
          cases h
          refine ⟨run.dropLast, rest, ?_, ?_, fun c hc => hpos c (List.dropLast_subset run hc), ?_⟩
          · rw [ht, hsplit]
            simp
          · rw [← List.length_pos_iff, List.length_dropLast]
            omega
          · simp only [Arrow.mk.injEq, true_and]
            rw [hsplit]
            simp
        · cases h
      · cases h
    · cases h
  · rintro ⟨l, rest, rfl, hne, hl, rfl⟩
    have hpos : ∀ c ∈ l ++ ['-'], isBothLabelChar c = true := fun c hc => by
      rcases List.mem_append.mp hc with hc | hc
      · exact hl c hc
      · rw [List.mem_singleton.mp hc]
        rfl
    have hrun : (l ++ ['-'] ++ '>' :: rest).takeWhile _ = l ++ ['-'] :=
      Text.takeWhile_append_cons hpos rfl
    have hend : (l ++ ['-'] ++ '>' :: rest).dropWhile _ = '>' :: rest :=
      Text.dropWhile_append_cons hpos rfl
    have hlast : (l ++ ['-']).getLast? = some '-' := List.getLast?_concat
    have ht : ['<', '-'] ++ (l ++ (['-', '>'] ++ rest)) =
        '<' :: '-' :: (l ++ ['-'] ++ '>' :: rest) := by simp
    rw [ht, labelledBoth?, hrun, hend]
    simp [hne, hlast]

theorem labelledForward?_eq_some_iff {t : Text} {arrow : Arrow} :
    labelledForward? t = some arrow ↔ IsLabelled .forward ['-'] isForwardLabelChar t arrow := by
  constructor
  · intro h
    unfold labelledForward? at h
    split at h
    · rename_i t
      simp only at h
      split at h
      · rename_i rest hrest
        split at h
        · cases h
        · rename_i hrun
          have ht : t = t.takeWhile isForwardLabelChar ++ '-' :: '>' :: rest := by
            rw [← hrest, List.takeWhile_append_dropWhile]
          have hpos : ∀ c ∈ t.takeWhile isForwardLabelChar, isForwardLabelChar c = true :=
            fun c hc => List.mem_takeWhile_imp hc
          generalize t.takeWhile isForwardLabelChar = run at h ht hrun hpos
          cases h
          exact ⟨run, rest, by rw [ht]; rfl, by simpa using hrun, hpos, by simp⟩
      · cases h
    · cases h
  · rintro ⟨l, rest, rfl, hne, hl, rfl⟩
    have hrun : (l ++ '-' :: '>' :: rest).takeWhile _ = l :=
      Text.takeWhile_append_cons hl rfl
    have hend : (l ++ '-' :: '>' :: rest).dropWhile _ = '-' :: '>' :: rest :=
      Text.dropWhile_append_cons hl rfl
    simp [labelledForward?, hrun, hend, hne]

theorem plain?_eq_some {direction : Direction} {raw t : Text} {arrow : Arrow}
    (h : plain? direction raw t = some arrow) : arrow = ⟨direction, none, raw⟩ ∧ arrow.raw <+: t := by
  unfold plain? at h
  split at h
  · rename_i hp
    cases h
    exact ⟨rfl, List.isPrefixOf_iff_prefix.mp hp⟩
  · cases h

/-- Everything that can be found at the beginning of a text, and what the text is like there. -/
inductive Found (t : Text) : Arrow → Prop
  | labelledBoth {arrow : Arrow}
      (h : IsLabelled .bidirectional ['<', '-'] isBothLabelChar t arrow) : Found t arrow
  | labelled {arrow : Arrow} (h : IsLabelled .forward ['-'] isForwardLabelChar t arrow) :
      Found t arrow
  | both (h : ['<', '-', '>'] <+: t) : Found t ⟨.bidirectional, none, ['<', '-', '>']⟩
  | forward (h : ['-', '>'] <+: t) : Found t ⟨.forward, none, ['-', '>']⟩
  | backward (h : ['<', '-'] <+: t) : Found t ⟨.backward, none, ['<', '-']⟩

theorem found_of_at? {t : Text} {arrow : Arrow} (h : at? t = some arrow) : Found t arrow := by
  simp only [at?, Option.orElse_eq_some] at h
  rcases h with h | ⟨_, h | ⟨_, h | ⟨_, h | ⟨_, h⟩⟩⟩⟩
  · exact .labelledBoth (labelledBoth?_eq_some_iff.mp h)
  · obtain ⟨rfl, hp⟩ := plain?_eq_some h
    exact .both hp
  · exact .labelled (labelledForward?_eq_some_iff.mp h)
  · obtain ⟨rfl, hp⟩ := plain?_eq_some h
    exact .forward hp
  · obtain ⟨rfl, hp⟩ := plain?_eq_some h
    exact .backward hp

/-- **An arrow is found as it is spelled**, at the beginning of the text. -/
theorem spelled_of_at? {t : Text} {arrow : Arrow} (h : at? t = some arrow) :
    Spelled arrow ∧ arrow.raw <+: t := by
  cases found_of_at? h with
  | labelledBoth hlabelled =>
    obtain ⟨l, -, -, -, -, rfl⟩ := id hlabelled
    exact ⟨.both l, hlabelled.raw_prefix⟩
  | labelled hlabelled =>
    obtain ⟨l, -, -, -, -, rfl⟩ := id hlabelled
    exact ⟨.forward l, hlabelled.raw_prefix⟩
  | both hp => exact ⟨.plainBoth, hp⟩
  | forward hp => exact ⟨.plainForward, hp⟩
  | backward hp => exact ⟨.plainBackward, hp⟩

theorem token?_eq_some {t : Text} {arrow : Arrow} {n : Nat} (h : token? t = some (arrow, n)) :
    Spelled arrow ∧ arrow.raw <+: t ∧ n = arrow.raw.length := by
  obtain ⟨found, hat, heq⟩ := Option.map_eq_some_iff.mp h
  cases heq
  obtain ⟨hs, hp⟩ := spelled_of_at? hat
  exact ⟨hs, hp, rfl⟩

theorem token?_length (t : Text) (arrow : Arrow) (n : Nat) (h : token? t = some (arrow, n)) :
    0 < n ∧ n ≤ t.length := by
  obtain ⟨hspelled, hprefix, rfl⟩ := token?_eq_some h
  refine ⟨?_, hprefix.length_le⟩
  cases hspelled <;> simp

theorem isEdgeLabel_of_cleanLabel {t label : Text} (h : cleanLabel t = some label) :
    IsEdgeLabel label := by
  obtain ⟨hne, rfl⟩ := Text.nonEmpty?_eq_some_iff.mp h
  refine ⟨?_, Text.trim_trim t⟩
  rw [← Bool.not_eq_true, ← Text.trim_eq_nil_iff, Text.trim_trim]
  exact hne

theorem Spelled.isEdgeLabel {arrow : Arrow} (h : Spelled arrow) {label : Text}
    (hl : arrow.label = some label) : IsEdgeLabel label := by
  cases h with
  | both l => exact isEdgeLabel_of_cleanLabel hl
  | forward l => exact isEdgeLabel_of_cleanLabel hl
  | plainBoth => cases hl
  | plainForward => cases hl
  | plainBackward => cases hl

end Arrow

namespace Chain

theorem spelled_of_mem_arrows {line : Text} {arrow : Arrow}
    (h : arrow ∈ (ofLine line).arrows) : arrow.Spelled := by
  obtain ⟨s, n, hs⟩ := Text.exists_of_mem_tokens h
  exact (Arrow.token?_eq_some hs).1

end Chain

end GraphSketch
