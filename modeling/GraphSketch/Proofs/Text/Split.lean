import GraphSketch.Text.Basic
import Mathlib.Data.List.Basic

/-!
# Lines and runs of texts

Splitting at a separator undoes joining with it, piece by piece: `splitOn_join` is the equation
for pieces that hold separators themselves, as those do that stand in for whole blocks of lines.

A run is what comes before the first character of another kind.  Readers of code take runs off the
beginning of a text (`takeWhile_append_cons`, `dropWhile_append_cons`), and two texts that begin with
runs are the same only if their runs are (`eq_of_append_cons`).
-/

set_option autoImplicit false

namespace GraphSketch

namespace Text

theorem splitOn_eq (sep : Char) (t : Text) : splitOn sep t = List.splitOn sep t := by
  induction t with
  | nil => simp [splitOn]
  | cons c cs ih =>
    rw [splitOn, ih, List.splitOn_cons_eq_if_modifyHead]
    simp only [beq_iff_eq]
    split
    · rfl
    · cases hs : List.splitOn sep cs with
      | nil => exact absurd hs (List.splitOn_ne_nil sep cs)
      | cons piece pieces => rfl

theorem splitOn_append_cons (sep : Char) (t u : Text) :
    splitOn sep (t ++ sep :: u) = splitOn sep t ++ splitOn sep u := by
  simp only [splitOn_eq, List.splitOn_append_cons_self]

theorem splitOn_of_notMem {sep : Char} {t : Text} (h : sep ∉ t) : splitOn sep t = [t] := by
  rw [splitOn_eq, List.splitOn_eq_singleton h]

theorem splitOn_append_of_notMem {sep : Char} : ∀ {p : Text} (t : Text), sep ∉ p →
    splitOn sep (p ++ t) = (splitOn sep t).modifyHead (p ++ ·)
  | [], t, _ => by
    cases h : splitOn sep t with
    | nil => rw [List.nil_append, h, List.modifyHead_nil]
    | cons piece pieces => rw [List.nil_append, h, List.modifyHead_cons, List.nil_append]
  | c :: p, t, h => by
    rw [List.mem_cons, not_or] at h
    have ih := splitOn_append_of_notMem t h.2
    rw [List.cons_append, splitOn, if_neg (fun hc => h.1 hc.symm), ih]
    cases hs : splitOn sep t with
    | nil => exact absurd hs (splitOn_ne_nil sep t)
    | cons piece pieces => rfl

theorem splitOn_replicate (sep : Char) : ∀ n : Nat,
    splitOn sep (List.replicate n sep) = List.replicate (n + 1) []
  | 0 => rfl
  | n + 1 => by
    rw [List.replicate_succ, splitOn, if_pos rfl, splitOn_replicate sep n]
    rfl

theorem splitOn_join (sep : Char) : ∀ {ls : List Text}, ls ≠ [] →
    splitOn sep (join [sep] ls) = ls.flatMap (splitOn sep)
  | [], h => absurd rfl h
  | [t], _ => by simp [join]
  | t :: u :: ls, _ => by
    have ih := splitOn_join sep (List.cons_ne_nil u ls)
    rw [join, List.append_assoc, List.singleton_append, splitOn_append_cons, ih]
    rfl

/-- Pieces without separators are what joined texts are split into. -/
theorem splitOn_join_of_notMem {sep : Char} {ls : List Text} (hne : ls ≠ [])
    (h : ∀ t ∈ ls, sep ∉ t) : splitOn sep (join [sep] ls) = ls := by
  rw [splitOn_join sep hne, List.flatMap_congr fun t ht => splitOn_of_notMem (h t ht)]
  exact List.flatMap_singleton' ls

/-- What stands in joined texts stands in one of them or between them. -/
theorem mem_join {c : Char} {sep : Text} : ∀ {ls : List Text}, c ∈ join sep ls →
    c ∈ sep ∨ ∃ t ∈ ls, c ∈ t
  | [t], h => Or.inr ⟨t, List.mem_cons_self, h⟩
  | t :: u :: ls, h => by
    rw [join, List.mem_append, List.mem_append] at h
    rcases h with (h | h) | h
    · exact Or.inr ⟨t, List.mem_cons_self, h⟩
    · exact Or.inl h
    · rcases mem_join h with h | ⟨v, hv, hc⟩
      · exact Or.inl h
      · exact Or.inr ⟨v, List.mem_cons_of_mem _ hv, hc⟩

/-- Texts that end in a line feed each are lines, and nothing is behind the last line feed. -/
theorem lines_flatMap : ∀ {ls : List Text}, (∀ t ∈ ls, '\n' ∉ t) →
    lines (ls.flatMap (· ++ ['\n'])) = ls ++ [[]]
  | [], _ => rfl
  | t :: ls, h => by
    obtain ⟨ht, hls⟩ := List.forall_mem_cons.mp h
    have ih := lines_flatMap hls
    rw [lines] at ih ⊢
    rw [List.flatMap_cons, List.append_assoc, List.singleton_append, splitOn_append_cons, ih,
      splitOn_of_notMem ht]
    rfl

theorem lines_unlines {ls : List Text} (h : ls ≠ []) : lines (unlines ls) = ls.flatMap lines :=
  splitOn_join '\n' h

theorem length_lines (t : Text) : (lines t).length = t.count '\n' + 1 := by
  induction t with
  | nil => rfl
  | cons c t ih =>
    have hne : lines t ≠ [] := List.ne_nil_of_length_pos (by omega)
    rw [lines] at ih hne ⊢
    rw [splitOn, List.count_cons]
    split
    · rename_i hc
      simp [hc, ih]
    · rename_i hc
      obtain ⟨piece, pieces, hp⟩ := List.exists_cons_of_ne_nil hne
      rw [hp] at ih ⊢
      simpa [hc] using ih

/-- What stands between line feeds is the line with the number of those before it. -/
theorem getElem?_lines {before line behind : Text} (hline : '\n' ∉ line)
    (hbefore : before = [] ∨ ∃ p, before = p ++ ['\n'])
    (hbehind : behind = [] ∨ ∃ q, behind = '\n' :: q) :
    (lines (before ++ line ++ behind))[before.count '\n']? = some line := by
  have hfirst : (lines (line ++ behind))[0]? = some line := by
    rcases hbehind with rfl | ⟨q, rfl⟩
    · rw [List.append_nil, lines, splitOn_of_notMem hline]
      rfl
    · rw [lines, splitOn_append_cons, splitOn_of_notMem hline]
      rfl
  rcases hbefore with rfl | ⟨p, rfl⟩
  · exact hfirst
  · have hlength := length_lines p
    rw [lines] at hfirst hlength ⊢
    rw [List.append_assoc, List.append_assoc, List.singleton_append, splitOn_append_cons,
      List.count_append, List.count_singleton_self, ← hlength,
      List.getElem?_append_right (Nat.le_refl _), Nat.sub_self, hfirst]

/-! ## Runs -/

section Runs

variable {p : Char → Bool} {run run' rest rest' : Text} {c c' : Char}

theorem takeWhile_append_cons (hrun : ∀ d ∈ run, p d = true) (hc : p c = false) :
    (run ++ c :: rest).takeWhile p = run := by
  rw [List.takeWhile_append_of_pos hrun, List.takeWhile_cons_of_neg (by simp [hc]), List.append_nil]

theorem dropWhile_append_cons (hrun : ∀ d ∈ run, p d = true) (hc : p c = false) :
    (run ++ c :: rest).dropWhile p = c :: rest := by
  rw [List.dropWhile_append_of_pos hrun, List.dropWhile_cons_of_neg (by simp [hc])]

/-- Texts that are the same up to the first character of another kind, and behind it. -/
theorem eq_of_append_cons (hrun : ∀ d ∈ run, p d = true) (hc : p c = false)
    (hrun' : ∀ d ∈ run', p d = true) (hc' : p c' = false)
    (h : run ++ c :: rest = run' ++ c' :: rest') : run = run' ∧ c = c' ∧ rest = rest' := by
  have htake := congrArg (List.takeWhile p) h
  have hdrop := congrArg (List.dropWhile p) h
  rw [takeWhile_append_cons hrun hc, takeWhile_append_cons hrun' hc'] at htake
  rw [dropWhile_append_cons hrun hc, dropWhile_append_cons hrun' hc'] at hdrop
  exact ⟨htake, List.cons.inj hdrop⟩

end Runs

end Text

end GraphSketch
