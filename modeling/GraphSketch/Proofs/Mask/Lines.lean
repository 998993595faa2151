import GraphSketch.Proofs.Mask.Runs

/-!
# Logical lines

Line feeds inside quoted spans do not end lines.  `logicalLines` are the lines of a text in this
sense, each with what stands before it in the text; `standsIn_of_mem_logicalLines` says what that
means, and `lines_masked` that they are the lines of the masked text.

* `Marked.lines` — marked text cut at the line feeds outside all spans, which can be joined again
  (`join_lines`).
* `lines_masked`, `lines_conceal` — no placeholder holds a line feed, so the lines of the masked
  text are those of the marked one.
* `LogicalLine.number` — one more than there are line feeds before the line, inside of spans or
  not.
* `LogicalLine.StandsIn` — what makes a piece of a text a line of it, said of the text alone: it
  stands between two line feeds outside spans, or ends of the text, with no such line feed in
  between.
-/

set_option autoImplicit false

namespace GraphSketch

namespace Marked

/-- The lines, which end at line feeds outside all spans. -/
def lines (s : Marked) : List Marked := s.splitOn (.char '\n')

theorem lines_ne_nil (s : Marked) : lines s ≠ [] := List.splitOn_ne_nil _ s

theorem lines_append_feed (s s' : Marked) :
    lines (s ++ .char '\n' :: s') = lines s ++ lines s' := List.splitOn_append_cons_self ..

theorem lines_of_notMem {s : Marked} (h : .char '\n' ∉ s) : lines s = [s] :=
  List.splitOn_eq_singleton h

theorem join_lines (s : Marked) : [Symbol.char '\n'].intercalate (lines s) = s :=
  List.intercalate_splitOn _

theorem feed_notMem_of_mem_lines {l : Marked} : ∀ {s : Marked}, l ∈ lines s → .char '\n' ∉ l
  | [], h => by
    rw [lines, List.splitOn_nil, List.mem_singleton] at h
    rw [h]
    exact List.not_mem_nil
  | x :: s, h => by
    rw [lines, List.splitOn_cons_eq_if_modifyHead] at h
    split at h
    · rcases List.mem_cons.mp h with rfl | h
      · exact List.not_mem_nil
      · exact feed_notMem_of_mem_lines h
    · rename_i hx
      obtain ⟨first, rest, hs⟩ := List.exists_cons_of_ne_nil (lines_ne_nil s)
      rw [show List.splitOn (Symbol.char '\n') s = first :: rest from hs, List.modifyHead_cons] at h
      rcases List.mem_cons.mp h with rfl | h
      · intro hmem
        rcases List.mem_cons.mp hmem with rfl | hmem
        · exact hx (beq_self_eq_true _)
        · exact feed_notMem_of_mem_lines (hs ▸ List.mem_cons_self) hmem
      · exact feed_notMem_of_mem_lines (hs ▸ List.mem_cons_of_mem first h)

theorem feed_notMem_masked {width : Nat} {s : Marked} (h : .char '\n' ∉ s) :
    '\n' ∉ s.masked width := notMem_masked (by decide) h

theorem lines_masked (width : Nat) (s : Marked) :
    Text.lines (s.masked width) = (lines s).map (masked width) := splitOn_masked (by decide) width s

theorem lines_conceal (t : Text) :
    Text.lines (Mask.conceal t) = (ofText t).lines.map (masked (fenceWidth t)) := by
  rw [← masked_ofText, lines_masked]

/-- Contents of spans have the line feeds that the spans have as they are written. -/
theorem count_filled (s : Marked) : s.filled.count '\n' = s.source.count '\n' := by
  induction s with
  | nil => rfl
  | cons x s ih =>
    rw [filled_cons, source_cons, List.count_append, List.count_append, ih]
    cases x with
    | char c => rfl
    | span n content =>
      rw [Symbol.filled, Symbol.source, count_unescapeQuotes (by decide) (by decide)]
      simp

end Marked

/-- A line of a text. -/
structure LogicalLine where
  /-- What stands before the line, as it is written. -/
  before : Text
  /-- The line with its spans marked. -/
  symbols : Marked

namespace LogicalLine

/-- The number of the line: one more than there are line feeds before it, inside of spans or not. -/
def number (l : LogicalLine) : Nat := 1 + l.before.count '\n'

/-- The line with placeholders for its spans. -/
def masked (mask : Mask) (l : LogicalLine) : Text := l.symbols.masked mask.width

/-- Lines that follow each other, the first behind `before`. -/
def placed : Text → List Marked → List LogicalLine
  | _, [] => []
  | before, s :: rest => ⟨before, s⟩ :: placed (before ++ s.source ++ ['\n']) rest

/-- A greatest piece of a text between line feeds outside quoted spans. -/
structure StandsIn (l : LogicalLine) (t : Text) : Prop where
  feed_notMem : .char '\n' ∉ l.symbols
  between : ∃ pre post : Marked, Marked.ofText t = pre ++ l.symbols ++ post ∧
    l.before = pre.source ∧ (pre = [] ∨ ∃ p, pre = p ++ [.char '\n']) ∧
      (post = [] ∨ ∃ q, post = .char '\n' :: q)

theorem StandsIn.isInfix_symbols {l : LogicalLine} {t : Text} (h : l.StandsIn t) :
    l.symbols <:+: Marked.ofText t := by
  obtain ⟨pre, post, heq, _⟩ := h.between
  exact ⟨pre, post, heq.symm⟩

theorem StandsIn.isPrefix_source {l : LogicalLine} {t : Text} (h : l.StandsIn t) :
    l.before ++ l.symbols.source <+: t := by
  obtain ⟨pre, post, heq, hbefore, _⟩ := h.between
  refine ⟨post.source, ?_⟩
  rw [hbefore, ← Marked.source_append, ← Marked.source_append, ← heq, Marked.source_ofText]

theorem map_symbols_placed : ∀ (before : Text) (ls : List Marked),
    (placed before ls).map (·.symbols) = ls
  | _, [] => rfl
  | before, s :: rest => by rw [placed, List.map_cons, map_symbols_placed]

theorem mem_placed {l : LogicalLine} : ∀ (pre : Marked) {ls : List Marked},
    (pre = [] ∨ ∃ p, pre = p ++ [.char '\n']) → l ∈ placed pre.source ls →
      ∃ pre' post : Marked, pre ++ [Symbol.char '\n'].intercalate ls = pre' ++ l.symbols ++ post ∧
        l.before = pre'.source ∧ (pre' = [] ∨ ∃ p, pre' = p ++ [.char '\n']) ∧
          (post = [] ∨ ∃ q, post = .char '\n' :: q)
  | _, [], _, h => by cases h
  | pre, s :: rest, hpre, h => by
    rw [placed, List.mem_cons] at h
    rcases h with rfl | h
    · cases rest with
      | nil => exact ⟨pre, [], by simp, rfl, hpre, Or.inl rfl⟩
      | cons next rest =>
        exact ⟨pre, .char '\n' :: [Symbol.char '\n'].intercalate (next :: rest), by simp, rfl, hpre,
          Or.inr ⟨_, rfl⟩⟩
    · have hsource : pre.source ++ s.source ++ ['\n'] = Marked.source (pre ++ s ++ [.char '\n']) := by
        simp [Symbol.source]
      rw [hsource] at h
      obtain ⟨pre', post, heq, hrest⟩ := mem_placed _ (Or.inr ⟨_, rfl⟩) h
      refine ⟨pre', post, ?_, hrest⟩
      cases rest with
      | nil => cases h
      | cons next rest => rw [← heq]; simp

end LogicalLine

/-- The lines of a text. -/
def logicalLines (t : Text) : List LogicalLine := LogicalLine.placed [] (Marked.ofText t).lines

theorem standsIn_of_mem_logicalLines {l : LogicalLine} {t : Text} (h : l ∈ logicalLines t) :
    l.StandsIn t := by
  constructor
  · have hmem : l.symbols ∈ (Marked.ofText t).lines := by
      rw [← LogicalLine.map_symbols_placed [] (Marked.ofText t).lines]
      exact List.mem_map_of_mem h
    exact Marked.feed_notMem_of_mem_lines hmem
  · obtain ⟨pre, post, heq, hrest⟩ := LogicalLine.mem_placed [] (Or.inl rfl) h
    rw [List.nil_append, Marked.join_lines] at heq
    exact ⟨pre, post, heq, hrest⟩

end GraphSketch
