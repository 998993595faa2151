import GraphSketch.Proofs.Mask.Chain
import GraphSketch.Proofs.Mask.Lines
import GraphSketch.Proofs.Mask.Request
import GraphSketch.Proofs.Mask.Scanner
import Mathlib.Algebra.GroupWithZero.Nat

/-!
# Masked text restored piece by piece

Masked text is cut into lines, and each line into gaps and arrows.  The cuts go between symbols of
the marked text, so no placeholder is torn by them, and none is put together by taking away what
stands beside a piece.  Restoring therefore may be done before the pieces are joined or after it.

* `exists_markedPieces` — the pieces of masked text are masked pieces of the marked one.
* `tokens_masked` — the words that are read as placeholders, in any piece.
* `Mask.pieces_restored` — what all this means for the text as a whole.
-/

set_option autoImplicit false

namespace GraphSketch

/-- The gaps of a chain and the spellings of its arrows, in the order in which they stand in the
line. -/
def Chain.pieces (chain : Chain) : List Text :=
  chain.first :: chain.rest.flatMap fun e => [e.1.raw, e.2]

/-- The pieces that masked text is cut into: the gaps and the arrows of each line, with a line feed
between lines. -/
def Mask.pieces (t : Text) : List Text :=
  [['\n']].intercalate ((Text.lines t).map fun line => (Chain.ofLine line).pieces)

namespace MarkedChain

open Marked

/-- The gaps and arrows of a marked chain in order. -/
def pieces (chain : MarkedChain) : List Marked :=
  chain.first :: chain.rest.flatMap fun e => [e.1.symbols, e.2]

theorem flatten_pieces (chain : MarkedChain) : chain.pieces.flatten = chain.symbols := by
  rw [pieces, symbols, List.flatten_cons, ← List.flatMap_id, List.flatMap_assoc]
  simp

theorem pieces_read (f : Marked → Text) (chain : MarkedChain) :
    (chain.read f).pieces = chain.pieces.map f := by
  simp only [Chain.pieces, read, pieces, List.map_cons, List.map_flatMap, List.flatMap_map,
    List.map_nil, MarkedArrow.read]

end MarkedChain

namespace Marked

/-! ## Pieces of marked text -/

/-- **The pieces of masked lines** are masked pieces. -/
theorem exists_markedPieces_lines (width : Nat) : ∀ ls : List Marked, ∃ ps : List Marked,
    ps.flatten = [Symbol.char '\n'].intercalate ls ∧
      [['\n']].intercalate (ls.map fun s => (Chain.ofLine (masked width s)).pieces) =
        ps.map (masked width)
  | [] => ⟨[], rfl, rfl⟩
  | [s] => by
    obtain ⟨chain, hsymbols, hread⟩ := MarkedChain.exists_markedChain s
    refine ⟨chain.pieces, ?_, ?_⟩
    · rw [chain.flatten_pieces, hsymbols, List.intercalate_singleton]
    · rw [List.map_singleton, List.intercalate_singleton, hread, MarkedChain.pieces_read]
  | s :: next :: ls => by
    obtain ⟨chain, hsymbols, hread⟩ := MarkedChain.exists_markedChain s
    obtain ⟨ps, hflatten, hps⟩ := exists_markedPieces_lines width (next :: ls)
    refine ⟨chain.pieces ++ [.char '\n'] :: ps, ?_, ?_⟩
    · rw [List.intercalate_cons_cons, List.flatten_append, List.flatten_cons, chain.flatten_pieces,
        hsymbols, hflatten, List.append_assoc]
    · rw [List.map_cons] at hps
      rw [List.map_cons, List.map_cons, List.intercalate_cons_cons, hps, hread,
        MarkedChain.pieces_read, List.map_append, List.append_assoc]
      rfl

/-- **The pieces of masked text** are masked pieces of the marked text. -/
theorem exists_markedPieces (t : Text) : ∃ ps : List Marked, ps.flatten = ofText t ∧
    Mask.pieces (Mask.conceal t) = ps.map (masked (fenceWidth t)) := by
  obtain ⟨ps, hflatten, hps⟩ := exists_markedPieces_lines (fenceWidth t) (ofText t).lines
  refine ⟨ps, hflatten.trans (join_lines _), ?_⟩
  rw [Mask.pieces, lines_conceal, List.map_map]
  exact hps

theorem masked_flatten (width : Nat) (ps : List Marked) :
    masked width ps.flatten = (ps.map (masked width)).flatten := by
  rw [masked, ← List.flatMap_id, List.flatMap_assoc, List.flatMap_def]
  rfl

theorem filled_flatten (ps : List Marked) : filled ps.flatten = ps.flatMap filled := by
  rw [filled, ← List.flatMap_id, List.flatMap_assoc]
  rfl

theorem infix_flatten_of_mem {s : Marked} {ps : List Marked} (h : s ∈ ps) : s <:+: ps.flatten := by
  obtain ⟨before, behind, rfl⟩ := List.append_of_mem h
  exact ⟨before.flatten, behind.flatten, by simp⟩

/-! ## Words that are read as placeholders -/

/-- The placeholder of a symbol, if it is a span. -/
def placeholder? (width : Nat) : Symbol → Option Text
  | .char _ => none
  | .span n _ => some (Mask.placeholder width n)

/-- The placeholders of the spans in order. -/
def placeholders (width : Nat) (s : Marked) : List Text := s.filterMap (placeholder? width)

theorem placeholders_map_char (width : Nat) (t : Text) :
    placeholders width (t.map .char) = [] := by
  induction t with
  | nil => rfl
  | cons c t ih => exact ih

theorem placeholders_ofSpansFrom (width : Nat) : ∀ (n : Nat) (rest : List (Text × Text)),
    placeholders width (ofSpansFrom n rest) =
      (List.range' n rest.length).map (Mask.placeholder width)
  | _, [] => rfl
  | n, (content, gap) :: rest => by
    have ih := placeholders_ofSpansFrom width (n + 1) rest
    have hgap := placeholders_map_char width gap
    rw [placeholders] at ih hgap ⊢
    rw [ofSpansFrom, List.filterMap_cons, placeholder?, List.filterMap_append, hgap, ih,
      List.nil_append, List.length_cons, List.range'_succ, List.map_cons]

/-- The placeholders in a text are those that masking has put into it. -/
theorem placeholders_ofText (t : Text) :
    placeholders (fenceWidth t) (ofText t) = (Mask.ofText t).entries.keys := by
  have hchars := placeholders_map_char (fenceWidth t) t.spans.first
  have hspans := placeholders_ofSpansFrom (fenceWidth t) 0 t.spans.rest
  rw [placeholders] at hchars hspans ⊢
  rw [ofText, List.filterMap_append, hchars, hspans, Mask.entries, Mask.keys_entriesFrom,
    List.nil_append]
  simp [Mask.ofText, Cut.tokens]

theorem placeholders_flatten (width : Nat) (ps : List Marked) :
    placeholders width ps.flatten = ps.flatMap (placeholders width) :=
  List.filterMap_flatten

/-- **What is read as a placeholder** in masked text is the placeholder of a span, as long as no
opening occurs in the text as written. -/
theorem tokens_masked {width : Nat} (hw : 2 ≤ width) : ∀ {s : Marked},
    ¬ Mask.opening width <:+: s.source →
      ((masked width s).cut (Mask.placeholder? width)).tokens = placeholders width s
  | [], _ => rfl
  | .char c :: s, hsafe => by
    have ih := tokens_masked hw (s := s)
      fun hi => hsafe (hi.trans (List.suffix_cons c (source s)).isInfix)
    have hnone := placeholder?_of_char hw hsafe
    rw [masked_cons, Symbol.masked, List.singleton_append] at hnone ⊢
    rw [Text.cut_of_none hnone]
    exact ih
  | .span n content :: s, hsafe => by
    have ih := tokens_masked hw (s := s)
      fun hi => hsafe (hi.trans (List.suffix_append _ (source s)).isInfix)
    rw [masked_cons, Symbol.masked,
      Text.cut_of_token (placeholder_ne_nil width n) (Mask.placeholder?_of_placeholder hw n _)]
    exact congrArg (Mask.placeholder width n :: ·) ih

end Marked

namespace Mask

open Marked

/-! ## The text as a whole -/

theorem flatMap_restore_masked {t : Text} {ps : List Marked}
    (h : ps.flatten <:+: Marked.ofText t) :
    (ps.map (masked (fenceWidth t))).flatMap (ofText t).restore =
      (ofText t).restore (masked (fenceWidth t) ps.flatten) := by
  rw [restore_masked h, filled_flatten, List.flatMap_map]
  exact List.flatMap_congr fun s hs => restore_masked ((infix_flatten_of_mem hs).trans h)

theorem restore_feed (t : Text) : (ofText t).restore ['\n'] = ['\n'] := by
  have hshort : ¬ opening (fenceWidth t) <:+: ['\n'] := fun hi => by
    have hlength := hi.length_le
    rw [opening_length, List.length_singleton] at hlength
    omega
  exact fill_cut_masked (two_le_fenceWidth t) (s := [.char '\n']) hshort nofun

theorem unlines_map_filled : ∀ ls : List Marked,
    Text.unlines (ls.map filled) = filled ([Symbol.char '\n'].intercalate ls)
  | [] => rfl
  | [s] => by rw [List.intercalate_singleton]; rfl
  | s :: next :: ls => by
    have ih := unlines_map_filled (next :: ls)
    calc Text.unlines ((s :: next :: ls).map filled)
        = filled s ++ filled [.char '\n'] ++ Text.unlines ((next :: ls).map filled) := rfl
      _ = filled ([Symbol.char '\n'].intercalate (s :: next :: ls)) := by
        rw [ih, List.intercalate_cons_cons, filled_append, filled_append]

theorem sum_count_lines : ∀ {ls : List Text}, ls ≠ [] →
    (ls.map (List.count '\n')).sum + ls.length = (Text.unlines ls).count '\n' + 1
  | [], h => absurd rfl h
  | [l], _ => by simp [Text.unlines, Text.join]
  | l :: next :: ls, _ => by
    have ih := sum_count_lines (List.cons_ne_nil next ls)
    have hjoin : Text.unlines (l :: next :: ls) = l ++ ['\n'] ++ Text.unlines (next :: ls) := rfl
    rw [hjoin, List.count_append, List.count_append, List.count_singleton_self]
    simp only [List.map_cons, List.sum_cons, List.length_cons] at ih ⊢
    omega

theorem unlines_map_restore (t : Text) :
    Text.unlines ((Text.lines (conceal t)).map (ofText t).restore) =
      (ofText t).restore (conceal t) := by
  have hlines : (Text.lines (conceal t)).map (ofText t).restore =
      (Marked.ofText t).lines.map filled := by
    rw [lines_conceal, List.map_map]
    exact List.map_congr_left fun s hs => restore_masked (infix_of_mem_splitOn hs)
  rw [hlines, unlines_map_filled, ← masked_ofText, restore_masked List.infix_rfl]
  exact congrArg filled (join_lines (Marked.ofText t))

theorem flatMap_restore_pieces_line {t line : Text} (h : line ∈ Text.lines (conceal t)) :
    (Chain.ofLine line).pieces.flatMap (ofText t).restore = (ofText t).restore line := by
  rw [lines_conceal] at h
  obtain ⟨s, hs, rfl⟩ := List.mem_map.mp h
  obtain ⟨chain, hsymbols, hread⟩ := MarkedChain.exists_markedChain s
  have hpieces := chain.flatten_pieces.trans hsymbols
  rw [hread, MarkedChain.pieces_read,
    flatMap_restore_masked (hpieces ▸ infix_of_mem_splitOn hs), hpieces]

/-- What cutting masked text into pieces means for its placeholders. -/
structure RestoredByPieces (t : Text) : Prop where
  /-- Nothing is lost by cutting. -/
  flatten_eq : (pieces (conceal t)).flatten = conceal t
  /-- Every cut lies between two symbols of the text, so it tears no placeholder. -/
  cut_between : ∀ before behind, pieces (conceal t) = before ++ behind →
    ∃ a b : Marked, Marked.ofText t = a ++ b ∧ a.masked (fenceWidth t) = before.flatten ∧
      b.masked (fenceWidth t) = behind.flatten
  /-- In the whole text the words are read as placeholders that masking has put into it. -/
  tokens_eq : ((conceal t).cut (placeholder? (fenceWidth t))).tokens = (ofText t).entries.keys
  /-- The same words are read in the pieces, and no others. -/
  tokens_pieces : ((pieces (conceal t)).flatMap fun p =>
    (p.cut (placeholder? (fenceWidth t))).tokens) = (ofText t).entries.keys
  /-- Restored pieces make the restored text, with line feeds between lines as they are. -/
  restore_pieces : (pieces (conceal t)).flatMap (ofText t).restore = (ofText t).restore (conceal t)
  restore_feed : (ofText t).restore ['\n'] = ['\n']
  /-- It is the same for each line, and for the lines that the text has. -/
  restore_line : ∀ line ∈ Text.lines (conceal t),
    (Chain.ofLine line).pieces.flatMap (ofText t).restore = (ofText t).restore line
  restore_lines : Text.unlines ((Text.lines (conceal t)).map (ofText t).restore) =
    (ofText t).restore (conceal t)
  /-- So line feeds may be counted line by line. -/
  count_lines : ((Text.lines (conceal t)).map fun line =>
      ((ofText t).restore line).count '\n').sum + (Text.lines (conceal t)).length =
    ((ofText t).restore (conceal t)).count '\n' + 1

/-- **Restoring piece by piece** is restoring the whole. -/
theorem pieces_restored (t : Text) : RestoredByPieces t := by
  obtain ⟨ps, hflatten, hps⟩ := exists_markedPieces t
  have htokens : ∀ s, s <:+: Marked.ofText t →
      ((masked (fenceWidth t) s).cut (placeholder? (fenceWidth t))).tokens =
        placeholders (fenceWidth t) s := fun s hs =>
    tokens_masked (two_le_fenceWidth t) (opening_notInfix_source hs)
  have hrestore := @flatMap_restore_masked t ps (hflatten ▸ List.infix_rfl)
  have hcount := @sum_count_lines ((Text.lines (conceal t)).map (ofText t).restore)
    (by simp [Text.lines, Text.splitOn_ne_nil])
  rw [unlines_map_restore, List.map_map, List.length_map] at hcount
  refine ⟨?_, fun before behind hcut => ?_, ?_, ?_, ?_, restore_feed t,
    fun _ => flatMap_restore_pieces_line, unlines_map_restore t, hcount⟩
  · rw [hps, ← masked_flatten, hflatten, masked_ofText]
  · obtain ⟨as, bs, rfl, rfl, rfl⟩ := List.map_eq_append_iff.mp (hps.symm.trans hcut)
    exact ⟨as.flatten, bs.flatten, by rw [← hflatten, List.flatten_append],
      masked_flatten _ _, masked_flatten _ _⟩
  · rw [← masked_ofText, htokens _ List.infix_rfl, placeholders_ofText]
  · have hpieces : ∀ s ∈ ps, _ := fun s hs => htokens s (hflatten ▸ infix_flatten_of_mem hs)
    rw [hps, List.flatMap_map, List.flatMap_congr hpieces, ← placeholders_ofText, ← hflatten,
      placeholders_flatten]
  · rw [hps, hrestore, hflatten, masked_ofText]

/-- Underscores beside a placeholder, an arrow with a placeholder for a label, and a word that is
nearly a placeholder. -/
example :
    let t : Text := "\"a\nb\"_-\"->\"->QUOTED_1__\n\"c\""
    pieces (conceal t) = ["__QUOTED_0___", "-__QUOTED_1__->", "QUOTED_1__", "\n", "__QUOTED_2__"] ∧
      (pieces (conceal t)).map (ofText t).restore = ["a\nb_", "-->->", "QUOTED_1__", "\n", "c"] := by
  decide +kernel

end Mask

end GraphSketch
