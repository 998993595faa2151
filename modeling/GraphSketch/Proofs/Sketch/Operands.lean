import GraphSketch.Proofs.Mask.Scanner
import GraphSketch.Proofs.Sketch.Alike

/-!
# What operands mean

Whether an operand is a quoted label is found out in the masked line: it is one if it is a
placeholder.  No other text passes for one, whatever it has in it, because an operand is a
placeholder exactly if it is written as one quoted span (`isPlaceholder_masked`).  Such an operand is a
label as it stands, and any other is a reference if it begins with a colon.

* `IsQuotedSpan` — how one quoted span is written, told without the masked text.
* `isSpan_iff_isQuotedSpan` — a piece of a text is written as one span exactly if it is marked as one.
* `lineOperands_of_mem` — what the operands of a line mean.
-/

set_option autoImplicit false

namespace GraphSketch

/-- The text is one quoted span, with these parts between its quotes. -/
def IsQuotedSpan (t : Text) (parts : List SpanPart) : Prop :=
  (∀ p ∈ parts, p.Proper) ∧ t = '"' :: (parts.flatMap SpanPart.written ++ ['"'])

/-- **A span is read up to its quote**, whatever follows it. -/
theorem spanContent?_written : ∀ {parts : List SpanPart}, (∀ p ∈ parts, p.Proper) → ∀ rest : Text,
    spanContent? (parts.flatMap SpanPart.written ++ '"' :: rest) =
      some (parts.flatMap SpanPart.written)
  | [], _, _ => rfl
  | p :: parts, h, rest => by
    obtain ⟨hfirst, hrest⟩ := List.forall_mem_cons.mp h
    have ih := spanContent?_written hrest rest
    cases p with
    | plain c =>
      rw [List.flatMap_cons, SpanPart.written, List.singleton_append, List.cons_append,
        spanContent?_cons hfirst.1 hfirst.2, ih]
      rfl
    | escaped c =>
      rw [List.flatMap_cons, SpanPart.written, List.append_assoc, List.cons_append,
        List.singleton_append, spanContent?_slash, ih]
      rfl

namespace Marked

theorem source_ofTextFrom (n : Nat) (t : Text) : source (ofTextFrom n t) = t := by
  have h := source_ofText t
  rw [ofText, source_append, source_ofSpansFrom] at h
  rw [ofTextFrom, source_append, source_ofSpansFrom, h]

theorem span?_of_char {t : Text} {n : Nat} {pre rest : Marked} {c : Char}
    (h : ofTextFrom n t = pre ++ .char c :: rest) : span? (c :: rest.source) = none := by
  induction t using Text.spans_induction generalizing n pre with
  | nil => simp at h
  | char d t hnone ih =>
    rw [ofTextFrom_cons hnone] at h
    cases pre with
    | nil =>
      obtain ⟨hchar, rfl⟩ := List.cons.inj h
      cases hchar
      rw [source_ofTextFrom, hnone]
    | cons x pre => exact ih (List.cons.inj h).2
  | span quoted t content hne hspan ih =>
    rw [ofTextFrom_span hne t hspan] at h
    cases pre with
    | nil => cases (List.cons.inj h).1
    | cons x pre => exact ih (List.cons.inj h).2

theorem exists_parts_of_mem_markFrom {number : Nat} {content : Text} : ∀ {n : Nat}
    {items : List ScanItem}, .span number content ∈ Scan.markFrom n items →
      ∃ parts, .span parts ∈ items ∧ content = parts.flatMap SpanPart.written
  | _, [], h => by cases h
  | n, .char c :: items, h => by
    rcases List.mem_cons.mp h with h | h
    · cases h
    · obtain ⟨parts, hmem, heq⟩ := exists_parts_of_mem_markFrom h
      exact ⟨parts, List.mem_cons_of_mem _ hmem, heq⟩
  | n, .span parts :: items, h => by
    rcases List.mem_cons.mp h with h | h
    · cases h
      exact ⟨parts, List.mem_cons_self, rfl⟩
    · obtain ⟨parts, hmem, heq⟩ := exists_parts_of_mem_markFrom h
      exact ⟨parts, List.mem_cons_of_mem _ hmem, heq⟩

theorem exists_parts_of_mem_ofText {t content : Text} {n : Nat} (h : .span n content ∈ ofText t) :
    ∃ parts : List SpanPart, (∀ p ∈ parts, p.Proper) ∧
      content = parts.flatMap SpanPart.written := by
  obtain ⟨hproper, hmarked⟩ := t.ofText_eq_scan
  rw [hmarked, List.mem_append] at h
  rcases h with h | h
  · obtain ⟨parts, hmem, heq⟩ := exists_parts_of_mem_markFrom h
    exact ⟨parts, hproper parts hmem, heq⟩
  · simp at h

theorem source_eq_nil_iff {s : Marked} : source s = [] ↔ s = [] := by
  cases s with
  | nil => simp
  | cons x s => cases x <;> simp [Symbol.source]

/-- A piece of a text that is written as one span is marked as one. -/
theorem eq_span_of_isQuotedSpan {t : Text} {s : Marked} (h : s <:+: ofText t)
    {parts : List SpanPart} (hparts : IsQuotedSpan s.source parts) :
    ∃ n, s = [.span n (parts.flatMap SpanPart.written)] := by
  obtain ⟨hproper, hsource⟩ := hparts
  cases s with
  | nil => cases hsource
  | cons x s =>
    cases x with
    | char c =>
      -- the quote has its partner within the piece, so it would have been marked as a span
      obtain ⟨a, b, hab⟩ := h
      rw [List.append_assoc, List.cons_append, ofText_eq_ofTextFrom] at hab
      have hnone := span?_of_char hab.symm
      obtain ⟨rfl, hrest⟩ := List.cons.inj hsource
      rw [source_append, show source s = _ from hrest, List.append_assoc, List.singleton_append,
        span?, spanContent?_written hproper] at hnone
      cases hnone
    | span n content =>
      obtain ⟨parts', hproper', rfl⟩ := exists_parts_of_mem_ofText (h.subset List.mem_cons_self)
      have hcontent : parts'.flatMap SpanPart.written ++ '"' :: source s =
          parts.flatMap SpanPart.written ++ '"' :: [] := by
        simpa [Symbol.source] using hsource
      have hwritten : parts'.flatMap SpanPart.written = parts.flatMap SpanPart.written := by
        have hread := spanContent?_written hproper' (source s)
        rw [hcontent, spanContent?_written hproper] at hread
        exact (Option.some.inj hread).symm
      rw [hwritten, List.append_cancel_left_eq, List.cons.injEq, source_eq_nil_iff] at hcontent
      exact ⟨n, by rw [hwritten, hcontent.2]⟩

/-- **A piece of a text is marked as one span** exactly if it is written as one. -/
theorem isSpan_iff_isQuotedSpan {t : Text} {s : Marked} (h : s <:+: ofText t) :
    isSpan s = true ↔ ∃ parts, IsQuotedSpan s.source parts := by
  constructor
  · intro hspan
    unfold isSpan at hspan
    split at hspan
    · obtain ⟨parts, hproper, rfl⟩ := exists_parts_of_mem_ofText (h.subset List.mem_cons_self)
      exact ⟨parts, hproper, by simp [Symbol.source]⟩
    · cases hspan
  · rintro ⟨parts, hparts⟩
    obtain ⟨n, rfl⟩ := eq_span_of_isQuotedSpan h hparts
    rfl

end Marked

/-! ## References -/

/-- What becomes of a text that is not quoted: it is a label, or a reference if it begins with a
colon. -/
inductive Follows (numbering : Numbering) : Text → Except ResolveFault Text → Prop
  | label {t : Text} (h : t.head? ≠ some ':') : Follows numbering t (.ok t)
  | found {digits label : Text} {n : Nat} (hnumber : Reference.number (':' :: digits) = .ok (some n))
      (h : numbering.labelOf.get? (n : Int) = some label) :
      Follows numbering (':' :: digits) (.ok label)
  | unknown {digits : Text} {n : Nat} (hnumber : Reference.number (':' :: digits) = .ok (some n))
      (h : numbering.labelOf.get? (n : Int) = none) :
      Follows numbering (':' :: digits) (.error (.unresolved ⟨':' :: digits, some n⟩))
  | malformed {digits : Text} (h : Reference.number (':' :: digits) = .ok none) :
      Follows numbering (':' :: digits) (.error (.unresolved ⟨':' :: digits, none⟩))
  | oversized {digits : Text} {fault : OversizedNumeral}
      (h : Reference.number (':' :: digits) = .error fault) :
      Follows numbering (':' :: digits) (.error (.oversized fault))

theorem follows_resolve (numbering : Numbering) (t : Text) :
    Follows numbering t (numbering.resolve t) := by
  unfold Numbering.resolve
  split
  · rename_i href
    obtain ⟨digits, rfl⟩ : ∃ digits, t = ':' :: digits := by
      cases t with
      | nil => cases href
      | cons c digits =>
        simp only [isReference, List.head?_cons, decide_eq_true_eq, Option.some.injEq] at href
        exact ⟨digits, by rw [href]⟩
    split
    · rename_i hnumber
      exact .oversized hnumber
    · rename_i hnumber
      exact .malformed hnumber
    · rename_i n hnumber
      split
      · rename_i hlabel
        exact .found hnumber hlabel
      · rename_i hlabel
        exact .unknown hnumber hlabel
  · rename_i hlabel
    exact .label (by simpa [isReference] using hlabel)

/-! ## Operands -/

namespace Sketch

open Marked

/-- What the operand of a line means that is read from a gap between its arrows. -/
structure OperandMeans (t : Text) (gap : Marked) (segment : Text) : Prop where
  /-- It is a placeholder exactly if the gap is written as one quoted span. -/
  placeholder_iff : (Mask.ofText t).isPlaceholder segment = true ↔
    ∃ parts, IsQuotedSpan (Text.trim gap.source) parts
  /-- Then it is a label as it stands, in every numbering: what is between the quotes. -/
  quoted : ∀ parts, IsQuotedSpan (Text.trim gap.source) parts → ∀ numbering,
    segmentLabel (Mask.ofText t) numbering segment =
      .ok (Text.trim (parts.flatMap SpanPart.meaning))
  /-- Restored, it has the contents of its spans in their places. -/
  restore_eq : (Mask.ofText t).restore segment = (trim gap).filled
  /-- If it is anything else it is a label, or a reference if there is a colon before it. -/
  follows : (¬ ∃ parts, IsQuotedSpan (Text.trim gap.source) parts) → ∀ numbering,
    Follows numbering (Text.trim ((Mask.ofText t).restore segment))
      (segmentLabel (Mask.ofText t) numbering segment)

theorem operandMeans_of_infix {t : Text} {gap : Marked} (h : gap <:+: ofText t) :
    OperandMeans t gap (Text.trim (gap.masked (fenceWidth t))) := by
  have htrim : trim gap <:+: ofText t := (isInfix_trim gap).trans h
  have hrestore : (Mask.ofText t).restore (Text.trim (gap.masked (fenceWidth t))) =
      (trim gap).filled := by
    rw [← masked_trim, restore_masked htrim]
  have hplaceholder : (Mask.ofText t).isPlaceholder (Text.trim (gap.masked (fenceWidth t))) = true ↔
      ∃ parts, IsQuotedSpan (Text.trim gap.source) parts := by
    rw [← source_trim, ← isSpan_iff_isQuotedSpan htrim, ← isPlaceholder_masked h,
      Mask.isPlaceholder, Text.trim_trim, ← Mask.isPlaceholder]
  refine ⟨hplaceholder, fun parts hparts numbering => ?_, hrestore, fun hnot numbering => ?_⟩
  · rw [segmentLabel, if_pos (hplaceholder.mpr ⟨parts, hparts⟩), hrestore]
    rw [← source_trim] at hparts
    obtain ⟨n, hspan⟩ := eq_span_of_isQuotedSpan htrim hparts
    rw [hspan, filled_cons, filled_nil, List.append_nil, Symbol.filled,
      unescapeQuotes_written hparts.1]
  · rw [segmentLabel, if_neg (mt hplaceholder.mp hnot)]
    exact follows_resolve numbering _

/-- What the operands of a line mean, which are read from the gaps between its arrows. -/
structure LineOperands (t : Text) (l : LogicalLine) (chain : MarkedChain) : Prop where
  /-- The gaps and the arrows between them are the line as it is written. -/
  symbols_eq : chain.symbols = l.symbols
  chain_eq : Chain.ofLine (l.masked (Mask.ofText t)) = chain.read (masked (fenceWidth t))
  operands_eq : (Chain.ofLine (l.masked (Mask.ofText t))).operands =
    chain.gaps.map fun gap => Text.trim (gap.masked (fenceWidth t))
  means : ∀ gap ∈ chain.gaps, OperandMeans t gap (Text.trim (gap.masked (fenceWidth t)))

/-- **No text passes for a quoted label**, and no quoted label is a reference. -/
theorem lineOperands_of_mem {t : Text} {l : LogicalLine} (h : l ∈ logicalLines t) :
    ∃ chain, LineOperands t l chain := by
  obtain ⟨chain, hsymbols, hread⟩ := MarkedChain.exists_markedChain l.symbols
  have hchain : Chain.ofLine (l.masked (Mask.ofText t)) = chain.read (masked (fenceWidth t)) :=
    hread (fenceWidth t)
  refine ⟨chain, hsymbols, hchain, ?_, fun gap hgap => operandMeans_of_infix ?_⟩
  · rw [hchain, MarkedChain.operands_read, MarkedChain.operands, List.map_map]
    exact List.map_congr_left fun gap _ => masked_trim _ gap
  · exact (MarkedChain.infix_of_mem_gaps hgap).trans
      (hsymbols ▸ (standsIn_of_mem_logicalLines h).isInfix_symbols)

/-- A span beside underscores, a span that holds what looks like a reference, a word that looks like
a placeholder, a span beside a letter, and a colon before a span. -/
theorem lineOperands_of_lookalikes :
    let t : Text := "___\"x\" -> \":1\" -> __QUOTED_0__ -> \"a\"b -> :\"1\""
    let l : LogicalLine := ⟨[], "___".toList.map .char ++ .span 0 "x" :: " -> ".toList.map .char ++
      .span 1 ":1" :: " -> __QUOTED_0__ -> ".toList.map .char ++ .span 2 "a" ::
      "b -> :".toList.map .char ++ [.span 3 "1"]⟩
    let operands := (Chain.ofLine (l.masked (Mask.ofText t))).operands
    l ∈ logicalLines t ∧ (∃ chain, LineOperands t l chain) ∧
      operands.map (Mask.ofText t).isPlaceholder = [false, true, false, false, false] ∧
      segmentLabels (Mask.ofText t) ⟨[("Z", 1)], [(1, "Z")], 2⟩ operands =
        .ok [some "___x".toList, some ":1".toList, some "__QUOTED_0__".toList, some "ab".toList,
          some "Z".toList] := by
  intro t l operands
  have hlines : logicalLines t = [l] := by rfl
  have hmem : l ∈ logicalLines t := by
    rw [hlines]
    exact List.mem_singleton_self l
  exact ⟨hmem, lineOperands_of_mem hmem, by decide +kernel, by decide +kernel⟩

end Sketch

end GraphSketch
