import GraphSketch.Proofs.Connector

/-!
# Written chains

A `WrittenChain` is a line that is put together from operands and connectors.  It is read back as it
is written, with one exception: a bare `<-` and an arrow with the closing `->` behind it are one
arrow that points both ways, and what stands between its ends is its label.

* `Connector.merge?` — the arrow that two connectors and the operand between them are read as.
* `ofLine_source` — every written chain is read as the one in which all such arrows are merged.
* `reading_of_isFormed` — so it is read back exactly if no two of its connectors clash.
-/

set_option autoImplicit false

namespace GraphSketch

namespace Connector

instance : (k : Connector) → Decidable k.IsFormed
  | forward | backward | both => inferInstanceAs (Decidable True)
  | labelled label =>
    @instDecidableAnd _ _ inferInstance (List.decidableBAll (· ∉ ['-', '<', '>']) label)
  | labelledBoth label =>
    @instDecidableAnd _ _ inferInstance (List.decidableBAll (· ∉ ['<', '>']) label)

instance (t : Text) : Decidable (IsGap t) := List.decidableBAll (· ∉ ['-', '<', '>']) t

/-! ## Connectors that are read as one -/

/-- A bare `<-`, and behind it an arrow `-label->`, or `->` with something in between. -/
def Clashes : Connector → Text → Connector → Prop
  | backward, _, labelled _ => True
  | backward, gap, forward => gap ≠ []
  | _, _, _ => False

/-- The arrow that points both ways as which two connectors are read with the text between them. -/
def merge? : Connector → Text → Connector → Option Connector
  | backward, gap, labelled label => some (labelledBoth (gap ++ '-' :: label))
  | backward, gap, forward => if gap = [] then none else some (labelledBoth gap)
  | _, _, _ => none

theorem merge?_eq_none_iff {k k' : Connector} {gap : Text} :
    k.merge? gap k' = none ↔ ¬ k.Clashes gap k' := by
  cases k <;> cases k' <;> simp [merge?, Clashes]

/-- Connectors that are merged are written as the arrow that they make. -/
theorem merge?_eq_some {k k' one : Connector} {gap : Text} (h : k.merge? gap k' = some one)
    (hk' : k'.IsFormed) (hgap : IsGap gap) :
    k.source ++ (gap ++ k'.source) = one.source ∧ one.IsFormed ∧ one ≠ backward := by
  have hangles : ∀ c ∈ gap, c ∉ ['<', '>'] := fun c hc => by simpa using hgap.ne_angle c hc
  cases k with
  | backward =>
    cases k' with
    | labelled label =>
      cases h
      refine ⟨by simp [source], ⟨by simp, fun c hc hsign => ?_⟩, by rintro ⟨⟩⟩
      rcases List.mem_append.mp hc with hc | hc
      · exact hangles c hc hsign
      · rcases List.mem_cons.mp hc with rfl | hc
        · exact absurd hsign (by decide)
        · exact hk'.2 c hc (List.mem_cons_of_mem _ hsign)
    | forward =>
      rw [merge?] at h
      split at h
      · cases h
      · rename_i hne
        cases h
        exact ⟨by simp [source], ⟨hne, hangles⟩, by rintro ⟨⟩⟩
    | _ => cases h
  | _ => cases h

/-- An arrow that opens with an angle bracket closes nothing before it. -/
theorem not_closesBoth_angle {gap : Text} (hgap : IsGap gap) (rest : Text) :
    ¬ ClosesBoth (gap ++ '<' :: rest) := by
  have hpass : ∀ c ∈ gap, decide (c ∉ ['<', '>']) = true := fun c hc => by
    simpa using hgap.ne_angle c hc
  have hrest : (gap ++ '<' :: rest).dropWhile (fun c => decide (c ∉ ['<', '>'])) = '<' :: rest :=
    Text.dropWhile_append_cons hpass rfl
  rintro (⟨behind, h⟩ | ⟨label, behind, h, -, hlabel⟩)
  · rw [← h] at hrest
    simp at hrest
  · have hclosing : (label ++ ['-'] ++ '>' :: behind).dropWhile
        (fun c => decide (c ∉ ['<', '>'])) = '>' :: behind := by
      refine Text.dropWhile_append_cons (fun c hc => ?_) rfl
      rcases List.mem_append.mp hc with hc | hc
      · simpa using hlabel c hc
      · rw [List.mem_singleton.mp hc]
        rfl
    rw [List.append_assoc, List.singleton_append, ← h, hrest] at hclosing
    simp at hclosing

theorem not_closesBoth_forward (rest : Text) : ¬ ClosesBoth ('-' :: '>' :: rest) := by
  rintro (⟨behind, h⟩ | ⟨label, behind, h, hne, hlabel⟩)
  · simp at h
  · cases label with
    | nil => exact hne rfl
    | cons c label =>
      cases label with
      | nil => simp at h
      | cons d label =>
        simp only [List.cons_append, List.cons.injEq] at h
        exact hlabel d (by simp) (by simp [← h.2.1])

/-- Where connectors do not clash the first of them is read by itself. -/
theorem at?_of_not_clashes {k k' : Connector} {gap rest : Text} (hk : k.IsFormed)
    (hgap : IsGap gap) (h : ¬ k.Clashes gap k') :
    Arrow.at? (k.source ++ (gap ++ (k'.source ++ rest))) = some k.token := by
  by_cases hback : k = backward
  · subst hback
    refine at?_backward ?_
    cases k' with
    | forward =>
      rw [show gap = [] from not_not.mp h]
      exact not_closesBoth_forward rest
    | labelled label => exact absurd trivial h
    | backward => exact not_closesBoth_angle hgap _
    | both => exact not_closesBoth_angle hgap _
    | labelledBoth label => exact not_closesBoth_angle hgap _
  · exact at?_of_ne_backward hk hback

end Connector

/-! ## Chains -/

/-- A line as it is put together: the operand before the first connector, and each connector with
the operand after it. -/
abbrev WrittenChain := Cut Connector

namespace WrittenChain

open Connector

/-- The line as it is written. -/
def source (w : WrittenChain) : Text := w.fill Connector.source

/-- All operands and labels can be told from arrows. -/
def IsFormed (w : WrittenChain) : Prop :=
  IsGap w.first ∧ ∀ e ∈ w.rest, e.1.IsFormed ∧ IsGap e.2

/-- The chain as it is meant, one arrow for each connector. -/
def chain (w : WrittenChain) : Chain := ⟨w.first, w.rest.map fun e => (e.1.token, e.2)⟩

/-- The beginning of a chain with `n` connectors. -/
def upTo (w : WrittenChain) (n : Nat) : WrittenChain := ⟨w.first, w.rest.take n⟩

/-- Somewhere in the chain two neighbouring connectors clash. -/
def HasClash (w : WrittenChain) : Prop :=
  ∃ before k gap k' gap' behind, w.rest = before ++ (k, gap) :: (k', gap') :: behind ∧
    k.Clashes gap k'

/-- Connectors, each with the operand after it, with those merged that clash. -/
def mergeAll : List (Connector × Text) → List (Connector × Text)
  | (k, gap) :: (k', gap') :: rest =>
    match k.merge? gap k' with
    | some one => (one, gap') :: mergeAll rest
    | none => (k, gap) :: mergeAll ((k', gap') :: rest)
  | rest => rest

/-- The chain with all connectors merged that clash. -/
def merged (w : WrittenChain) : WrittenChain := ⟨w.first, mergeAll w.rest⟩

/-! ## Reading a written chain -/

/-- Behind an operand stands a connector that is read by itself. -/
theorem ofLine_append {gap rest : Text} {k : Connector} (hgap : IsGap gap)
    (h : Arrow.at? (k.source ++ rest) = some k.token) :
    Chain.ofLine (gap ++ (k.source ++ rest)) =
      ⟨gap, (k.token, (Chain.ofLine rest).first) :: (Chain.ofLine rest).rest⟩ := by
  have htoken : Arrow.token? (k.source ++ rest) = some (k.token, k.source.length) := by
    rw [Arrow.token?, h, Option.map_some, raw_token]
  rw [Chain.ofLine, Text.cut_append_of_none (token?_of_isGap hgap),
    Text.cut_of_token k.source_ne_nil htoken, List.append_nil]
  rfl

/-- Going over a written chain, past two connectors where they are read as one. -/
theorem ofLine_mergeAll {first : Text} (hfirst : IsGap first) (rest : List (Connector × Text))
    (h : ∀ e ∈ rest, e.1.IsFormed ∧ IsGap e.2) :
    Chain.ofLine (first ++ rest.flatMap fun e => e.1.source ++ e.2) =
      chain ⟨first, mergeAll rest⟩ := by
  induction rest using mergeAll.induct generalizing first with
  | case1 k gap k' gap' rest one hone ih =>
    obtain ⟨⟨-, hgap⟩, ⟨hk', hgap'⟩, hrest⟩ := by
      simpa only [List.forall_mem_cons] using h
    obtain ⟨hsource, hformed, hne⟩ := merge?_eq_some hone hk' hgap
    have hat : Arrow.at? (one.source ++ (gap' ++ rest.flatMap fun e => e.1.source ++ e.2)) =
        some one.token := at?_of_ne_backward hformed hne
    have hread := ofLine_append hfirst hat
    rw [ih hgap' hrest, ← hsource] at hread
    simp only [List.append_assoc] at hread
    simp only [mergeAll, hone, List.flatMap_cons, List.append_assoc]
    exact hread
  | case2 k gap k' gap' rest hnone ih =>
    obtain ⟨⟨hk, hgap⟩, hrest⟩ := List.forall_mem_cons.mp h
    have hat : Arrow.at? (k.source ++ (gap ++ (k'.source ++
        (gap' ++ rest.flatMap fun e => e.1.source ++ e.2)))) = some k.token :=
      at?_of_not_clashes hk hgap (merge?_eq_none_iff.mp hnone)
    have hread := ofLine_append hfirst hat
    have ih := ih hgap hrest
    simp only [List.flatMap_cons, List.append_assoc] at ih ⊢
    rw [hread, ih]
    simp only [mergeAll, hnone]
    rfl
  | case3 rest hshort =>
    cases rest with
    | nil => simpa [mergeAll, chain] using ofLine_gap hfirst
    | cons e rest =>
      obtain ⟨k, gap⟩ := e
      cases rest with
      | cons e' rest => exact absurd rfl (hshort k gap e'.1 e'.2 rest)
      | nil =>
        obtain ⟨⟨hk, hgap⟩, -⟩ := List.forall_mem_cons.mp h
        have hat : Arrow.at? (k.source ++ gap) = some k.token := by
          by_cases hback : k = backward
          · subst hback
            exact at?_backward (not_closesBoth hgap.ne_angle)
          · exact at?_of_ne_backward hk hback
        have hread := ofLine_append hfirst hat
        rw [ofLine_gap hgap] at hread
        simpa [mergeAll, chain] using hread

/-- **A written chain is read with all arrows merged that clash.** -/
theorem ofLine_source {w : WrittenChain} (h : w.IsFormed) :
    Chain.ofLine w.source = w.merged.chain :=
  ofLine_mergeAll h.1 w.rest h.2

/-! ## What is read back -/

/-- What has been read are the arrows that were written, in their places, and the operands. -/
structure ReadsBack (chain : Chain) (w : WrittenChain) : Prop where
  arrows_eq : chain.arrows = w.rest.map (·.1.token)
  positions_eq : chain.positions = (List.range w.rest.length).map fun i => (w.upTo i).source.length
  operands_eq : chain.operands = w.gaps.map Text.trim

theorem positionsFrom_map_token (start : Nat) (rest : List (Connector × Text)) :
    Chain.positionsFrom start (rest.map fun e => (e.1.token, e.2)) =
      (List.range rest.length).map fun i =>
        start + ((rest.take i).flatMap fun e => e.1.source ++ e.2).length := by
  induction rest generalizing start with
  | nil => rfl
  | cons e rest ih =>
    simp only [List.map_cons, Chain.positionsFrom, raw_token, ih, List.length_cons,
      List.range_succ_eq_map, List.map_map, Function.comp_def, List.take_succ_cons,
      List.flatMap_cons, List.length_append, List.take_zero, List.flatMap_nil, List.length_nil,
      Nat.add_zero, Nat.add_assoc]

theorem readsBack_chain (w : WrittenChain) : ReadsBack w.chain w where
  arrows_eq := by simp [chain, Chain.arrows, Cut.tokens, Function.comp_def]
  positions_eq := by
    simp [chain, Chain.positions, positionsFrom_map_token, source, upTo, Cut.fill]
  operands_eq := by simp [chain, Chain.operands, Cut.gaps, Function.comp_def]

/-- A clash is between the first two connectors or behind them. -/
theorem hasClash_cons_cons_iff {first gap gap' : Text} {k k' : Connector}
    {rest : List (Connector × Text)} :
    HasClash ⟨first, (k, gap) :: (k', gap') :: rest⟩ ↔
      k.Clashes gap k' ∨ HasClash ⟨gap, (k', gap') :: rest⟩ := by
  constructor
  · rintro ⟨before, k₁, gap₁, k₂, gap₂, behind, heq, hclash⟩
    cases before with
    | nil =>
      simp only [List.nil_append, List.cons.injEq, Prod.mk.injEq] at heq
      obtain ⟨⟨rfl, rfl⟩, ⟨rfl, rfl⟩, rfl⟩ := heq
      exact Or.inl hclash
    | cons e before =>
      exact Or.inr ⟨before, k₁, gap₁, k₂, gap₂, behind, (List.cons.inj heq).2, hclash⟩
  · rintro (hclash | ⟨before, k₁, gap₁, k₂, gap₂, behind, heq, hclash⟩)
    · exact ⟨[], k, gap, k', gap', rest, rfl, hclash⟩
    · exact ⟨(k, gap) :: before, k₁, gap₁, k₂, gap₂, behind, congrArg _ heq, hclash⟩

theorem length_mergeAll_le (rest : List (Connector × Text)) :
    (mergeAll rest).length ≤ rest.length := by
  induction rest using mergeAll.induct with
  | case1 k gap k' gap' rest one hone ih =>
    simp only [mergeAll, hone, List.length_cons]
    omega
  | case2 k gap k' gap' rest hnone ih =>
    simp only [mergeAll, hnone, List.length_cons] at ih ⊢
    omega
  | case3 rest hshort => rw [mergeAll]; exact hshort

theorem mergeAll_of_not_hasClash {first : Text} {rest : List (Connector × Text)}
    (h : ¬ HasClash ⟨first, rest⟩) : mergeAll rest = rest := by
  induction rest using mergeAll.induct generalizing first with
  | case1 k gap k' gap' rest one hone ih =>
    have hclash : k.Clashes gap k' := not_not.mp fun hclash => by
      rw [merge?_eq_none_iff.mpr hclash] at hone
      cases hone
    exact absurd (hasClash_cons_cons_iff.mpr (Or.inl hclash)) h
  | case2 k gap k' gap' rest hnone ih =>
    simp only [mergeAll, hnone, ih fun hclash => h (hasClash_cons_cons_iff.mpr (Or.inr hclash))]
  | case3 rest hshort => rw [mergeAll]; exact hshort

theorem length_mergeAll_lt {first : Text} {rest : List (Connector × Text)}
    (h : HasClash ⟨first, rest⟩) : (mergeAll rest).length < rest.length := by
  induction rest using mergeAll.induct generalizing first with
  | case1 k gap k' gap' rest one hone ih =>
    have hle := length_mergeAll_le rest
    simp only [mergeAll, hone, List.length_cons]
    omega
  | case2 k gap k' gap' rest hnone ih =>
    have hlater := (hasClash_cons_cons_iff.mp h).resolve_left (merge?_eq_none_iff.mp hnone)
    have hlt := ih hlater
    simp only [mergeAll, hnone, List.length_cons] at hlt ⊢
    omega
  | case3 rest hshort =>
    obtain ⟨before, k, gap, k', gap', behind, rfl, -⟩ := h
    match before with
    | [] => exact absurd rfl (hshort k gap k' gap' behind)
    | [e] => exact absurd rfl (hshort e.1 e.2 k gap ((k', gap') :: behind))
    | e :: e' :: before => exact absurd rfl (hshort e.1 e.2 e'.1 e'.2 _)

/-- What reading a written chain gives: the chain that is meant, unless two connectors clash. -/
structure Reading (w : WrittenChain) : Prop where
  /-- It is read back unless a bare `<-` meets an arrow that it is read as one with. -/
  readsBack_iff : ReadsBack (Chain.ofLine w.source) w ↔ ¬ w.HasClash
  /-- Two such arrows and the operand between them are read as one that points both ways. -/
  eq_merged : Chain.ofLine w.source = w.merged.chain

/-- **A written chain is read back exactly if no two of its connectors clash.** -/
theorem reading_of_isFormed {w : WrittenChain} (h : w.IsFormed) : Reading w where
  readsBack_iff := by
    rw [ofLine_source h]
    constructor
    · intro hback hclash
      have hlength := congrArg List.length hback.arrows_eq
      have hlt := length_mergeAll_lt hclash
      simp [merged, chain, Chain.arrows, Cut.tokens] at hlength
      omega
    · intro hclash
      have hmerged : w.merged = w := by rw [merged, mergeAll_of_not_hasClash hclash]
      rw [hmerged]
      exact readsBack_chain w
  eq_merged := ofLine_source h

instance (w : WrittenChain) : Decidable w.IsFormed :=
  inferInstanceAs (Decidable (IsGap w.first ∧ ∀ e ∈ w.rest, e.1.IsFormed ∧ IsGap e.2))

/-- The line `A<-  -x y->B<-->C<--q->` is read as `A<-  -x y->B`, one arrow with the label `-x y`,
and behind it as it is written. -/
theorem reading_of_clash :
    let w : WrittenChain := ⟨"A", [(backward, "  "), (labelled "x y", "B"), (backward, []),
      (forward, "C"), (labelledBoth "-q", [])]⟩
    w.IsFormed ∧ w.HasClash ∧ Reading w :=
  have hformed : IsFormed ⟨"A", [(backward, "  "), (labelled "x y", "B"), (backward, []),
      (forward, "C"), (labelledBoth "-q", [])]⟩ := by decide +kernel
  ⟨hformed, ⟨[], backward, "  ", labelled "x y", "B", _, rfl, trivial⟩, reading_of_isFormed hformed⟩

end WrittenChain

end GraphSketch
