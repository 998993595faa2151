import GraphSketch.Proofs.Mask.Scanner
import Mathlib.Order.Bounds.Basic

/-!
# The width of a fence

A fence is widened by one underscore after the other, as long as the text has what a placeholder
with it would begin with.  No bound is set to this; what ends it is the longest run of underscores
that stands before the word of placeholders in the text.

* `opening_infix_iff` — the openings in a text are told by its runs of underscores.
* `fenceWidth_le_iff` — a width is safe exactly if it is not less than the one that is chosen.
* `widens_iff` — widening a fence ends, and where.
* `fenceWidth_chosen` — all of this together.
-/

set_option autoImplicit false

namespace GraphSketch

namespace Mask

/-! ## Runs of underscores -/

/-- The lengths of the runs of underscores directly before the word of placeholders, one for each
place where the word stands; `run` underscores stand before the text. -/
def runsFrom : Nat → Text → List Nat
  | _, [] => []
  | run, c :: cs =>
    let runs := runsFrom (if c = '_' then run + 1 else 0) cs
    if placeholderWord.isPrefixOf (c :: cs) then run :: runs else runs

/-- The length of the longest of these runs, one at least. -/
def longestRun (t : Text) : Nat := (runsFrom 0 t).foldr max 1

theorem fence_succ (width : Nat) : fence (width + 1) = '_' :: fence width := List.replicate_succ

theorem fence_append_underscore (width : Nat) : fence width ++ ['_'] = fence (width + 1) :=
  List.replicate_succ'.symm

theorem opening_succ (width : Nat) : opening (width + 1) = '_' :: opening width := by
  rw [opening, fence_succ]
  rfl

theorem not_word_prefix_underscore (t : Text) : ¬ placeholderWord <+: '_' :: t := fun h =>
  absurd (List.cons_prefix_cons.mp h).1 (by decide)

/-- Behind a whole run of underscores an opening has just as many. -/
theorem opening_prefix_iff {c : Char} (hc : c ≠ '_') (cs : Text) : ∀ width run : Nat,
    opening width <+: fence run ++ c :: cs ↔ width = run ∧ placeholderWord <+: c :: cs
  | 0, 0 => by simp [opening, fence]
  | 0, run + 1 => by simp [opening, fence, List.replicate_succ, not_word_prefix_underscore]
  | width + 1, 0 => by simp [opening_succ, fence, List.cons_prefix_cons, Ne.symm hc]
  | width + 1, run + 1 => by
    have ih := opening_prefix_iff hc cs width run
    rw [opening_succ, fence_succ, List.cons_append, List.cons_prefix_cons, ih,
      Nat.add_right_cancel_iff]
    exact and_iff_right rfl

/-- An opening begins in a run of underscores, or behind the run. -/
theorem opening_infix_fence_iff {c : Char} (hc : c ≠ '_') (cs : Text) (width : Nat) : ∀ run : Nat,
    opening width <:+: fence run ++ c :: cs ↔
      (width ≤ run ∧ placeholderWord <+: c :: cs) ∨ opening width <:+: cs
  | 0 => by
    rw [show fence 0 ++ c :: cs = c :: cs from rfl, List.infix_cons_iff,
      ← List.nil_append (c :: cs), show ([] : Text) = fence 0 from rfl, opening_prefix_iff hc,
      Nat.le_zero]
    rfl
  | run + 1 => by
    have ih := opening_infix_fence_iff hc cs width run
    have hfirst := opening_prefix_iff hc cs width (run + 1)
    rw [fence_succ, List.cons_append] at hfirst ⊢
    rw [List.infix_cons_iff, hfirst, ih, Nat.le_succ_iff, or_and_right, ← or_assoc,
      or_comm (a := width = run + 1 ∧ _)]

/-- **The openings in a text** are told by its runs of underscores. -/
theorem opening_infix_iff (width : Nat) : ∀ (run : Nat) (t : Text),
    opening width <:+: fence run ++ t ↔ ∃ r ∈ runsFrom run t, width ≤ r
  | run, [] => by
    have hword : 'Q' ∈ opening width := List.mem_append_right _ (by decide)
    have hfence : 'Q' ∉ fence run := by simp [fence, List.mem_replicate]
    simp only [runsFrom, List.append_nil, List.not_mem_nil, false_and, exists_false, iff_false]
    exact fun h => hfence (h.subset hword)
  | run, c :: cs => by
    by_cases hc : c = '_'
    · subst hc
      have ih := opening_infix_iff width (run + 1) cs
      have hnext : fence run ++ '_' :: cs = fence (run + 1) ++ cs := by
        rw [← fence_append_underscore, List.append_assoc, List.singleton_append]
      have hword : placeholderWord.isPrefixOf ('_' :: cs) = false := by
        rw [← Bool.not_eq_true, List.isPrefixOf_iff_prefix]
        exact not_word_prefix_underscore cs
      rw [hnext, ih, runsFrom, if_pos rfl, hword]
      rfl
    · have ih := opening_infix_iff width 0 cs
      rw [show fence 0 ++ cs = cs from rfl] at ih
      rw [opening_infix_fence_iff hc, ih, runsFrom, if_neg hc, ← List.isPrefixOf_iff_prefix]
      split
      · rename_i hword
        simp [hword]
      · rename_i hword
        simp [hword]

/-! ## Widths that are safe -/

theorem fenceIsSafe_iff {width : Nat} {t : Text} :
    fenceIsSafe width t = true ↔ ¬ opening width <:+: t := by
  rw [fenceIsSafe, Bool.not_eq_true', ← Bool.not_eq_true, Text.contains_iff_isInfix]
  rfl

theorem opening_suffix_of_le {width wider : Nat} (h : width ≤ wider) :
    opening width <:+ opening wider := by
  obtain ⟨more, rfl⟩ := Nat.exists_eq_add_of_le' h
  refine ⟨fence more, ?_⟩
  rw [opening, opening, ← List.append_assoc, fence, fence, List.replicate_append_replicate]
  rfl

/-- **A width is safe** exactly if it is not less than the one that is chosen. -/
theorem fenceWidth_le_iff {t : Text} {width : Nat} :
    fenceWidth t ≤ width ↔ 2 ≤ width ∧ ¬ opening width <:+: t := by
  constructor
  · intro h
    exact ⟨(two_le_fenceWidth t).trans h,
      fun hi => opening_notInfix t ((opening_suffix_of_le h).isInfix.trans hi)⟩
  · rintro ⟨htwo, hsafe⟩
    rw [fenceWidth]
    cases hfind : (List.range' 2 (t.length + 1)).find? fun width => fenceIsSafe width t with
    | some found =>
      obtain ⟨-, -, hless⟩ := List.find?_range'_eq_some.mp hfind
      by_contra hlt
      have hunsafe := hless width htwo (Nat.lt_of_not_le hlt)
      rw [fenceIsSafe_iff.mpr hsafe] at hunsafe
      cases hunsafe
    | none =>
      by_contra hlt
      rw [Option.getD_none, Nat.not_le] at hlt
      have hmem : width ∈ List.range' 2 (t.length + 1) := List.mem_range'_1.mpr ⟨htwo, by omega⟩
      exact List.find?_eq_none.mp hfind width hmem (fenceIsSafe_iff.mpr hsafe)

theorem foldr_max_lt_iff {width : Nat} : ∀ {runs : List Nat},
    runs.foldr max 1 < width ↔ 2 ≤ width ∧ ∀ r ∈ runs, r < width
  | [] => by simp [Nat.succ_le_iff]
  | r :: runs => by
    rw [List.foldr_cons, Nat.max_lt, foldr_max_lt_iff, List.forall_mem_cons]
    exact and_left_comm

/-- **The width that is chosen** is one more than the longest run of underscores before the word of
placeholders. -/
theorem fenceWidth_eq_longestRun (t : Text) : fenceWidth t = longestRun t + 1 := by
  refine eq_of_forall_ge_iff fun width => ?_
  have hruns := opening_infix_iff width 0 t
  rw [show fence 0 ++ t = t from rfl] at hruns
  have hlongest : longestRun t + 1 ≤ width ↔ 2 ≤ width ∧ ∀ r ∈ runsFrom 0 t, r < width :=
    Nat.succ_le_iff.trans foldr_max_lt_iff
  rw [hlongest, fenceWidth_le_iff, hruns]
  push Not
  rfl

/-- The underscore that ends a word counts for the next one. -/
example : longestRun "__QUOTED____QUOTED_" = 4 ∧ fenceWidth "__QUOTED____QUOTED_" = 5 := by
  decide

/-! ## Widening -/

/-- A fence is widened as long as it stands before the word of placeholders in the text: the fence
before, the number of turns, and the fence in the end. -/
inductive Widens (t : Text) : Text → Nat → Text → Prop
  | safe {f : Text} (h : Text.contains (f ++ placeholderWord) t = false) : Widens t f 0 f
  | wider {f last : Text} {turns : Nat} (h : Text.contains (f ++ placeholderWord) t = true)
      (hnext : Widens t (f ++ ['_']) turns last) : Widens t f (turns + 1) last

theorem contains_fence_iff {t : Text} {width : Nat} (htwo : 2 ≤ width) :
    Text.contains (fence width ++ placeholderWord) t = true ↔ width < fenceWidth t := by
  rw [Text.contains_iff_isInfix, ← Nat.not_le, fenceWidth_le_iff, and_iff_right htwo, not_not]
  rfl

/-- **Widening a fence ends**, with the width that is chosen and as many turns as it takes to
get there. -/
theorem widens_iff {t last : Text} {turns width : Nat} (htwo : 2 ≤ width)
    (hle : width ≤ fenceWidth t) :
    Widens t (fence width) turns last ↔
      width + turns = fenceWidth t ∧ last = fence (fenceWidth t) := by
  induction turns generalizing width with
  | zero =>
    constructor
    · rintro ⟨hsafe⟩
      have hge : ¬ width < fenceWidth t := by rw [← contains_fence_iff htwo, hsafe]; simp
      obtain rfl : width = fenceWidth t := by omega
      exact ⟨rfl, rfl⟩
    · rintro ⟨hwidth, rfl⟩
      obtain rfl : width = fenceWidth t := hwidth
      refine .safe ?_
      rw [← Bool.not_eq_true, contains_fence_iff htwo]
      exact Nat.lt_irrefl _
  | succ turns ih =>
    constructor
    · intro h
      cases h with
      | wider hmore hnext =>
        rw [fence_append_underscore] at hnext
        obtain ⟨hwidth, hlast⟩ :=
          (ih (by omega) ((contains_fence_iff htwo).mp hmore)).mp hnext
        exact ⟨by omega, hlast⟩
    · rintro ⟨hwidth, hlast⟩
      refine .wider ((contains_fence_iff htwo).mpr (by omega)) ?_
      rw [fence_append_underscore]
      exact (ih (by omega) (by omega)).mpr ⟨by omega, hlast⟩

/-! ## The fence of a text -/

/-- With a fence that is wide enough nothing in the text itself is read as a placeholder. -/
theorem restore_of_fenceWidth_le {t : Text} {width : Nat} (h : fenceWidth t ≤ width)
    (contents : List Text) : restore ⟨width, contents⟩ t = t := by
  obtain ⟨htwo, hsafe⟩ := fenceWidth_le_iff.mp h
  have hfill := Marked.fill_cut_masked htwo (s := t.map .char)
    (f := fun word => ((entriesFrom width 0 contents).get? word).getD word)
    (by rwa [Marked.source_map_char]) (by simp)
  rwa [Marked.masked_map_char, Marked.filled_map_char] at hfill

/-- The fence that is chosen for a text, and why it is the one. -/
structure ChosenFence (t : Text) (width : Nat) : Prop where
  /-- Widening two underscores ends with this fence, and with no other. -/
  widens_iff : ∀ turns last,
    Widens t "__" turns last ↔ turns = width - 2 ∧ last = List.replicate width '_'
  /-- It has two underscores, or as many more as it takes to be safe. -/
  isLeast : IsLeast {k | 2 ≤ k ∧ ¬ List.replicate k '_' ++ placeholderWord <:+: t} width
  eq_longestRun : width = longestRun t + 1
  /-- Every wider fence is safe too. -/
  wider_safe : ∀ k, width ≤ k → ¬ List.replicate k '_' ++ placeholderWord <:+: t
  /-- No placeholder stands in the text, whatever its number is. -/
  placeholder_notInfix : ∀ k n, width ≤ k → ¬ placeholder k n <:+: t
  /-- Nothing in the text is read as one. -/
  restore_eq : ∀ k contents, width ≤ k → restore ⟨k, contents⟩ t = t
  /-- All placeholders that masking puts into the text are made with this fence. -/
  keys_eq : (ofText t).entries.keys =
    (List.range' 0 (ofText t).contents.length).map (placeholder width)

/-- **The fence of a text** is the narrowest one that is safe for it. -/
theorem fenceWidth_chosen (t : Text) : ChosenFence t (fenceWidth t) where
  widens_iff turns last := by
    have htwo := two_le_fenceWidth t
    rw [show ("__".toList : Text) = fence 2 from rfl, Mask.widens_iff (Nat.le_refl 2) htwo]
    exact and_congr_left' (by omega)
  isLeast := ⟨⟨two_le_fenceWidth t, opening_notInfix t⟩, fun _ hk => fenceWidth_le_iff.mpr hk⟩
  eq_longestRun := fenceWidth_eq_longestRun t
  wider_safe _ hle := (fenceWidth_le_iff.mp hle).2
  placeholder_notInfix k n hle hi := by
    refine (fenceWidth_le_iff.mp hle).2 (List.IsInfix.trans ?_ hi)
    rw [placeholder_eq]
    exact (List.prefix_append _ _).isInfix
  restore_eq _ contents hle := restore_of_fenceWidth_le hle contents
  keys_eq := keys_entriesFrom _ _ _

end Mask

end GraphSketch
