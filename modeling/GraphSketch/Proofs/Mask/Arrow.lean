import GraphSketch.Proofs.Arrow
import GraphSketch.Proofs.Mask.Restore
import GraphSketch.Proofs.Mask.Runs

/-!
# Arrows in marked text

A line is cut at its arrows after its spans have been masked.  A `MarkedArrow` is an arrow
together with the spans it covers.  It can be read with placeholders for its spans, as
compilations do, and with their contents; `read_label_eq_iff` and `read_raw_eq_iff` say when this
is the same.

* `Marked.trim` — marked text without the blanks at its ends.  A placeholder begins and ends with
  an underscore, so trimming and masking can be done in either order (`masked_trim`); with the
  source the same holds because a quote is no blank (`source_trim`).
* `Marked.KeepsBlanks` — the readings of symbols of which this is true.
* `MarkedArrow.label?` — the text of a label, from which `read` makes one: a label of blanks only
  counts as none in every reading.
-/

set_option autoImplicit false

namespace GraphSketch

/-! ## Trimming -/

/-- Whether the symbol is a blank outside all spans. -/
def Symbol.isBlank : Symbol → Bool
  | char c => GraphSketch.isBlank c
  | span _ _ => false

namespace Marked

/-- The text without the blanks at either end; spans are never blank. -/
def trim (s : Marked) : Marked := (s.dropWhile Symbol.isBlank).rdropWhile Symbol.isBlank

theorem uniform_isBlank : Uniform GraphSketch.isBlank false := by
  have hword : placeholderWord.any GraphSketch.isBlank = false := by decide
  intro c hc
  simp only [isPlaceholderChar, Bool.or_eq_true, decide_eq_true_eq] at hc
  rcases hc with (rfl | h) | h
  · decide
  · exact Bool.eq_false_iff.mpr (List.any_eq_false.mp hword c h)
  · obtain ⟨h₁, h₂⟩ := Text.toNat_of_isDigit h
    simp only [GraphSketch.isBlank, Bool.or_eq_false_iff, Bool.and_eq_false_iff,
      decide_eq_false_iff_not]
    omega

theorem not_isBlank_of_mem_placeholder {width n : Nat} {c : Char}
    (h : c ∈ Mask.placeholder width n) : GraphSketch.isBlank c = false :=
  uniform_isBlank c (isPlaceholderChar_of_mem h)

/-- A reading of symbols that shows a character outside all spans as it is, and a span with no
blank at either end. -/
structure KeepsBlanks (f : Symbol → Text) : Prop where
  char : ∀ c, f (.char c) = [c]
  first : ∀ n content, ∃ c cs, f (.span n content) = c :: cs ∧ GraphSketch.isBlank c = false
  last : ∀ n content, ∃ cs c, f (.span n content) = cs ++ [c] ∧ GraphSketch.isBlank c = false

namespace KeepsBlanks

variable {f : Symbol → Text}

theorem flatMap_dropWhile (hf : KeepsBlanks f) (s : Marked) :
    (s.dropWhile Symbol.isBlank).flatMap f = Text.trimStart (s.flatMap f) := by
  induction s with
  | nil => rfl
  | cons x s ih =>
    rw [Text.trimStart] at ih ⊢
    cases x with
    | char c =>
      rw [List.flatMap_cons, hf.char, List.singleton_append, List.dropWhile_cons,
        List.dropWhile_cons, Symbol.isBlank]
      split
      · exact ih
      · rw [List.flatMap_cons, hf.char]
        rfl
    | span n content =>
      obtain ⟨c, cs, hc, hblank⟩ := hf.first n content
      rw [List.dropWhile_cons, Symbol.isBlank, if_neg Bool.false_ne_true, List.flatMap_cons, hc,
        List.cons_append, List.dropWhile_cons, hblank, if_neg Bool.false_ne_true]

theorem flatMap_rdropWhile (hf : KeepsBlanks f) (s : Marked) :
    (s.rdropWhile Symbol.isBlank).flatMap f = Text.trimEnd (s.flatMap f) := by
  induction s using List.reverseRecOn with
  | nil => rfl
  | append_singleton s x ih =>
    rw [Text.trimEnd_eq_rdropWhile] at ih ⊢
    rw [List.rdropWhile_concat, List.flatMap_append, List.flatMap_singleton]
    cases x with
    | char c =>
      rw [hf.char, List.rdropWhile_concat, Symbol.isBlank]
      split
      · exact ih
      · rw [List.flatMap_append, List.flatMap_singleton, hf.char]
    | span n content =>
      obtain ⟨cs, c, hc, hblank⟩ := hf.last n content
      rw [Symbol.isBlank, if_neg Bool.false_ne_true, List.flatMap_append, List.flatMap_singleton, hc,
        ← List.append_assoc, List.rdropWhile_concat, hblank, if_neg Bool.false_ne_true]

theorem flatMap_trim (hf : KeepsBlanks f) (s : Marked) :
    (trim s).flatMap f = Text.trim (s.flatMap f) := by
  rw [trim, hf.flatMap_rdropWhile, hf.flatMap_dropWhile, Text.trim]

theorem isBlankText_flatMap (hf : KeepsBlanks f) (s : Marked) :
    Text.isBlankText (s.flatMap f) = s.all Symbol.isBlank := by
  induction s with
  | nil => rfl
  | cons x s ih =>
    unfold Text.isBlankText at ih ⊢
    rw [List.flatMap_cons, List.all_append, List.all_cons, ih]
    cases x with
    | char c => simp [hf.char, Symbol.isBlank]
    | span n content =>
      obtain ⟨c, cs, hc, hblank⟩ := hf.first n content
      simp [hc, hblank, Symbol.isBlank]

end KeepsBlanks

theorem keepsBlanks_masked (width : Nat) : KeepsBlanks (Symbol.masked width) where
  char _ := rfl
  first n _ := by
    obtain ⟨c, cs, hc⟩ := List.exists_cons_of_ne_nil (placeholder_ne_nil width n)
    have hmem : c ∈ Mask.placeholder width n := by rw [hc]; exact List.mem_cons_self
    exact ⟨c, cs, hc, not_isBlank_of_mem_placeholder hmem⟩
  last n _ := by
    obtain ⟨cs, c, hc⟩ := (List.eq_nil_or_concat _).resolve_left (placeholder_ne_nil width n)
    rw [List.concat_eq_append] at hc
    have hmem : c ∈ Mask.placeholder width n := by rw [hc]; simp
    exact ⟨cs, c, hc, not_isBlank_of_mem_placeholder hmem⟩

theorem keepsBlanks_source : KeepsBlanks Symbol.source where
  char _ := rfl
  first _ content := ⟨'"', content ++ ['"'], rfl, by decide⟩
  last _ content := ⟨'"' :: content, '"', rfl, by decide⟩

theorem masked_dropWhile (width : Nat) (s : Marked) :
    masked width (s.dropWhile Symbol.isBlank) = Text.trimStart (masked width s) :=
  (keepsBlanks_masked width).flatMap_dropWhile s

theorem masked_trim (width : Nat) (s : Marked) :
    masked width (trim s) = Text.trim (masked width s) :=
  (keepsBlanks_masked width).flatMap_trim s

theorem source_trim (s : Marked) : source (trim s) = Text.trim (source s) :=
  keepsBlanks_source.flatMap_trim s

theorem isInfix_trim (s : Marked) : trim s <:+: s :=
  (List.rdropWhile_prefix _ _).isInfix.trans (List.dropWhile_suffix _).isInfix

theorem spanless_of_isBlank {s : Marked} (h : ∀ x ∈ s, x.isBlank = true) : s.spanless = true := by
  refine List.all_eq_true.mpr fun x hx => ?_
  cases x with
  | char c => rfl
  | span n content => cases h _ hx

theorem spanless_append (s s' : Marked) : spanless (s ++ s') = (spanless s && spanless s') :=
  List.all_append

theorem spanless_trim (s : Marked) : spanless (trim s) = spanless s := by
  have hstart : spanless (s.takeWhile Symbol.isBlank) = true :=
    spanless_of_isBlank fun x hx => List.mem_takeWhile_imp hx
  have hend : spanless ((s.dropWhile Symbol.isBlank).rtakeWhile Symbol.isBlank) = true :=
    spanless_of_isBlank fun x hx => List.mem_rtakeWhile_imp hx
  calc spanless (trim s)
      = spanless (trim s ++ (s.dropWhile Symbol.isBlank).rtakeWhile Symbol.isBlank) := by
        rw [spanless_append, hend, Bool.and_true]
    _ = spanless (s.dropWhile Symbol.isBlank) := by
        rw [trim, List.rdropWhile_append_rtakeWhile]
    _ = spanless (s.takeWhile Symbol.isBlank ++ s.dropWhile Symbol.isBlank) := by
        rw [spanless_append, hstart, Bool.true_and]
    _ = spanless s := by rw [List.takeWhile_append_dropWhile]

end Marked

/-! ## Arrows -/

/-- An arrow in marked text, by its form and the text of its label. -/
inductive MarkedArrow where
  | both (label : Marked)
  | forward (label : Marked)
  | plainBoth
  | plainForward
  | plainBackward

namespace MarkedArrow

open Marked

/-- Where the arrow points. -/
def direction : MarkedArrow → Direction
  | both _ => .bidirectional
  | forward _ => .forward
  | plainBoth => .bidirectional
  | plainForward => .forward
  | plainBackward => .backward

/-- The text of the label between the ends of the arrow. -/
def label? : MarkedArrow → Option Marked
  | both label => some label
  | forward label => some label
  | _ => none

/-- The arrow as marked text, with its ends. -/
def symbols : MarkedArrow → Marked
  | both label => ['<', '-'].map .char ++ (label ++ ['-', '>'].map .char)
  | forward label => ['-'].map .char ++ (label ++ ['-', '>'].map .char)
  | plainBoth => ['<', '-', '>'].map .char
  | plainForward => ['-', '>'].map .char
  | plainBackward => ['<', '-'].map .char

/-- The arrow with its texts read by `f`; a label of blanks counts as none. -/
def read (f : Marked → Text) (a : MarkedArrow) : Arrow where
  direction := a.direction
  label := a.label?.bind fun label => if trim label = [] then none else some (f (trim label))
  raw := f a.symbols

theorem cleanLabel_masked (width : Nat) (label : Marked) :
    Arrow.cleanLabel (masked width label) =
      if trim label = [] then none else some (masked width (trim label)) := by
  rw [Arrow.cleanLabel, ← masked_trim]
  split
  · rename_i h
    rw [h]
    rfl
  · rename_i h
    exact Text.nonEmpty?_eq_some_iff.mpr ⟨mt masked_eq_nil_iff.mp h, rfl⟩

theorem label_infix_symbols {a : MarkedArrow} {label : Marked} (h : a.label? = some label) :
    label <:+: a.symbols := by
  cases a with
  | both l =>
    cases h
    exact ⟨_, _, List.append_assoc ..⟩
  | forward l =>
    cases h
    exact ⟨_, _, List.append_assoc ..⟩
  | plainBoth => cases h
  | plainForward => cases h
  | plainBackward => cases h

theorem spanless_map_char (t : Text) : spanless (t.map .char) = true :=
  List.all_eq_true.mpr fun x hx => by
    obtain ⟨c, _, rfl⟩ := List.mem_map.mp hx
    rfl

theorem spanless_symbols (a : MarkedArrow) :
    a.symbols.spanless = true ↔ ∀ label, a.label? = some label → label.spanless = true := by
  cases a with
  | both l => simp only [symbols, label?, spanless_append, spanless_map_char, Bool.true_and,
      Bool.and_true, Option.some.injEq, forall_eq']
  | forward l => simp only [symbols, label?, spanless_append, spanless_map_char, Bool.true_and,
      Bool.and_true, Option.some.injEq, forall_eq']
  | plainBoth => exact ⟨fun _ => nofun, fun _ => rfl⟩
  | plainForward => exact ⟨fun _ => nofun, fun _ => rfl⟩
  | plainBackward => exact ⟨fun _ => nofun, fun _ => rfl⟩

/-! ## Arrows read with placeholders -/

variable {t : Text} {a : MarkedArrow}

/-- **The spelling of an arrow** is shown as it is restored exactly if there is no span in it. -/
theorem read_raw_eq_iff (h : a.symbols <:+: ofText t) :
    (a.read (masked (fenceWidth t))).raw = (a.read filled).raw ↔ a.symbols.spanless = true :=
  masked_eq_filled_iff h

/-- **The label of an arrow** is shown as it is restored exactly if there is no span in it. -/
theorem read_label_eq_iff (h : a.symbols <:+: ofText t) :
    (a.read (masked (fenceWidth t))).label = (a.read filled).label ↔
      a.symbols.spanless = true := by
  rw [spanless_symbols]
  simp only [read]
  cases hl : a.label? with
  | none => exact ⟨fun _ => nofun, fun _ => rfl⟩
  | some label =>
    have hi : trim label <:+: ofText t :=
      ((isInfix_trim label).trans (label_infix_symbols hl)).trans h
    simp only [Option.bind_some, Option.some.injEq, forall_eq']
    rw [← spanless_trim, ← masked_eq_filled_iff hi]
    split
    · rename_i hnil
      rw [hnil]
      exact ⟨fun _ => rfl, fun _ => rfl⟩
    · rw [Option.some.injEq]

/-- A placeholder is shown in the label of an arrow exactly if there is a span in the arrow. -/
theorem exists_key_infix_label_iff (h : a.symbols <:+: ofText t) :
    (∃ label, (a.read (masked (fenceWidth t))).label = some label ∧
      ∃ key ∈ (Mask.ofText t).entries.keys, key <:+: label) ↔ a.symbols.spanless = false := by
  rw [← Bool.not_eq_true, spanless_symbols]
  simp only [read]
  cases hl : a.label? with
  | none => exact ⟨fun ⟨_, hn, _⟩ => (Option.some_ne_none _ hn.symm).elim, fun hn => (hn nofun).elim⟩
  | some label =>
    have hi : trim label <:+: ofText t :=
      ((isInfix_trim label).trans (label_infix_symbols hl)).trans h
    simp only [Option.bind_some, Option.some.injEq, forall_eq']
    rw [← spanless_trim, Bool.not_eq_true, ← exists_key_infix_masked_iff hi]
    split
    · rename_i hnil
      rw [hnil]
      refine ⟨fun ⟨_, hn, _⟩ => (Option.some_ne_none _ hn.symm).elim, fun ⟨key, hkey, hin⟩ => ?_⟩
      obtain ⟨i, rfl⟩ := Mask.exists_of_mem_keys_entriesFrom hkey
      exact absurd (List.infix_nil.mp hin) (placeholder_ne_nil _ i)
    · simp only [Option.some.injEq, exists_eq_left']

end MarkedArrow

end GraphSketch
