import GraphSketch.Mask
import GraphSketch.Proofs.Text.Digits
import Mathlib.Data.List.Basic

/-!
# Texts with their quoted spans marked

A `Marked` text is a row of characters and quoted spans, the spans numbered from zero.  It can be
read in three ways: as it is written (`source`), with a placeholder for each span (`masked`), and
with the contents of the spans in place of the spans (`filled`).

* `source_ofText`, `masked_ofText` — marking a text and reading it as written gives the text back;
  reading it with placeholders gives what `Mask.conceal` makes of it.
* `exists_split` — where masked text is cut beside a character that no placeholder holds, the
  marked text is cut too; so no placeholder is torn.
-/

set_option autoImplicit false

namespace GraphSketch

/-! ## Spans -/

theorem spanContent?_eq_some {t content : Text} (h : spanContent? t = some content) :
    content ++ ['"'] <+: t := by
  induction t using spanContent?.induct generalizing content with
  | case1 => cases h
  | case2 cs =>
    cases h
    exact ⟨cs, rfl⟩
  | case3 c cs ih =>
    obtain ⟨rest, hrest, rfl⟩ := Option.map_eq_some_iff.mp h
    simpa using ih hrest
  | case4 => cases h
  | case5 c cs hquote hescape hlast ih =>
    rw [spanContent?] at h
    · obtain ⟨rest, hrest, rfl⟩ := Option.map_eq_some_iff.mp h
      simpa using ih hrest
    · exact hquote
    · exact hescape
    · exact hlast

/-- A span is found with its quotes, at the beginning of the text. -/
theorem span?_eq_some {t content : Text} {n : Nat} (h : span? t = some (content, n)) :
    n = content.length + 2 ∧ '"' :: (content ++ ['"']) <+: t := by
  unfold span? at h
  split at h
  · obtain ⟨_, hcontent, heq⟩ := Option.map_eq_some_iff.mp h
    cases heq
    exact ⟨rfl, (List.prefix_cons_inj _).mpr (spanContent?_eq_some hcontent)⟩
  · cases h

/-- Without quotes in it, what occurs in an unescaped content occurs in the content. -/
theorem prefix_of_prefix_unescapeQuotes {x : Text} (hx : '"' ∉ x) : ∀ {content : Text},
    x <+: unescapeQuotes content → x <+: content := by
  intro content
  induction content using unescapeQuotes.induct generalizing x with
  | case1 cs ih =>
    intro h
    cases x with
    | nil => exact List.nil_prefix
    | cons c x =>
      obtain ⟨rfl, _⟩ := List.cons_prefix_cons.mp h
      exact absurd List.mem_cons_self hx
  | case2 c cs hescape ih =>
    intro h
    rw [unescapeQuotes] at h
    · cases x with
      | nil => exact List.nil_prefix
      | cons d x =>
        obtain ⟨rfl, hp⟩ := List.cons_prefix_cons.mp h
        exact List.cons_prefix_cons.mpr ⟨rfl, ih (fun hm => hx (List.mem_cons_of_mem _ hm)) hp⟩
    · exact hescape
  | case3 => exact id

theorem infix_of_infix_unescapeQuotes {x : Text} (hx : '"' ∉ x) : ∀ {content : Text},
    x <:+: unescapeQuotes content → x <:+: content := by
  intro content
  induction content using unescapeQuotes.induct with
  | case1 cs ih =>
    intro h
    rcases List.infix_cons_iff.mp h with h | h
    · cases x with
      | nil => exact List.nil_infix
      | cons c x =>
        obtain ⟨rfl, _⟩ := List.cons_prefix_cons.mp h
        exact absurd List.mem_cons_self hx
    · exact ((ih h).trans (List.suffix_cons '"' cs).isInfix).trans (List.suffix_cons _ _).isInfix
  | case2 c cs hescape ih =>
    intro h
    rw [unescapeQuotes] at h
    · rcases List.infix_cons_iff.mp h with hp | h
      · have hp' : x <+: unescapeQuotes (c :: cs) := by
          rw [unescapeQuotes]
          · exact hp
          · exact hescape
        exact (prefix_of_prefix_unescapeQuotes hx hp').isInfix
      · exact (ih h).trans (List.suffix_cons _ _).isInfix
    · exact hescape
  | case3 => exact id

/-- Escapes stand for quotes only, so all other characters of a content are counted once. -/
theorem count_unescapeQuotes {c : Char} (hc : c ≠ '\\') (hq : c ≠ '"') (content : Text) :
    (unescapeQuotes content).count c = content.count c := by
  induction content using unescapeQuotes.induct with
  | case1 cs ih => simp [unescapeQuotes, ih, hc.symm, hq.symm]
  | case2 d cs hescape ih =>
    rw [unescapeQuotes]
    · rw [List.count_cons, List.count_cons, ih]
    · exact hescape
  | case3 => rfl

/-! ## Marked texts -/

/-- What stands at one place of a text: a character outside all spans, or a span with its number
and its content as written. -/
inductive Symbol where
  | char (c : Char)
  | span (number : Nat) (content : Text)
  deriving DecidableEq, Repr

namespace Symbol

/-- The symbol as it is written. -/
def source : Symbol → Text
  | char c => [c]
  | span _ content => '"' :: (content ++ ['"'])

/-- The symbol with its placeholder if it is a span. -/
def masked (width : Nat) : Symbol → Text
  | char c => [c]
  | span number _ => Mask.placeholder width number

/-- The symbol with its content if it is a span. -/
def filled : Symbol → Text
  | char c => [c]
  | span _ content => unescapeQuotes content

/-- Whether the symbol is a span. -/
def isSpan : Symbol → Bool
  | char _ => false
  | span _ _ => true

end Symbol

/-- A text of which the spans are marked. -/
abbrev Marked := List Symbol

namespace Marked

/-- The text as it is written. -/
def source (s : Marked) : Text := s.flatMap Symbol.source

/-- The text with placeholders for its spans. -/
def masked (width : Nat) (s : Marked) : Text := s.flatMap (Symbol.masked width)

/-- The text with the contents of its spans. -/
def filled (s : Marked) : Text := s.flatMap Symbol.filled

/-- Whether the text has no spans. -/
def spanless (s : Marked) : Bool := s.all fun x => !x.isSpan

/-- Spans from number `n` on, each with the gap after it. -/
def ofSpansFrom : Nat → List (Text × Text) → Marked
  | _, [] => []
  | n, (content, gap) :: rest => .span n content :: (gap.map .char ++ ofSpansFrom (n + 1) rest)

/-- A text with its quoted spans marked. -/
def ofText (t : Text) : Marked := t.spans.first.map .char ++ ofSpansFrom 0 t.spans.rest

@[simp] theorem source_append (s s' : Marked) : source (s ++ s') = source s ++ source s' :=
  List.flatMap_append

@[simp] theorem masked_append (width : Nat) (s s' : Marked) :
    masked width (s ++ s') = masked width s ++ masked width s' := List.flatMap_append

@[simp] theorem filled_append (s s' : Marked) : filled (s ++ s') = filled s ++ filled s' :=
  List.flatMap_append

@[simp] theorem source_cons (x : Symbol) (s : Marked) : source (x :: s) = x.source ++ source s :=
  List.flatMap_cons

@[simp] theorem masked_cons (width : Nat) (x : Symbol) (s : Marked) :
    masked width (x :: s) = x.masked width ++ masked width s := List.flatMap_cons

@[simp] theorem filled_cons (x : Symbol) (s : Marked) : filled (x :: s) = x.filled ++ filled s :=
  List.flatMap_cons

@[simp] theorem source_nil : source [] = [] := rfl

@[simp] theorem masked_nil (width : Nat) : masked width [] = [] := rfl

@[simp] theorem filled_nil : filled [] = [] := rfl

@[simp] theorem source_map_char (t : Text) : source (t.map .char) = t := by
  induction t with
  | nil => rfl
  | cons c t ih => simp [Symbol.source, ih]

@[simp] theorem filled_map_char (t : Text) : filled (t.map .char) = t := by
  induction t with
  | nil => rfl
  | cons c t ih => simp [Symbol.filled, ih]

@[simp] theorem masked_map_char (width : Nat) (t : Text) : masked width (t.map .char) = t := by
  induction t with
  | nil => rfl
  | cons c t ih => simp [Symbol.masked, ih]

theorem exists_map_char_of_spanless : ∀ {s : Marked}, s.spanless = true →
    ∃ t : Text, s = t.map .char
  | [], _ => ⟨[], rfl⟩
  | .char c :: s, h => by
    have hs : spanless s = true := by simpa [spanless, Symbol.isSpan] using h
    obtain ⟨t, rfl⟩ := exists_map_char_of_spanless hs
    exact ⟨c :: t, rfl⟩
  | .span _ _ :: _, h => by simp [spanless, Symbol.isSpan] at h

/-- A text without spans reads the same with placeholders and with contents. -/
theorem filled_of_spanless {s : Marked} (h : s.spanless = true) (width : Nat) :
    s.filled = s.masked width := by
  induction s with
  | nil => rfl
  | cons x s ih =>
    rw [spanless, List.all_cons, Bool.and_eq_true] at h
    cases x with
    | char c =>
      rw [filled_cons, masked_cons, ih h.2]
      rfl
    | span n content => cases h.1

/-! ## Marking a text -/

theorem source_ofSpansFrom : ∀ (n : Nat) (rest : List (Text × Text)),
    source (ofSpansFrom n rest) = rest.flatMap fun e => '"' :: (e.1 ++ ['"']) ++ e.2
  | _, [] => rfl
  | n, (content, gap) :: rest => by
    simp [ofSpansFrom, source_ofSpansFrom (n + 1) rest, Symbol.source]

theorem source_ofText (t : Text) : source (ofText t) = t := by
  have hspan : ∀ t content n, span? t = some (content, n) →
      0 < n ∧ '"' :: (content ++ ['"']) = t.take n := by
    intro t content n h
    obtain ⟨rfl, hp⟩ := span?_eq_some h
    exact ⟨by omega, by simpa using List.prefix_iff_eq_take.mp hp⟩
  have hfill := Text.fill_cut hspan t
  rw [ofText, source_append, source_map_char, source_ofSpansFrom]
  exact hfill

theorem masked_ofSpansFrom (width : Nat) : ∀ (n : Nat) (rest : List (Text × Text)),
    masked width (ofSpansFrom n rest) = Mask.fillFrom width n rest
  | _, [] => rfl
  | n, (content, gap) :: rest => by
    simp [ofSpansFrom, Mask.fillFrom, masked_ofSpansFrom width (n + 1) rest, Symbol.masked]

theorem masked_ofText (t : Text) : masked (fenceWidth t) (ofText t) = Mask.conceal t := by
  rw [ofText, masked_append, masked_map_char, masked_ofSpansFrom]
  rfl

/-- A span that is marked is one of those that masking takes out, by its number. -/
theorem contents_of_span_mem_ofSpansFrom {number : Nat} {content : Text} :
    ∀ {n : Nat} {rest : List (Text × Text)}, .span number content ∈ ofSpansFrom n rest →
      n ≤ number ∧ (rest.map (·.1))[number - n]? = some content
  | _, [], h => by cases h
  | n, (_, _) :: rest, h => by
    rw [ofSpansFrom, List.mem_cons, List.mem_append] at h
    rcases h with h | h | h
    · cases h
      exact ⟨Nat.le_refl _, by simp⟩
    · simp at h
    · obtain ⟨hle, hget⟩ := contents_of_span_mem_ofSpansFrom h
      refine ⟨by omega, ?_⟩
      rw [show number - n = number - (n + 1) + 1 by omega]
      exact hget

theorem contents_of_span_mem {t content : Text} {number : Nat}
    (h : .span number content ∈ ofText t) :
    (Mask.ofText t).contents[number]? = some (unescapeQuotes content) := by
  rw [ofText, List.mem_append] at h
  rcases h with h | h
  · simp at h
  · have hget := (contents_of_span_mem_ofSpansFrom h).2
    rw [Nat.sub_zero] at hget
    simp only [Mask.ofText, List.getElem?_map, Cut.tokens]
    rw [List.getElem?_map] at hget
    rw [hget]
    rfl

/-! ## Cutting -/

/-- The characters that placeholders are made of. -/
def isPlaceholderChar (c : Char) : Bool := c = '_' || decide (c ∈ placeholderWord) || c.isDigit

theorem isPlaceholderChar_of_mem {width n : Nat} {c : Char} (h : c ∈ Mask.placeholder width n) :
    isPlaceholderChar c = true := by
  simp only [Mask.placeholder, fence, List.mem_append, List.mem_replicate] at h
  simp only [isPlaceholderChar, Bool.or_eq_true, decide_eq_true_eq]
  rcases h with ((⟨_, rfl⟩ | h) | h) | ⟨_, rfl⟩
  · exact Or.inl (Or.inl rfl)
  · exact Or.inl (Or.inr h)
  · exact Or.inr (Text.isDigit_of_mem_ofNat h)
  · exact Or.inl (Or.inl rfl)

/-- Whether a text may be cut between `x` and `y` without tearing a placeholder: one of them is
empty or has at the cut a character that no placeholder holds. -/
def IsJoint (x y : Text) : Prop :=
  (∀ c ∈ x.getLast?, ∀ d ∈ y.head?, isPlaceholderChar c = false ∨ isPlaceholderChar d = false)

/-- **No placeholder is torn** where masked text is cut at a joint. -/
theorem exists_split {width : Nat} : ∀ {s : Marked} {x y : Text}, s.masked width = x ++ y →
    IsJoint x y → ∃ a b, s = a ++ b ∧ a.masked width = x ∧ b.masked width = y
  | [], x, y, h, _ => by
    obtain ⟨rfl, rfl⟩ := List.append_eq_nil_iff.mp h.symm
    exact ⟨[], [], rfl, rfl, rfl⟩
  | sym :: s, x, y, h, hj => by
    rw [masked_cons] at h
    rcases List.append_eq_append_iff.mp h with ⟨z, rfl, hz⟩ | ⟨z, hz, rfl⟩
    · -- the cut lies behind the first symbol
      have hj' : IsJoint z y := by
        intro c hc d hd
        refine hj c ?_ d hd
        rw [List.getLast?_append, Option.mem_def.mp hc]
        rfl
      obtain ⟨a, b, rfl, rfl, rfl⟩ := exists_split hz hj'
      exact ⟨sym :: a, b, rfl, rfl, rfl⟩
    · -- the cut lies in the first symbol, at one of its ends
      rcases List.eq_nil_or_concat x with rfl | ⟨x, c, rfl⟩
      · exact ⟨[], sym :: s, rfl, rfl, by rw [masked_cons, hz]; rfl⟩
      · cases z with
        | nil => exact ⟨[sym], s, rfl, by simp [masked, hz], rfl⟩
        | cons d z =>
          cases sym with
          | char e =>
            have hlen := congrArg List.length hz
            simp [Symbol.masked] at hlen
            omega
          | span n content =>
            rw [Symbol.masked] at hz
            have hc : c ∈ Mask.placeholder width n := by rw [hz]; simp
            have hd : d ∈ Mask.placeholder width n := by rw [hz]; simp
            rcases hj c (by simp) d (by simp) with h | h
            · rw [isPlaceholderChar_of_mem hc] at h
              cases h
            · rw [isPlaceholderChar_of_mem hd] at h
              cases h

end Marked

end GraphSketch
