import GraphSketch.Proofs.Mask.Marked
import GraphSketch.Proofs.Text.Split

/-!
# Reading masked text

Whatever is looked for in masked text is made of characters that no placeholder holds, and a test
that a run of characters has to pass is passed by all characters of placeholders or by none.  Such
readings are readings of the marked text, whatever the width of the fences is.

* `Marked.Uniform` — a test that has one answer for all characters of placeholders, and
  `Symbol.passes` — its answer for a symbol of marked text.
* `masked_eq_append_iff` — a text that begins masked text begins the marked one.
* `takeWhile_masked`, `dropWhile_masked` — runs of characters.
* `splitOn_masked` — pieces between separators.

Commands and arrows are carried from masked to marked text by these lemmas alone.
-/

set_option autoImplicit false

namespace GraphSketch

/-- Whether a symbol passes a test of characters to which all characters of placeholders have the
answer `b`. -/
def Symbol.passes (p : Char → Bool) (b : Bool) : Symbol → Bool
  | char c => p c
  | span _ _ => b

namespace Marked

theorem placeholder_ne_nil (width n : Nat) : Mask.placeholder width n ≠ [] :=
  List.append_ne_nil_of_left_ne_nil
    (List.append_ne_nil_of_right_ne_nil _ (Text.ofNat_ne_nil n)) _

theorem masked_eq_nil_iff {width : Nat} {s : Marked} : masked width s = [] ↔ s = [] := by
  refine ⟨fun h => ?_, fun h => by rw [h]; rfl⟩
  cases s with
  | nil => rfl
  | cons x s =>
    rw [masked_cons, List.append_eq_nil_iff] at h
    cases x with
    | char c => cases h.1
    | span n content => exact absurd h.1 (placeholder_ne_nil width n)

/-- Masked text that begins with a span begins with a character of placeholders. -/
theorem exists_cons_masked (width n : Nat) (content : Text) (s : Marked) :
    ∃ c cs, masked width (.span n content :: s) = c :: cs ∧ isPlaceholderChar c = true := by
  obtain ⟨c, cs, hc⟩ := List.exists_cons_of_ne_nil (placeholder_ne_nil width n)
  refine ⟨c, cs ++ masked width s, ?_, ?_⟩
  · rw [masked_cons, Symbol.masked, hc, List.cons_append]
  · exact isPlaceholderChar_of_mem (by rw [hc]; exact List.mem_cons_self)

/-! ## Texts without characters of placeholders -/

theorem isPlaceholderChar_eq_false_of_mem {t : Text} (h : t.any isPlaceholderChar = false)
    {c : Char} (hc : c ∈ t) : isPlaceholderChar c = false :=
  Bool.eq_false_iff.mpr (List.any_eq_false.mp h c hc)

/-- Where masked text holds no characters of placeholders, it is the text itself. -/
theorem eq_map_char_of_masked {width : Nat} : ∀ {s : Marked} {t : Text}, s.masked width = t →
    t.any isPlaceholderChar = false → s = t.map .char
  | [], t, h, _ => by
    rw [← h]
    rfl
  | .char c :: s, t, h, ht => by
    rw [masked_cons, Symbol.masked, List.singleton_append] at h
    subst h
    rw [List.any_cons, Bool.or_eq_false_iff] at ht
    have ih := eq_map_char_of_masked (s := s) rfl ht.2
    exact congrArg (Symbol.char c :: ·) ih
  | .span n content :: s, t, h, ht => by
    obtain ⟨c, cs, hmasked, hc⟩ := exists_cons_masked width n content s
    have hct : c ∈ t := by
      rw [← h, hmasked]
      exact List.mem_cons_self
    rw [isPlaceholderChar_eq_false_of_mem ht hct] at hc
    cases hc

/-- **What begins masked text begins the marked one**, if no placeholder holds its characters. -/
theorem masked_eq_append_iff {width : Nat} {s : Marked} {x y : Text}
    (hx : x.any isPlaceholderChar = false) :
    s.masked width = x ++ y ↔ ∃ s' : Marked, s = x.map .char ++ s' ∧ s'.masked width = y := by
  constructor
  · intro h
    obtain ⟨a, s', rfl, ha, hs'⟩ := exists_split h
      fun c hc d hd => Or.inl (isPlaceholderChar_eq_false_of_mem hx (List.mem_of_getLast? hc))
    exact ⟨s', by rw [eq_map_char_of_masked ha hx], hs'⟩
  · rintro ⟨s', rfl, rfl⟩
    rw [masked_append, masked_map_char]

theorem isPrefix_masked_iff {width : Nat} {s : Marked} {x : Text}
    (hx : x.any isPlaceholderChar = false) : x <+: s.masked width ↔ x.map .char <+: s := by
  constructor
  · rintro ⟨y, h⟩
    obtain ⟨s', rfl, -⟩ := (masked_eq_append_iff hx).mp h.symm
    exact List.prefix_append _ _
  · rintro ⟨s', rfl⟩
    exact ⟨masked width s', ((masked_eq_append_iff hx).mpr ⟨s', rfl, rfl⟩).symm⟩

theorem notMem_masked {c : Char} (hc : isPlaceholderChar c = false) {width : Nat} {s : Marked}
    (h : .char c ∉ s) : c ∉ s.masked width := by
  intro hmem
  obtain ⟨x, hx, hc'⟩ := List.mem_flatMap.mp hmem
  cases x with
  | char d =>
    rw [Symbol.masked, List.mem_singleton] at hc'
    exact h (hc' ▸ hx)
  | span n content =>
    rw [isPlaceholderChar_of_mem hc'] at hc
    cases hc

theorem mem_masked_iff {c : Char} (hc : isPlaceholderChar c = false) {width : Nat} {s : Marked} :
    c ∈ s.masked width ↔ .char c ∈ s :=
  ⟨not_imp_not.mp (notMem_masked hc), fun h => List.mem_flatMap.mpr ⟨_, h, by simp [Symbol.masked]⟩⟩

/-! ## Runs -/

/-- The test has the same answer for all characters of placeholders. -/
def Uniform (p : Char → Bool) (b : Bool) : Prop := ∀ c, isPlaceholderChar c = true → p c = b

theorem uniform_ne {c : Char} (hc : isPlaceholderChar c = false) :
    Uniform (fun d => decide (d ≠ c)) true := fun d hd => by
  have hne : d ≠ c := fun he => by
    rw [he, hc] at hd
    cases hd
  simpa using hne

variable {p : Char → Bool} {b : Bool}

theorem takeWhile_masked (hp : Uniform p b) (width : Nat) : ∀ s : Marked,
    (masked width s).takeWhile p = masked width (s.takeWhile (Symbol.passes p b))
  | [] => rfl
  | .char c :: s => by
    have ih := takeWhile_masked hp width s
    rw [masked_cons, Symbol.masked, List.singleton_append, List.takeWhile_cons, List.takeWhile_cons,
      ih, Symbol.passes]
    split <;> simp [Symbol.masked]
  | .span n content :: s => by
    have ih := takeWhile_masked hp width s
    have hword : ∀ c ∈ Mask.placeholder width n, p c = b := fun c hc =>
      hp c (isPlaceholderChar_of_mem hc)
    rw [masked_cons, Symbol.masked, List.takeWhile_cons, Symbol.passes]
    cases b with
    | true =>
      rw [List.takeWhile_append_of_pos hword, ih, if_pos rfl, masked_cons, Symbol.masked]
    | false =>
      obtain ⟨c, cs, hc⟩ := List.exists_cons_of_ne_nil (placeholder_ne_nil width n)
      have hfirst : p c = false := hword c (by rw [hc]; exact List.mem_cons_self)
      rw [hc, List.cons_append, List.takeWhile_cons, hfirst, if_neg Bool.false_ne_true,
        if_neg Bool.false_ne_true, masked_nil]

theorem dropWhile_masked (hp : Uniform p b) (width : Nat) (s : Marked) :
    (masked width s).dropWhile p = masked width (s.dropWhile (Symbol.passes p b)) := by
  have hsplit : masked width s = masked width (s.takeWhile (Symbol.passes p b)) ++
      masked width (s.dropWhile (Symbol.passes p b)) := by
    rw [← masked_append, List.takeWhile_append_dropWhile]
  have hparts := List.takeWhile_append_dropWhile (p := p) (l := masked width s)
  rw [takeWhile_masked hp] at hparts
  exact List.append_cancel_left (hparts.trans hsplit)

/-! ## Pieces -/

/-- **The pieces of masked text** are the masked pieces. -/
theorem splitOn_masked {sep : Char} (hsep : isPlaceholderChar sep = false) (width : Nat)
    (s : Marked) :
    Text.splitOn sep (s.masked width) = (s.splitOn (.char sep)).map (masked width) := by
  induction s with
  | nil => simp [Text.splitOn]
  | cons x s ih =>
    rw [masked_cons, List.splitOn_cons_eq_if_modifyHead]
    by_cases hx : x = .char sep
    · subst hx
      rw [if_pos (beq_self_eq_true _), Symbol.masked, List.singleton_append, Text.splitOn,
        if_pos rfl, ih]
      rfl
    · have hnot : sep ∉ x.masked width := by
        have hone : sep ∉ masked width [x] :=
          notMem_masked hsep fun h => hx (List.mem_singleton.mp h).symm
        rwa [masked_cons, masked_nil, List.append_nil] at hone
      rw [if_neg (by rwa [beq_iff_eq]), Text.splitOn_append_of_notMem _ hnot, ih]
      cases hs : s.splitOn (.char sep) with
      | nil => exact absurd hs (List.splitOn_ne_nil _ s)
      | cons l ls => simp

end Marked

end GraphSketch
