import GraphSketch.Proofs.Mask.Restore

/-!
# Writing quoted spans

`quoteSpan` writes a text as a quoted span, with a backslash before each of its quotes.  A backslash
takes the next character with it, so the span ends where it should exactly if no backslash of the
text is left over before a quote or at the end: `EvenBackslashes` says this of the runs of
backslashes in the text.

* `spanContent?_escapeQuotes_iff` — the written span is read to its end exactly in this case.
* `unescapeQuotes_escapeQuotes` — the content of the span is the text.
* `ofTextFrom_quoteSpan`, `ofTextFrom_append` — how a text is marked that is put together from spans
  and gaps.
-/

set_option autoImplicit false

namespace GraphSketch

/-! ## Escaping -/

/-- A text with a backslash before each of its quotes. -/
def escapeQuotes (t : Text) : Text := t.flatMap fun c => if c = '"' then ['\\', '"'] else [c]

/-- A text written as a quoted span. -/
def quoteSpan (t : Text) : Text := '"' :: (escapeQuotes t ++ ['"'])

/-- Every greatest run of backslashes directly before a quote or at the end has an even length. -/
def EvenBackslashes (t : Text) : Prop :=
  ∀ (before behind : Text) (n : Nat), t = before ++ List.replicate n '\\' ++ behind →
    before.getLast? ≠ some '\\' → (behind = [] ∨ behind.head? = some '"') → n % 2 = 0

@[simp] theorem escapeQuotes_nil : escapeQuotes [] = [] := rfl

@[simp] theorem escapeQuotes_quote (t : Text) :
    escapeQuotes ('"' :: t) = '\\' :: '"' :: escapeQuotes t := rfl

theorem escapeQuotes_cons {c : Char} (hc : c ≠ '"') (t : Text) :
    escapeQuotes (c :: t) = c :: escapeQuotes t := by
  simp [escapeQuotes, hc]

theorem mem_of_mem_escapeQuotes {c : Char} (hc : c ≠ '\\') {t : Text} (h : c ∈ escapeQuotes t) :
    c ∈ t := by
  obtain ⟨d, hd, hmem⟩ := List.mem_flatMap.mp h
  split at hmem
  · rename_i hquote
    simp only [List.mem_cons, hc, List.not_mem_nil, or_false, false_or] at hmem
    rw [hmem, ← hquote]
    exact hd
  · rw [List.mem_singleton.mp hmem]
    exact hd

theorem notMem_quoteSpan {c : Char} (hslash : c ≠ '\\') (hquote : c ≠ '"') {t : Text} (h : c ∉ t) :
    c ∉ quoteSpan t := by
  have hescaped : c ∉ escapeQuotes t := fun hmem => h (mem_of_mem_escapeQuotes hslash hmem)
  simp [quoteSpan, hescaped, hquote]

theorem escapeQuotes_ne_quote (t u : Text) : escapeQuotes t ≠ '"' :: u := by
  cases t with
  | nil => simp
  | cons c t =>
    by_cases hc : c = '"'
    · subst hc
      simp
    · simp [escapeQuotes_cons hc, hc]

/-- **Unescaping undoes escaping**, backslashes in the text or not. -/
theorem unescapeQuotes_escapeQuotes (t : Text) : unescapeQuotes (escapeQuotes t) = t := by
  induction t with
  | nil => rfl
  | cons c t ih =>
    by_cases hc : c = '"'
    · subst hc
      rw [escapeQuotes_quote, unescapeQuotes, ih]
    · rw [escapeQuotes_cons hc, unescapeQuotes, ih]
      intro u _ hu
      exact escapeQuotes_ne_quote t u hu

/-! ## Runs of backslashes -/

theorem evenBackslashes_nil : EvenBackslashes [] := by
  intro before behind n h _ _
  simp only [List.nil_eq, List.append_eq_nil_iff, List.replicate_eq_nil_iff] at h
  omega

theorem evenBackslashes_cons {c : Char} (hc : c ≠ '\\') {t : Text} :
    EvenBackslashes (c :: t) ↔ EvenBackslashes t := by
  constructor
  · intro h before behind n ht hlast hbehind
    refine h (c :: before) behind n (by simp [ht]) ?_ hbehind
    cases before with
    | nil => simpa using hc
    | cons d before => simpa using hlast
  · intro h before behind n ht hlast hbehind
    cases before with
    | nil =>
      cases n with
      | zero => rfl
      | succ n =>
        simp only [List.nil_append, List.replicate_succ, List.cons_append, List.cons.injEq] at ht
        exact absurd ht.1 hc
    | cons d before =>
      simp only [List.cons_append, List.cons.injEq] at ht
      refine h before behind n ht.2 ?_ hbehind
      cases before with
      | nil => simp
      | cons e before => simpa using hlast

theorem evenBackslashes_of_notMem : ∀ {t : Text}, '\\' ∉ t → EvenBackslashes t
  | [], _ => evenBackslashes_nil
  | c :: t, h => by
    rw [List.mem_cons, not_or] at h
    exact (evenBackslashes_cons (Ne.symm h.1)).mpr (evenBackslashes_of_notMem h.2)

/-- Two backslashes more leave the parity of the run that they begin. -/
theorem evenBackslashes_slash_slash {t : Text} :
    EvenBackslashes ('\\' :: '\\' :: t) ↔ EvenBackslashes t := by
  constructor
  · intro h before behind n ht hlast hbehind
    cases before with
    | nil =>
      have heven := h [] behind (n + 2) (by simp [ht, List.replicate_succ]) (by simp) hbehind
      omega
    | cons d before =>
      exact h ('\\' :: '\\' :: d :: before) behind n (by simp [ht]) (by simpa using hlast) hbehind
  · intro h before behind n ht hlast hbehind
    match before, n with
    | [], 0 => rfl
    | [], 1 =>
      simp only [List.nil_append, List.replicate_one, List.singleton_append, List.cons.injEq,
        true_and] at ht
      subst ht
      simp at hbehind
    | [], n + 2 =>
      simp only [List.nil_append, List.replicate_succ, List.cons_append, List.cons.injEq,
        true_and] at ht
      have heven := h [] behind n ht (by simp) hbehind
      omega
    | [d], n =>
      simp only [List.cons_append, List.cons.injEq] at ht
      simp [← ht.1] at hlast
    | d :: e :: before, n =>
      simp only [List.cons_append, List.cons.injEq] at ht
      obtain ⟨rfl, rfl, ht⟩ := ht
      refine h before behind n ht ?_ hbehind
      cases before with
      | nil => simp
      | cons x before => simpa using hlast

/-- A single backslash before something else than a quote is in no run that counts. -/
theorem evenBackslashes_slash_cons {c : Char} (hquote : c ≠ '"') (hslash : c ≠ '\\') {t : Text} :
    EvenBackslashes ('\\' :: c :: t) ↔ EvenBackslashes (c :: t) := by
  constructor
  · intro h before behind n ht hlast hbehind
    match before, n with
    | [], 0 => rfl
    | [], n + 1 =>
      simp only [List.nil_append, List.replicate_succ, List.cons_append, List.cons.injEq] at ht
      exact absurd ht.1 hslash
    | d :: before, n =>
      exact h ('\\' :: d :: before) behind n (by simp [ht]) (by simpa using hlast) hbehind
  · intro h before behind n ht hlast hbehind
    match before, n with
    | [], 0 => rfl
    | [], 1 =>
      simp only [List.nil_append, List.replicate_one, List.singleton_append, List.cons.injEq,
        true_and] at ht
      subst ht
      simp [hquote] at hbehind
    | [], n + 2 =>
      simp only [List.nil_append, List.replicate_succ, List.cons_append, List.cons.injEq,
        true_and] at ht
      exact absurd ht.1 hslash
    | d :: before, n =>
      simp only [List.cons_append, List.cons.injEq] at ht
      obtain ⟨rfl, ht⟩ := ht
      refine h before behind n ht ?_ hbehind
      cases before with
      | nil => simp
      | cons x before => simpa using hlast

/-- A backslash and the character after it may be left out, unless that is a quote. -/
theorem evenBackslashes_pair {c : Char} (hquote : c ≠ '"') {t : Text} :
    EvenBackslashes ('\\' :: c :: t) ↔ EvenBackslashes t := by
  by_cases hslash : c = '\\'
  · subst hslash
    exact evenBackslashes_slash_slash
  · exact (evenBackslashes_slash_cons hquote hslash).trans (evenBackslashes_cons hslash)

theorem not_evenBackslashes_of_slash {behind : Text}
    (hbehind : behind = [] ∨ behind.head? = some '"') : ¬ EvenBackslashes ('\\' :: behind) := by
  intro h
  have heven := h [] behind 1 rfl (by simp) hbehind
  omega

/-! ## Reading what is written -/

theorem spanContent?_slash (c : Char) (cs : Text) :
    spanContent? ('\\' :: c :: cs) = (spanContent? cs).map fun t => '\\' :: c :: t := rfl

theorem spanContent?_cons {c : Char} (hquote : c ≠ '"') (hslash : c ≠ '\\') (cs : Text) :
    spanContent? (c :: cs) = (spanContent? cs).map (c :: ·) := by
  rw [spanContent?]
  · exact hquote
  · intro d ds h
    exact absurd h hslash
  · intro h
    exact absurd h hslash

/-- A backslash that is not the last character is read with the next one. -/
theorem ne_slash_of_unpaired {c : Char} {cs : Text}
    (hpair : ∀ (d : Char) (ds : Text), c = '\\' → cs = d :: ds → False)
    (hlast : c = '\\' → cs = [] → False) : c ≠ '\\' := by
  rintro rfl
  cases cs with
  | nil => exact hlast rfl rfl
  | cons d ds => exact hpair d ds rfl rfl

/-- **A written span is read to its end** exactly if the runs of backslashes in the text are
even. -/
theorem spanContent?_escapeQuotes_iff (rest : Text) : ∀ t : Text,
    spanContent? (escapeQuotes t ++ '"' :: rest) = some (escapeQuotes t) ↔ EvenBackslashes t
  | [] => by simp [spanContent?, evenBackslashes_nil]
  | c :: t => by
    by_cases hslash : c = '\\'
    · subst hslash
      rw [escapeQuotes_cons (by decide)]
      cases t with
      | nil =>
        -- the closing quote is taken by the backslash
        have hodd : ¬ EvenBackslashes ['\\'] := not_evenBackslashes_of_slash (Or.inl rfl)
        simp [hodd, spanContent?_slash]
      | cons d t =>
        have ih := spanContent?_escapeQuotes_iff rest t
        by_cases hquote : d = '"'
        · -- the backslash takes the one before the quote, and the quote ends the span
          subst hquote
          have hodd : ¬ EvenBackslashes ('\\' :: '"' :: t) :=
            not_evenBackslashes_of_slash (Or.inr rfl)
          simp [hodd, spanContent?_slash, spanContent?]
        · rw [evenBackslashes_pair hquote, ← ih, escapeQuotes_cons hquote]
          simp [spanContent?_slash]
    · have ih := spanContent?_escapeQuotes_iff rest t
      rw [evenBackslashes_cons hslash, ← ih]
      by_cases hquote : c = '"'
      · subst hquote
        simp [spanContent?_slash]
      · rw [escapeQuotes_cons hquote]
        simp [spanContent?_cons hquote hslash]

/-! ## Marking what is written -/

theorem span?_of_ne_quote {c : Char} (hc : c ≠ '"') (cs : Text) : span? (c :: cs) = none := by
  unfold span?
  split
  · rename_i heq
    exact absurd (List.cons.inj heq).1 hc
  · rfl

theorem span?_quoteSpan {s : Text} (h : EvenBackslashes s) (rest : Text) :
    span? (quoteSpan s ++ rest) = some (escapeQuotes s, (quoteSpan s).length) := by
  have hcontent := (spanContent?_escapeQuotes_iff rest s).mpr h
  simp only [quoteSpan, List.cons_append, List.append_assoc, List.nil_append, span?, hcontent]
  simp

namespace Marked

/-- A text with its quoted spans marked, the first with the number `n`. -/
def ofTextFrom (n : Nat) (t : Text) : Marked :=
  t.spans.first.map .char ++ ofSpansFrom n t.spans.rest

theorem ofText_eq_ofTextFrom (t : Text) : ofText t = ofTextFrom 0 t := rfl

@[simp] theorem ofTextFrom_nil (n : Nat) : ofTextFrom n [] = [] := rfl

theorem ofTextFrom_append {gap : Text} (h : '"' ∉ gap) (n : Nat) (t : Text) :
    ofTextFrom n (gap ++ t) = gap.map .char ++ ofTextFrom n t := by
  have hnone : ∀ c ∈ gap, ∀ cs, span? (c :: cs) = none := fun c hc =>
    span?_of_ne_quote fun heq => h (heq ▸ hc)
  simp [ofTextFrom, Text.spans, Text.cut_append_of_none hnone]

/-- **A written text is one span.** -/
theorem ofTextFrom_quoteSpan {s : Text} (h : EvenBackslashes s) (n : Nat) (t : Text) :
    ofTextFrom n (quoteSpan s ++ t) = .span n (escapeQuotes s) :: ofTextFrom (n + 1) t := by
  have hne : quoteSpan s ≠ [] := List.cons_ne_nil _ _
  rw [ofTextFrom, Text.spans, Text.cut_of_token hne (span?_quoteSpan h t)]
  rfl

end Marked

end GraphSketch
