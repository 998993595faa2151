import GraphSketch.Proofs.Mask.Quote
import GraphSketch.Proofs.Picture.Dot

/-!
# Reading DOT code

A value is written between quotes, with a backslash before each quote that has none, or as it is
if it is a name, a number or in angle brackets.  What DOT reads there is the value exactly if it
is not in angle brackets, no backslash in it is left over before a quote, before a line feed or at
the end, and no line feed is lost.

* `Dot.readString?` — how DOT reads a plain string.
* `Dot.IsClosed`, `Dot.readQuoted?_escapeQuotes_iff` — which texts may stand between quotes.
* `Dot.readString?_quote_iff_isLegible`, `Dot.readString?_quote_iff` — which values are read as
  they were.

The reader is a model of the language and not of the library: it is what the code means to those
who draw it.  How values are written is one of the laws of the library, so the last two hold with
every lawful one.
-/

set_option autoImplicit false

namespace GraphSketch

open Picture (numberKey notMem_numberKey)

namespace Dot

/-! ## Reading plain strings -/

/-- The string that was read with characters put before it, which have been read already; what is
behind the string stays. -/
def prepend (start : Text) (read : Option (Text × Text)) : Option (Text × Text) :=
  read.map fun found => (start ++ found.1, found.2)

/-- The string up to the next quote that ends it, and what is behind it. A backslash makes the next
quote a part of the string; the next backslash does not do so then; and at the end of a line it
continues the line. Elsewhere it is a character like others. -/
def readQuoted? : Text → Option (Text × Text)
  | [] => none
  | '"' :: cs => some ([], cs)
  | '\\' :: '"' :: cs => prepend ['"'] (readQuoted? cs)
  | '\\' :: '\\' :: cs => prepend ['\\', '\\'] (readQuoted? cs)
  | '\\' :: '\n' :: cs => readQuoted? cs
  | c :: cs => prepend [c] (readQuoted? cs)

/-- A character that a name may begin with: all that is beyond ASCII counts as a letter. -/
def isIdStart (c : Char) : Bool := isNameStart c || 128 ≤ c.toNat

/-- A character that a name may go on with. -/
def isIdChar (c : Char) : Bool := isNameChar c || 128 ≤ c.toNat

/-- The longest number without sign that a text begins with, and what is behind it. -/
def readUnsigned? : Text → Option (Text × Text)
  | '.' :: cs =>
    if (cs.takeWhile isAsciiDigit).isEmpty then none
    else some ('.' :: cs.takeWhile isAsciiDigit, cs.dropWhile isAsciiDigit)
  | t =>
    if (t.takeWhile isAsciiDigit).isEmpty then none
    else
      match t.dropWhile isAsciiDigit with
      | '.' :: cs =>
        some (t.takeWhile isAsciiDigit ++ '.' :: cs.takeWhile isAsciiDigit,
          cs.dropWhile isAsciiDigit)
      | rest => some (t.takeWhile isAsciiDigit, rest)

/-- The longest number that a text begins with. -/
def readNumber? : Text → Option (Text × Text)
  | '-' :: t => prepend ['-'] (readUnsigned? t)
  | t => readUnsigned? t

/-- The plain string that a text begins with, and what is behind it: a quoted string, a name that is
no keyword, or a number. What is in angle brackets is no plain string. -/
def readString? : Text → Option (Text × Text)
  | '"' :: cs => readQuoted? cs
  | t =>
    if t.head?.any isIdStart then
      if keywords.contains (Text.lower (t.takeWhile isIdChar)) then none
      else some (t.takeWhile isIdChar, t.dropWhile isIdChar)
    else readNumber? t

/-! ## Quoted strings -/

/-- What begins with one character is not read as something that begins with another. -/
theorem prepend_ne {c d : Char} (hne : c ≠ d) {start t rest : Text}
    (read : Option (Text × Text)) : prepend (c :: start) read ≠ some (d :: t, rest) := by
  cases read with
  | none => exact nofun
  | some found =>
    intro h
    rw [prepend, Option.map_some, Option.some.injEq, Prod.mk.injEq] at h
    exact hne (List.cons.inj h.1).1

theorem readQuoted?_cons {c : Char} (hquote : c ≠ '"') (hslash : c ≠ '\\') (cs : Text) :
    readQuoted? (c :: cs) = prepend [c] (readQuoted? cs) := by
  rw [readQuoted?]
  · exact hquote
  · intro _ h
    exact absurd h hslash
  · intro _ h
    exact absurd h hslash
  · intro _ h
    exact absurd h hslash

theorem readQuoted?_slash {c : Char} (hquote : c ≠ '"') (hslash : c ≠ '\\') (hline : c ≠ '\n')
    (cs : Text) : readQuoted? ('\\' :: c :: cs) = prepend ['\\', c] (readQuoted? cs) := by
  have hself : readQuoted? ('\\' :: c :: cs) = prepend ['\\'] (readQuoted? (c :: cs)) := by
    rw [readQuoted?]
    · exact nofun
    · intro _ _ h
      exact hquote (List.cons.inj h).1
    · intro _ _ h
      exact hslash (List.cons.inj h).1
    · intro _ _ h
      exact hline (List.cons.inj h).1
  rw [hself, readQuoted?_cons hquote hslash]
  cases readQuoted? cs <;> rfl

theorem escapeQuotes_cons {c : Char} (hquote : c ≠ '"') (hslash : c ≠ '\\') (odd : Bool)
    (cs : Text) : escapeQuotes odd (c :: cs) = c :: escapeQuotes false cs := by
  rw [Dot.escapeQuotes]
  · exact hquote
  · exact hslash

/-! ## Texts that close -/

/-- No backslash of the text is left over before a quote, at the end of a line or at the end. -/
def IsClosed (t : Text) : Prop := ∀ line ∈ Text.lines t, EvenBackslashes line

theorem isClosed_iff_of_notMem {t : Text} (h : '\n' ∉ t) : IsClosed t ↔ EvenBackslashes t := by
  rw [IsClosed, Text.lines, Text.splitOn_of_notMem h, List.forall_mem_singleton]

theorem isClosed_nil : IsClosed [] :=
  (isClosed_iff_of_notMem List.not_mem_nil).mpr evenBackslashes_nil

theorem exists_lines (t : Text) : ∃ first rest, Text.lines t = first :: rest :=
  List.exists_cons_of_ne_nil (Text.splitOn_ne_nil '\n' t)

/-- What stands before the first line feed belongs to the first line. -/
theorem isClosed_append {start : Text} (hstart : '\n' ∉ start) {t first : Text} {rest : List Text}
    (h : Text.lines t = first :: rest) :
    IsClosed (start ++ t) ↔ EvenBackslashes (start ++ first) ∧ ∀ line ∈ rest, EvenBackslashes line := by
  rw [Text.lines] at h
  rw [IsClosed, Text.lines, Text.splitOn_append_of_notMem t hstart, h, List.modifyHead_cons,
    List.forall_mem_cons]

theorem isClosed_cons {c : Char} (hc : c ≠ '\\') {t : Text} : IsClosed (c :: t) ↔ IsClosed t := by
  by_cases hline : c = '\n'
  · rw [hline, IsClosed, Text.lines, Text.splitOn, if_pos rfl, List.forall_mem_cons]
    exact and_iff_right evenBackslashes_nil
  · obtain ⟨first, rest, hlines⟩ := exists_lines t
    have hone : '\n' ∉ [c] := fun h => hline (List.mem_singleton.mp h).symm
    rw [← List.singleton_append, isClosed_append hone hlines, List.singleton_append,
      evenBackslashes_cons hc, IsClosed, hlines, List.forall_mem_cons]

/-- A backslash and the character after it may be left out, unless that is a quote or ends the
line. -/
theorem isClosed_pair {c : Char} (hquote : c ≠ '"') (hline : c ≠ '\n') {t : Text} :
    IsClosed ('\\' :: c :: t) ↔ IsClosed t := by
  obtain ⟨first, rest, hlines⟩ := exists_lines t
  have htwo : '\n' ∉ ['\\', c] := by simpa using Ne.symm hline
  have hpair := isClosed_append htwo hlines
  rw [List.cons_append, List.singleton_append] at hpair
  rw [hpair, List.cons_append, List.singleton_append, evenBackslashes_pair hquote, IsClosed, hlines,
    List.forall_mem_cons]

theorem not_isClosed_of_slash {behind : Text}
    (h : behind = [] ∨ behind.head? = some '"' ∨ behind.head? = some '\n') :
    ¬ IsClosed ('\\' :: behind) := by
  intro hclosed
  obtain ⟨first, rest, hlines⟩ := exists_lines behind
  have hone : '\n' ∉ ['\\'] := by decide
  rw [← List.singleton_append, isClosed_append hone hlines] at hclosed
  refine not_evenBackslashes_of_slash ?_ hclosed.1
  rw [Text.lines] at hlines
  rcases h with rfl | h | h
  · rw [Text.splitOn, List.cons.injEq] at hlines
    exact Or.inl hlines.1.symm
  · obtain ⟨behind, rfl⟩ := List.head?_eq_some_iff.mp h
    rw [Text.splitOn, if_neg (by decide)] at hlines
    obtain ⟨next, others, hnext⟩ := exists_lines behind
    rw [Text.lines] at hnext
    rw [hnext] at hlines
    rw [← (List.cons.inj hlines).1]
    exact Or.inr rfl
  · obtain ⟨behind, rfl⟩ := List.head?_eq_some_iff.mp h
    rw [Text.splitOn, if_pos rfl, List.cons.injEq] at hlines
    exact Or.inl hlines.1.symm

/-! ## Reading quoted texts -/

theorem exists_of_prepend_eq_some {start t rest : Text} {read : Option (Text × Text)}
    (h : prepend start read = some (t, rest)) :
    ∃ behind, read = some (behind, rest) ∧ t = start ++ behind := by
  obtain ⟨found, hfound, heq⟩ := Option.map_eq_some_iff.mp h
  obtain ⟨rfl, rfl⟩ := Prod.mk.inj heq
  exact ⟨found.1, hfound, rfl⟩

theorem readQuoted?_ne_continued {t rest : Text} : ∀ s : Text,
    readQuoted? s ≠ some ('\\' :: '\n' :: t, rest)
  | [] => nofun
  | c :: s => by
    by_cases hslash : c = '\\'
    · subst hslash
      match s with
      | [] => exact nofun
      | d :: s =>
        intro h
        by_cases hquote : d = '"'
        · subst hquote
          exact prepend_ne (by decide) _ h
        · by_cases hline : d = '\n'
          · subst hline
            exact readQuoted?_ne_continued s h
          · have hpair : readQuoted? ('\\' :: d :: s) = prepend ['\\', d] (readQuoted? s) := by
              by_cases hsecond : d = '\\'
              · subst hsecond
                rfl
              · exact readQuoted?_slash hquote hsecond hline s
            obtain ⟨behind, -, heq⟩ := exists_of_prepend_eq_some (hpair ▸ h)
            exact hline (List.cons.inj (List.cons.inj heq).2).1.symm
    · intro h
      by_cases hquote : c = '"'
      · subst hquote
        cases h
      · exact prepend_ne hslash _ (readQuoted?_cons hquote hslash s ▸ h)

section Written

variable {t : Text} (rest : Text)

theorem readQuoted?_written_cons {c : Char} (hslash : c ≠ '\\') :
    readQuoted? (escapeQuotes false (c :: t) ++ '"' :: rest) =
      prepend [c] (readQuoted? (escapeQuotes false t ++ '"' :: rest)) := by
  by_cases hquote : c = '"'
  · subst hquote
    rfl
  · rw [escapeQuotes_cons hquote hslash, List.cons_append, readQuoted?_cons hquote hslash]

/-- A backslash is read as it was, with the character after it, unless that is a quote or a line
feed. -/
theorem readQuoted?_written_pair {c : Char} (hquote : c ≠ '"') (hline : c ≠ '\n') :
    readQuoted? (escapeQuotes false ('\\' :: c :: t) ++ '"' :: rest) =
      prepend ['\\', c] (readQuoted? (escapeQuotes false t ++ '"' :: rest)) := by
  by_cases hslash : c = '\\'
  · subst hslash
    rfl
  · have hescape : escapeQuotes false ('\\' :: c :: t) = '\\' :: c :: escapeQuotes false t :=
      congrArg (List.cons '\\') (escapeQuotes_cons hquote hslash true t)
    rw [hescape, List.cons_append, List.cons_append, readQuoted?_slash hquote hslash hline]

/-- Before a quote or at the end, a backslash is taken for that of an escaped quote. -/
theorem exists_readQuoted?_written_slash (h : t = [] ∨ t.head? = some '"') :
    ∃ read, readQuoted? (escapeQuotes false ('\\' :: t) ++ '"' :: rest) = prepend ['"'] read := by
  rcases h with rfl | h
  · exact ⟨_, rfl⟩
  · obtain ⟨behind, rfl⟩ := List.head?_eq_some_iff.mp h
    exact ⟨_, rfl⟩

end Written

theorem readQuoted?_of_isClosed (rest : Text) : ∀ {t : Text}, IsClosed t →
    readQuoted? (escapeQuotes false t ++ '"' :: rest) = some (t, rest)
  | [], _ => rfl
  | c :: t, h => by
    by_cases hslash : c = '\\'
    · subst hslash
      match t with
      | [] => exact absurd h (not_isClosed_of_slash (Or.inl rfl))
      | d :: t =>
        have hquote : d ≠ '"' := by
          rintro rfl
          exact not_isClosed_of_slash (Or.inr (Or.inl rfl)) h
        have hline : d ≠ '\n' := by
          rintro rfl
          exact not_isClosed_of_slash (Or.inr (Or.inr rfl)) h
        have ih := readQuoted?_of_isClosed rest ((isClosed_pair hquote hline).mp h)
        rw [readQuoted?_written_pair rest hquote hline, ih]
        rfl
    · have ih := readQuoted?_of_isClosed rest ((isClosed_cons hslash).mp h)
      rw [readQuoted?_written_cons rest hslash, ih]
      rfl

/-- Nothing is read that begins with the text and is longer, and the text itself only if it is
closed. -/
theorem isClosed_of_readQuoted? (rest : Text) : ∀ {t u behind : Text},
    readQuoted? (escapeQuotes false t ++ '"' :: rest) = some (u, behind) → t <+: u →
      IsClosed t ∧ u = t
  | [], u, behind, h, _ => by
    cases h
    exact ⟨isClosed_nil, rfl⟩
  | c :: t, u, behind, h, hbegins => by
    by_cases hslash : c = '\\'
    · subst hslash
      obtain ⟨v, rfl⟩ := hbegins
      -- before a quote, at the end and at the end of a line the backslash is not read at all
      match t with
      | [] =>
        obtain ⟨read, hread⟩ := exists_readQuoted?_written_slash rest (t := []) (Or.inl rfl)
        exact absurd (hread ▸ h) (prepend_ne (by decide) _)
      | d :: t =>
        by_cases hquote : d = '"'
        · subst hquote
          obtain ⟨read, hread⟩ := exists_readQuoted?_written_slash rest (t := '"' :: t) (Or.inr rfl)
          exact absurd (hread ▸ h) (prepend_ne (by decide) _)
        · by_cases hline : d = '\n'
          · subst hline
            exact absurd h (readQuoted?_ne_continued _)
          · rw [readQuoted?_written_pair rest hquote hline] at h
            obtain ⟨u, hu, heq⟩ := exists_of_prepend_eq_some h
            have hsame : t ++ v = u := by simpa using heq
            obtain ⟨hclosed, rfl⟩ := isClosed_of_readQuoted? rest hu ⟨v, hsame⟩
            refine ⟨(isClosed_pair hquote hline).mpr hclosed, ?_⟩
            rw [heq]
            rfl
    · rw [readQuoted?_written_cons rest hslash] at h
      obtain ⟨u, hu, rfl⟩ := exists_of_prepend_eq_some h
      obtain ⟨hclosed, rfl⟩ := isClosed_of_readQuoted? rest hu ((List.prefix_cons_inj c).mp hbegins)
      exact ⟨(isClosed_cons hslash).mpr hclosed, rfl⟩

/-- **A quoted text is read as it was** exactly if it is closed. -/
theorem readQuoted?_escapeQuotes_iff (rest : Text) {t : Text} :
    readQuoted? (escapeQuotes false t ++ '"' :: rest) = some (t, rest) ↔ IsClosed t :=
  ⟨fun h => (isClosed_of_readQuoted? rest h List.prefix_rfl).1, readQuoted?_of_isClosed rest⟩

/-! ## Names and numbers -/

/-- A character that no name or number goes on with. -/
def EndsWord (c : Char) : Prop := isIdChar c = false ∧ c ≠ '.'

theorem isIdChar_of_isNameChar {c : Char} (h : isNameChar c = true) : isIdChar c = true := by
  rw [isIdChar, h, Bool.true_or]

theorem isNameChar_of_isAsciiDigit {c : Char} (h : isAsciiDigit c = true) :
    isNameChar c = true := by
  rw [isNameChar, Char.isAlphanum, Text.isDigit_of_isAsciiDigit h, Bool.or_true, Bool.true_or]

theorem EndsWord.isAsciiDigit {c : Char} (h : EndsWord c) : isAsciiDigit c = false := by
  cases hdigit : GraphSketch.isAsciiDigit c with
  | false => rfl
  | true =>
    have hid := isIdChar_of_isNameChar (isNameChar_of_isAsciiDigit hdigit)
    rw [h.1] at hid
    cases hid

theorem append_ne_point_cons {whole : Text} (hne : whole ≠ [])
    (hwhole : ∀ d ∈ whole, isAsciiDigit d = true) (rest cs : Text) : whole ++ rest ≠ '.' :: cs := by
  cases whole with
  | nil => exact absurd rfl hne
  | cons d ds =>
    intro h
    have hd := hwhole d List.mem_cons_self
    rw [(List.cons.inj h).1] at hd
    cases hd

theorem readUnsigned?_append {whole : Text} (hne : whole ≠ [])
    (hwhole : ∀ d ∈ whole, isAsciiDigit d = true) {c : Char} (hc : isAsciiDigit c = false)
    (hpoint : c ≠ '.') (rest : Text) :
    readUnsigned? (whole ++ c :: rest) = some (whole, c :: rest) := by
  rw [readUnsigned?, Text.takeWhile_append_cons hwhole hc, Text.dropWhile_append_cons hwhole hc,
    if_neg (by simpa using hne)]
  · split
    · rename_i h
      exact absurd (List.cons.inj h).1 hpoint
    · rfl
  · exact append_ne_point_cons hne hwhole _

/-- Digits that are followed by a point are a number with the digits behind the point. -/
theorem readUnsigned?_append_point {whole : Text} (hne : whole ≠ [])
    (hwhole : ∀ d ∈ whole, isAsciiDigit d = true) (cs : Text) :
    readUnsigned? (whole ++ '.' :: cs) =
      some (whole ++ '.' :: cs.takeWhile isAsciiDigit, cs.dropWhile isAsciiDigit) := by
  rw [readUnsigned?, Text.takeWhile_append_cons hwhole rfl, Text.dropWhile_append_cons hwhole rfl,
    if_neg (by simpa using hne)]
  · rfl
  · exact append_ne_point_cons hne hwhole _

theorem readUnsigned?_of_isUnsigned {t : Text} (h : isUnsigned t = true) {c : Char}
    (hc : EndsWord c) (rest : Text) : readUnsigned? (t ++ c :: rest) = some (t, c :: rest) := by
  have hspan : ∀ {run : Text}, (∀ d ∈ run, isAsciiDigit d = true) →
      (run ++ c :: rest).takeWhile isAsciiDigit = run ∧
        (run ++ c :: rest).dropWhile isAsciiDigit = c :: rest := fun hrun =>
    ⟨Text.takeWhile_append_cons hrun hc.isAsciiDigit,
      Text.dropWhile_append_cons hrun hc.isAsciiDigit⟩
  unfold isUnsigned at h
  split at h
  · rename_i places
    simp only [Bool.and_eq_true, Bool.not_eq_true', List.all_eq_true] at h
    obtain ⟨htake, hdrop⟩ := hspan h.2
    rw [List.cons_append, readUnsigned?, htake, hdrop, h.1]
    rfl
  · have hsplit := List.takeWhile_append_dropWhile (p := isAsciiDigit) (l := t)
    have hdigits : ∀ d ∈ t.takeWhile isAsciiDigit, isAsciiDigit d = true := fun d hd =>
      List.mem_takeWhile_imp hd
    generalize t.takeWhile isAsciiDigit = whole at h hsplit hdigits
    dsimp only at h
    split at h
    · rename_i hend
      rw [hend, List.append_nil] at hsplit
      rw [Bool.not_eq_true', List.isEmpty_eq_false_iff] at h
      exact hsplit ▸ readUnsigned?_append h hdigits hc.isAsciiDigit hc.2 rest
    · rename_i places hpoint
      rw [hpoint] at hsplit
      simp only [Bool.and_eq_true, Bool.not_eq_true', List.isEmpty_eq_false_iff,
        List.all_eq_true] at h
      obtain ⟨htake, hdrop⟩ := hspan h.2
      rw [← hsplit, List.append_assoc, List.cons_append, readUnsigned?_append_point h.1 hdigits,
        htake, hdrop]
    · cases h

theorem readNumber?_of_isNumber {t : Text} (h : isNumber t = true) {c : Char} (hc : EndsWord c)
    (rest : Text) : readNumber? (t ++ c :: rest) = some (t, c :: rest) := by
  unfold isNumber at h
  split at h
  · rw [List.cons_append, readNumber?, readUnsigned?_of_isUnsigned h hc]
    rfl
  · rename_i hminus
    rw [readNumber?, readUnsigned?_of_isUnsigned h hc]
    intro u hu
    cases t with
    | nil => cases h
    | cons d ds => exact hminus ds (by rw [(List.cons.inj hu).1])

theorem readString?_of_isName {t : Text} (h : isName t = true) {c : Char} (hc : EndsWord c)
    (rest : Text) : readString? (t ++ c :: rest) =
      if keywords.contains (Text.lower t) then none else some (t, c :: rest) := by
  cases t with
  | nil => cases h
  | cons d ds =>
    rw [isName, Bool.and_eq_true, List.all_eq_true] at h
    have hstart : isIdStart d = true := by rw [isIdStart, h.1, Bool.true_or]
    have hrun : ∀ e ∈ d :: ds, isIdChar e = true := by
      refine List.forall_mem_cons.mpr ⟨isIdChar_of_isNameChar ?_, fun e he =>
        isIdChar_of_isNameChar (h.2 e he)⟩
      have hname := h.1
      simp only [isNameStart, isNameChar, Char.isAlphanum, Bool.or_eq_true] at hname ⊢
      exact hname.imp_left Or.inl
    have hquote : d ≠ '"' := by
      rintro rfl
      cases hstart
    rw [readString?, Text.takeWhile_append_cons hrun hc.1, Text.dropWhile_append_cons hrun hc.1]
    · simp [hstart]
    · intro cs hcs
      exact hquote (List.cons.inj hcs).1

/-- A number begins with a digit, a point or a minus sign, and holds nothing else. -/
def isNumberChar (c : Char) : Bool := isAsciiDigit c || c = '.' || c = '-'

theorem isNumberChar_of_isUnsigned {t : Text} (h : isUnsigned t = true) :
    ∀ c ∈ t, isNumberChar c = true := by
  have hdigits : ∀ {run : Text}, (∀ d ∈ run, isAsciiDigit d = true) →
      ∀ d ∈ run, isNumberChar d = true := by
    intro run hrun d hd
    rw [isNumberChar, hrun d hd, Bool.true_or, Bool.true_or]
  unfold isUnsigned at h
  split at h
  · simp only [Bool.and_eq_true, List.all_eq_true] at h
    exact List.forall_mem_cons.mpr ⟨rfl, hdigits h.2⟩
  · have hwhole := hdigits fun d (hd : d ∈ t.takeWhile isAsciiDigit) => List.mem_takeWhile_imp hd
    have hsplit := List.takeWhile_append_dropWhile (p := isAsciiDigit) (l := t)
    dsimp only at h
    split at h
    · rename_i hend
      rw [hend, List.append_nil] at hsplit
      exact hsplit ▸ hwhole
    · rename_i places hpoint
      rw [hpoint] at hsplit
      simp only [Bool.and_eq_true, List.all_eq_true] at h
      rw [← hsplit]
      exact List.forall_mem_append.mpr ⟨hwhole, List.forall_mem_cons.mpr ⟨rfl, hdigits h.2⟩⟩
    · cases h

theorem isNumberChar_of_isNumber {t : Text} (h : isNumber t = true) :
    ∀ c ∈ t, isNumberChar c = true := by
  unfold isNumber at h
  split at h
  · exact List.forall_mem_cons.mpr ⟨rfl, isNumberChar_of_isUnsigned h⟩
  · exact isNumberChar_of_isUnsigned h

theorem le_of_isAlpha {c : Char} (h : c.isAlpha = true) : 65 ≤ c.val.toNat := by
  change (decide ('A'.val ≤ c.val ∧ c.val ≤ 'Z'.val) ||
    (decide ('a'.val ≤ c.val) && decide (c.val ≤ 'z'.val))) = true at h
  simp only [Bool.or_eq_true, Bool.and_eq_true, decide_eq_true_eq, UInt32.le_iff_toNat_le] at h
  rcases h with h | h
  · exact h.1
  · exact Nat.le_trans (by decide) h.1

theorem isIdStart_of_isNumberChar {c : Char} (h : isNumberChar c = true) : isIdStart c = false := by
  rw [isNumberChar, Bool.or_eq_true, Bool.or_eq_true, decide_eq_true_eq, decide_eq_true_eq] at h
  rcases h with (h | rfl) | rfl
  · have hrange : 48 ≤ c.val.toNat ∧ c.val.toNat ≤ 57 :=
      Text.toNat_of_isDigit (Text.isDigit_of_isAsciiDigit h)
    rw [← Bool.not_eq_true]
    intro hstart
    simp only [isIdStart, isNameStart, Bool.or_eq_true, decide_eq_true_eq] at hstart
    rcases hstart with (halpha | rfl) | hbeyond
    · have hfirst := le_of_isAlpha halpha
      omega
    · exact absurd hrange.2 (by decide)
    · have hfirst : 128 ≤ c.val.toNat := hbeyond
      omega
  · rfl
  · rfl

theorem readString?_of_isNumber {t : Text} (h : isNumber t = true) {c : Char} (hc : EndsWord c)
    (rest : Text) : readString? (t ++ c :: rest) = some (t, c :: rest) := by
  have hnumber := readNumber?_of_isNumber h hc rest
  cases t with
  | nil => cases h
  | cons d ds =>
    have hd := isNumberChar_of_isNumber h d List.mem_cons_self
    rw [readString?, List.cons_append, List.head?_cons, Option.any_some,
      isIdStart_of_isNumberChar hd]
    · exact hnumber
    · intro cs hcs
      rw [(List.cons.inj hcs).1] at hd
      cases hd

/-! ## Words -/

/-- Names and numbers hold no other characters than those that they are made of. -/
theorem notMem_of_isWord {t : Text} (h : isName t = true ∨ isNumber t = true) {c : Char}
    (hname : isNameChar c = false) (hnumber : isNumberChar c = false) : c ∉ t := by
  intro hmem
  rcases h with h | h
  · cases t with
    | nil => cases h
    | cons d ds =>
      rw [isName, Bool.and_eq_true, List.all_eq_true] at h
      rcases List.mem_cons.mp hmem with rfl | hmem
      · have hstart := h.1
        simp only [isNameChar, Char.isAlphanum, Bool.or_eq_false_iff] at hname
        rw [isNameStart, hname.1.1, hname.2] at hstart
        cases hstart
      · rw [h.2 _ hmem] at hname
        cases hname
  · rw [isNumberChar_of_isNumber h _ hmem] at hnumber
    cases hnumber

theorem eq_of_readString?_word {t : Text} (h : isName t = true ∨ isNumber t = true) {c : Char}
    (hc : EndsWord c) {rest u behind : Text}
    (hread : readString? (t ++ c :: rest) = some (u, behind)) : u = t := by
  rcases h with h | h
  · rw [readString?_of_isName h hc] at hread
    split at hread
    · cases hread
    · cases hread
      rfl
  · rw [readString?_of_isNumber h hc] at hread
    cases hread
    rfl

/-- What may stand without quotes is a name or a number, but for one line feed behind it. -/
theorem exists_word_of_isPlain {t : Text} (h : isPlain t = true) :
    ∃ word, (isName word = true ∨ isNumber word = true) ∧ (t = word ∨ t = word ++ ['\n']) := by
  rw [isPlain, Bool.and_eq_true, Bool.or_eq_true] at h
  refine ⟨dropLineFeed t, h.1, ?_⟩
  rw [dropLineFeed]
  split
  · rename_i hlast
    refine Or.inr ?_
    obtain ⟨start, rfl⟩ := List.getLast?_eq_some_iff.mp hlast
    rw [List.dropLast_concat]
  · exact Or.inl rfl

/-! ## Values -/

/-- A value that is read as it was: it is not in angle brackets, it is closed, and if it stands
without quotes no line feed is behind it. -/
structure IsLegible (t : Text) : Prop where
  notMarkup : isMarkup t = false
  closed : IsClosed t
  oneLine : isPlain t = true → '\n' ∉ t

theorem isClosed_of_isWord {t : Text} (h : isName t = true ∨ isNumber t = true) : IsClosed t :=
  (isClosed_iff_of_notMem (notMem_of_isWord h (by decide) (by decide))).mpr
    (evenBackslashes_of_notMem (notMem_of_isWord h (by decide) (by decide)))

variable {t : Text} {c : Char}

theorem readString?_of_isMarkup (h : isMarkup t = true) (rest : Text) :
    readString? (t ++ rest) = none := by
  unfold isMarkup at h
  split at h
  · rfl
  · cases h

/-- Without line feeds a value is legible if it is not in angle brackets, and no backslash in it is
left over before a quote or at the end. -/
theorem isLegible_iff_of_notMem (hline : '\n' ∉ t) :
    IsLegible t ↔ isMarkup t = false ∧ EvenBackslashes t := by
  rw [← isClosed_iff_of_notMem hline]
  exact ⟨fun h => ⟨h.notMarkup, h.closed⟩, fun h => ⟨h.1, h.2, fun _ => hline⟩⟩

theorem isLegible_numberKey (n : Int) : IsLegible (numberKey n) :=
  (isLegible_iff_of_notMem (notMem_numberKey rfl n)).mpr
    ⟨rfl, evenBackslashes_of_notMem (notMem_numberKey rfl n)⟩

section Quoted

variable [Library] [Lawful]

theorem quote_append_of_not (hmarkup : isMarkup t = false) (hplain : isPlain t = false)
    (rest : Text) : quote t ++ rest = '"' :: (escapeQuotes false t ++ '"' :: rest) := by
  rw [quote_of_not hmarkup hplain, List.cons_append, List.append_assoc, List.singleton_append]

/-- Nothing is read that begins with the value and is longer, and the value itself only if it is
legible. -/
theorem isLegible_of_readString? (hc : EndsWord c) {rest u behind : Text}
    (h : readString? (quote t ++ c :: rest) = some (u, behind)) (hbegins : t <+: u) :
    IsLegible t ∧ u = t := by
  cases hmarkup : isMarkup t with
  | true =>
    rw [quote_of_isMarkup hmarkup, readString?_of_isMarkup hmarkup] at h
    cases h
  | false =>
    cases hplain : isPlain t with
    | true =>
      rw [quote_of_isPlain hplain] at h
      obtain ⟨word, hword, rfl | rfl⟩ := exists_word_of_isPlain hplain
      · exact ⟨⟨hmarkup, isClosed_of_isWord hword, fun _ =>
          notMem_of_isWord hword (by decide) (by decide)⟩, eq_of_readString?_word hword hc h⟩
      · rw [List.append_assoc, List.singleton_append] at h
        have hread : u = word := eq_of_readString?_word hword ⟨rfl, by decide⟩ h
        have hle := hbegins.length_le
        rw [hread, List.length_append, List.length_singleton] at hle
        omega
    | false =>
      rw [quote_append_of_not hmarkup hplain] at h
      obtain ⟨hclosed, rfl⟩ := isClosed_of_readQuoted? _ h hbegins
      exact ⟨⟨hmarkup, hclosed, fun hnot => absurd (hplain.symm.trans hnot) Bool.false_ne_true⟩, rfl⟩

theorem readString?_of_isLegible (h : IsLegible t) (hc : EndsWord c) (rest : Text) :
    readString? (quote t ++ c :: rest) = some (t, c :: rest) := by
  cases hplain : isPlain t with
  | true =>
    have hline := h.oneLine hplain
    have hdrop : dropLineFeed t = t := if_neg fun hlast => hline (List.mem_of_getLast? hlast)
    rw [quote_of_isPlain hplain]
    rw [isPlain, hdrop, Bool.and_eq_true, Bool.or_eq_true, Bool.not_eq_true'] at hplain
    rcases hplain.1 with hname | hnumber
    · rw [readString?_of_isName hname hc, hplain.2]
      rfl
    · exact readString?_of_isNumber hnumber hc rest
  | false =>
    rw [quote_append_of_not h.notMarkup hplain]
    exact readQuoted?_of_isClosed _ h.closed

/-- **Which values are read as they were.** -/
theorem readString?_quote_iff_isLegible (hc : EndsWord c) (rest : Text) :
    readString? (quote t ++ c :: rest) = some (t, c :: rest) ↔ IsLegible t :=
  ⟨fun h => (isLegible_of_readString? hc h List.prefix_rfl).1, fun h =>
    readString?_of_isLegible h hc rest⟩

/-- Without line feeds they are those that are not in angle brackets, and in which no backslash is
left over before a quote or at the end. -/
theorem readString?_quote_iff (hline : '\n' ∉ t) (hc : EndsWord c) (rest : Text) :
    readString? (quote t ++ c :: rest) = some (t, c :: rest) ↔
      isMarkup t = false ∧ EvenBackslashes t :=
  (readString?_quote_iff_isLegible hc rest).trans (isLegible_iff_of_notMem hline)

end Quoted

end Dot

end GraphSketch
