import GraphSketch.Proofs.Mask.Closed

/-!
# Masking in one pass

The spans of a text are found by looking for a whole span at each place (`Text.spans`), also behind a
quote without partner.  A scanner that passes over the text once and never looks back finds the same
spans, because what stands behind such a quote cannot hold a span (`Marked.ofTextFrom_unclosed`).

* `Scanner.step` reads one character, and `Text.scan` a whole text.
* `ofText_eq_scan` — the scanner marks the spans that are marked in the text.
* `Mask.conceal_onePass` — what masking and restoring make of a text, told by what the scanner has
  read.
-/

set_option autoImplicit false

namespace GraphSketch

/-! ## The scanner -/

/-- What stands at a place in a span: a character, or a backslash and the character that it takes
with it. -/
inductive SpanPart where
  | plain (c : Char)
  | escaped (c : Char)
  deriving DecidableEq, Repr

namespace SpanPart

/-- The part as it is written. -/
def written : SpanPart → Text
  | plain c => [c]
  | escaped c => ['\\', c]

/-- What the part means: an escaped quote is a plain one, and all else is as it is written. -/
def meaning : SpanPart → Text
  | plain c => [c]
  | escaped c => if c = '"' then ['"'] else ['\\', c]

/-- A character that stands by itself in a span is neither a quote nor a backslash. -/
def Proper : SpanPart → Prop
  | plain c => c ≠ '"' ∧ c ≠ '\\'
  | escaped _ => True

end SpanPart

/-- What a scanner has passed: a character outside all spans, or a whole span. -/
inductive ScanItem where
  | char (c : Char)
  | span (parts : List SpanPart)
  deriving DecidableEq, Repr

/-- Where a scanner stands: outside all spans, or inside of one, perhaps behind a backslash. -/
inductive ScanPlace where
  | outside
  /-- In a span of which some parts have been read. -/
  | inside (parts : List SpanPart)
  /-- In a span, behind a backslash that takes the next character with it. -/
  | behindSlash (parts : List SpanPart)
  deriving DecidableEq, Repr

/-- The text that is kept back, because its span is not closed yet. -/
def ScanPlace.pending : ScanPlace → Text
  | outside => []
  | inside parts => '"' :: parts.flatMap SpanPart.written
  | behindSlash parts => '"' :: (parts.flatMap SpanPart.written ++ ['\\'])

/-- A scanner: what it has passed, and where it stands. -/
structure Scanner where
  passed : List ScanItem
  place : ScanPlace
  deriving DecidableEq, Repr

namespace Scanner

/-- The scan after one more character. -/
def step (s : Scanner) (c : Char) : Scanner :=
  match s.place with
  | .outside =>
    if c = '"' then ⟨s.passed, .inside []⟩ else ⟨s.passed ++ [.char c], .outside⟩
  | .inside parts =>
    if c = '"' then ⟨s.passed ++ [.span parts], .outside⟩
    else if c = '\\' then ⟨s.passed, .behindSlash parts⟩
    else ⟨s.passed, .inside (parts ++ [.plain c])⟩
  | .behindSlash parts => ⟨s.passed, .inside (parts ++ [.escaped c])⟩

/-- A scanner that has read nothing. -/
def start : Scanner := ⟨[], .outside⟩

end Scanner

/-- What a scanner makes of a whole text: characters and spans, and what is left at the end. -/
structure Scan where
  items : List ScanItem
  /-- What stands from a quote on that is never closed. -/
  tail : Text
  deriving DecidableEq, Repr

namespace Scan

/-- The items with a text for each span, which may depend on its number; the first is number `n`. -/
def fillFrom (f : Nat → List SpanPart → Text) : Nat → List ScanItem → Text
  | _, [] => []
  | n, .char c :: items => c :: fillFrom f n items
  | n, .span parts :: items => f n parts ++ fillFrom f (n + 1) items

/-- What has been read, with a text for each span; what is never closed stays as it is. -/
def fill (f : Nat → List SpanPart → Text) (scan : Scan) : Text :=
  fillFrom f 0 scan.items ++ scan.tail

/-- The span of an item. -/
def span? : ScanItem → Option (List SpanPart)
  | .char _ => none
  | .span parts => some parts

/-- The spans in order. -/
def spans (scan : Scan) : List (List SpanPart) := scan.items.filterMap span?

/-- The items as a marked text; the first span is number `n`. -/
def markFrom : Nat → List ScanItem → Marked
  | _, [] => []
  | n, .char c :: items => .char c :: markFrom n items
  | n, .span parts :: items =>
    .span n (parts.flatMap SpanPart.written) :: markFrom (n + 1) items

/-- The characters in every span are proper. -/
def Proper (items : List ScanItem) : Prop :=
  ∀ parts, .span parts ∈ items → ∀ p ∈ parts, p.Proper

end Scan

/-- Passes over a text once. -/
def Text.scan (t : Text) : Scan :=
  let s := t.foldl Scanner.step Scanner.start
  ⟨s.passed, s.place.pending⟩

/-! ## Spans that are closed, and spans that are not -/

theorem Marked.ofTextFrom_unclosed (n : Nat) {t : Text} (h : spanContent? t = none) :
    ofTextFrom n t = t.map .char := by
  induction t using spanContent?.induct with
  | case1 => rfl
  | case2 => cases h
  | case3 c cs ih =>
    rw [spanContent?_slash, Option.map_eq_none_iff] at h
    have htaken : span? (c :: cs) = none := by
      by_cases hc : c = '"'
      · rw [hc, span?, h, Option.map_none]
      · exact span?_of_ne_quote hc cs
    rw [ofTextFrom_cons (span?_of_ne_quote (by decide) _), ofTextFrom_cons htaken, ih h]
    rfl
  | case4 => rfl
  | case5 c cs hquote hpair hslash ih =>
    have hne : c ≠ '\\' := ne_slash_of_unpaired hpair hslash
    rw [spanContent?_cons hquote hne, Option.map_eq_none_iff] at h
    rw [ofTextFrom_cons (span?_of_ne_quote hquote _), ih h]
    rfl

namespace Scanner

theorem step_plain {passed : List ScanItem} {parts : List SpanPart} {c : Char} (hquote : c ≠ '"')
    (hslash : c ≠ '\\') :
    step ⟨passed, .inside parts⟩ c = ⟨passed, .inside (parts ++ [.plain c])⟩ := by
  simp only [step, hquote, hslash, if_false]

/-- **A span that is closed** is passed up to its end. -/
theorem foldl_step_closed {t content : Text} (h : spanContent? t = some content)
    (passed : List ScanItem) (parts : List SpanPart) :
    ∃ more rest, (∀ p ∈ more, p.Proper) ∧ content = more.flatMap SpanPart.written ∧
      t = content ++ '"' :: rest ∧
      t.foldl step ⟨passed, .inside parts⟩ =
        rest.foldl step ⟨passed ++ [.span (parts ++ more)], .outside⟩ := by
  induction t using spanContent?.induct generalizing content parts with
  | case1 => cases h
  | case2 cs =>
    cases h
    exact ⟨[], cs, List.forall_mem_nil _, rfl, rfl, by rw [List.append_nil]; rfl⟩
  | case3 c cs ih =>
    rw [spanContent?_slash] at h
    obtain ⟨rest, hrest, rfl⟩ := Option.map_eq_some_iff.mp h
    obtain ⟨more, behind, hproper, rfl, rfl, hfold⟩ := ih hrest (parts ++ [.escaped c])
    refine ⟨.escaped c :: more, behind, List.forall_mem_cons.mpr ⟨trivial, hproper⟩, rfl, rfl, ?_⟩
    rw [List.append_assoc] at hfold
    exact hfold
  | case4 => cases h
  | case5 c cs hquote hpair hslash ih =>
    have hne : c ≠ '\\' := ne_slash_of_unpaired hpair hslash
    rw [spanContent?_cons hquote hne] at h
    obtain ⟨rest, hrest, rfl⟩ := Option.map_eq_some_iff.mp h
    obtain ⟨more, behind, hproper, rfl, rfl, hfold⟩ := ih hrest (parts ++ [.plain c])
    refine ⟨.plain c :: more, behind, List.forall_mem_cons.mpr ⟨⟨hquote, hne⟩, hproper⟩, rfl, rfl,
      ?_⟩
    rw [List.append_assoc] at hfold
    rw [List.foldl_cons, step_plain hquote hne]
    exact hfold

/-- **A span that is not closed** is kept back to the end of the text. -/
theorem foldl_step_unclosed {t : Text} (h : spanContent? t = none) (passed : List ScanItem)
    (parts : List SpanPart) :
    ∃ place, t.foldl step ⟨passed, .inside parts⟩ = ⟨passed, place⟩ ∧
      place.pending = '"' :: (parts.flatMap SpanPart.written ++ t) := by
  induction t using spanContent?.induct generalizing parts with
  | case1 => exact ⟨.inside parts, rfl, by rw [List.append_nil]; rfl⟩
  | case2 => cases h
  | case3 c cs ih =>
    rw [spanContent?_slash, Option.map_eq_none_iff] at h
    obtain ⟨place, hfold, hpending⟩ := ih h (parts ++ [.escaped c])
    refine ⟨place, hfold, ?_⟩
    rw [hpending, List.flatMap_append, List.append_assoc]
    rfl
  | case4 => exact ⟨.behindSlash parts, rfl, rfl⟩
  | case5 c cs hquote hpair hslash ih =>
    have hne : c ≠ '\\' := ne_slash_of_unpaired hpair hslash
    rw [spanContent?_cons hquote hne, Option.map_eq_none_iff] at h
    obtain ⟨place, hfold, hpending⟩ := ih h (parts ++ [.plain c])
    refine ⟨place, by rw [List.foldl_cons, step_plain hquote hne, hfold], ?_⟩
    rw [hpending, List.flatMap_append, List.append_assoc]
    rfl

end Scanner

/-! ## Scanning a text -/

namespace Text

/-- From outside all spans the scanner marks what is marked in the text. -/
theorem exists_foldl_step (t : Text) (passed : List ScanItem) :
    ∃ items place, t.foldl Scanner.step ⟨passed, .outside⟩ = ⟨passed ++ items, place⟩ ∧
      Scan.Proper items ∧
      ∀ n, Marked.ofTextFrom n t = Scan.markFrom n items ++ place.pending.map .char := by
  match t with
  | [] => exact ⟨[], .outside, by rw [List.append_nil]; rfl, by simp [Scan.Proper], fun _ => rfl⟩
  | c :: cs =>
    by_cases hc : c = '"'
    · subst hc
      cases hcontent : spanContent? cs with
      | none =>
        obtain ⟨place, hfold, hpending⟩ := Scanner.foldl_step_unclosed hcontent passed []
        refine ⟨[], place, by rw [List.append_nil]; exact hfold, by simp [Scan.Proper],
          fun n => ?_⟩
        rw [Marked.ofTextFrom_cons (by rw [span?, hcontent, Option.map_none]),
          Marked.ofTextFrom_unclosed n hcontent, hpending]
        rfl
      | some content =>
        obtain ⟨parts, rest, hproper, hwritten, rfl, hfold⟩ :=
          Scanner.foldl_step_closed hcontent passed []
        obtain ⟨items, place, hrest, hitems, hmarked⟩ :=
          exists_foldl_step rest (passed ++ [.span parts])
        refine ⟨.span parts :: items, place, ?_, ?_, fun n => ?_⟩
        · rw [List.append_assoc] at hrest
          exact hfold.trans hrest
        · intro other hother
          rcases List.mem_cons.mp hother with hsame | hother
          · rw [ScanItem.span.inj hsame]
            exact hproper
          · exact hitems other hother
        · have hspan : span? (('"' :: (content ++ ['"'])) ++ rest) =
              some (content, ('"' :: (content ++ ['"'])).length) := by
            rw [List.cons_append, List.append_assoc, span?]
            exact (congrArg _ hcontent).trans (by simp)
          have hfirst := Marked.ofTextFrom_span (List.cons_ne_nil _ _) rest hspan n
          rw [List.cons_append, List.append_assoc] at hfirst
          rw [← List.singleton_append (l := rest), hfirst, hmarked, hwritten]
          rfl
    · obtain ⟨items, place, hrest, hitems, hmarked⟩ := exists_foldl_step cs (passed ++ [.char c])
      refine ⟨.char c :: items, place, ?_, ?_, fun n => ?_⟩
      · rw [List.append_assoc] at hrest
        rw [List.foldl_cons, Scanner.step, if_neg hc]
        exact hrest
      · intro other hother
        rcases List.mem_cons.mp hother with hsame | hother
        · cases hsame
        · exact hitems other hother
      · rw [Marked.ofTextFrom_cons (span?_of_ne_quote hc cs), hmarked]
        rfl
  termination_by t.length

/-- **The scanner marks the spans of a text**, and what is never closed is no span. -/
theorem ofText_eq_scan (t : Text) : Scan.Proper t.scan.items ∧
    Marked.ofText t = Scan.markFrom 0 t.scan.items ++ t.scan.tail.map .char := by
  obtain ⟨items, place, hfold, hproper, hmarked⟩ := exists_foldl_step t []
  rw [scan, Scanner.start, hfold]
  exact ⟨hproper, hmarked 0⟩

end Text

/-! ## Reading the marks -/

theorem head?_written_ne_quote {parts : List SpanPart} (h : ∀ p ∈ parts, p.Proper) :
    (parts.flatMap SpanPart.written).head? ≠ some '"' := by
  cases parts with
  | nil => simp
  | cons p parts =>
    cases p with
    | plain c => simpa [SpanPart.written] using (h _ List.mem_cons_self).1
    | escaped c => simp [SpanPart.written]

theorem unescapeQuotes_cons {c : Char} {t : Text} (h : t.head? ≠ some '"') :
    unescapeQuotes (c :: t) = c :: unescapeQuotes t := by
  rw [unescapeQuotes]
  rintro cs - rfl
  exact h rfl

/-- **Unescaping a content** replaces each escaped quote, and nothing else. -/
theorem unescapeQuotes_written : ∀ {parts : List SpanPart}, (∀ p ∈ parts, p.Proper) →
    unescapeQuotes (parts.flatMap SpanPart.written) = parts.flatMap SpanPart.meaning
  | [], _ => rfl
  | p :: parts, h => by
    obtain ⟨hfirst, hrest⟩ := List.forall_mem_cons.mp h
    have ih := unescapeQuotes_written hrest
    have hhead := head?_written_ne_quote hrest
    rw [List.flatMap_cons, List.flatMap_cons, ← ih]
    cases p with
    | plain c => exact unescapeQuotes_cons hhead
    | escaped c =>
      by_cases hc : c = '"'
      · subst hc
        rfl
      · rw [SpanPart.meaning, if_neg hc]
        exact (unescapeQuotes_cons (by simpa using hc)).trans
          (congrArg _ (unescapeQuotes_cons hhead))

namespace Scan

theorem source_markFrom : ∀ (n : Nat) (items : List ScanItem), Marked.source (markFrom n items) =
    fillFrom (fun _ parts => '"' :: (parts.flatMap SpanPart.written ++ ['"'])) n items
  | _, [] => rfl
  | n, .char c :: items => congrArg (c :: ·) (source_markFrom n items)
  | n, .span _ :: items => congrArg (_ ++ ·) (source_markFrom (n + 1) items)

theorem masked_markFrom (width : Nat) : ∀ (n : Nat) (items : List ScanItem),
    Marked.masked width (markFrom n items) =
      fillFrom (fun i _ => Mask.placeholder width i) n items
  | _, [] => rfl
  | n, .char c :: items => congrArg (c :: ·) (masked_markFrom width n items)
  | n, .span _ :: items => congrArg (_ ++ ·) (masked_markFrom width (n + 1) items)

theorem filled_markFrom : ∀ (n : Nat) {items : List ScanItem}, Proper items →
    Marked.filled (markFrom n items) =
      fillFrom (fun _ parts => parts.flatMap SpanPart.meaning) n items
  | _, [], _ => rfl
  | n, .char c :: items, h =>
    congrArg (c :: ·) (filled_markFrom n fun parts hparts => h parts (List.mem_cons_of_mem _ hparts))
  | n, .span parts :: items, h => by
    have hitems : Proper items := fun parts hparts => h parts (List.mem_cons_of_mem _ hparts)
    have ih := filled_markFrom (n + 1) hitems
    rw [markFrom, Marked.filled_cons, fillFrom, ih, Symbol.filled,
      unescapeQuotes_written (h parts List.mem_cons_self)]

end Scan

namespace Marked

/-- The content of a symbol, if it is a span. -/
def content? : Symbol → Option Text
  | .char _ => none
  | .span _ content => some content

theorem filterMap_content?_map_char (t : Text) : (t.map Symbol.char).filterMap content? = [] := by
  induction t with
  | nil => rfl
  | cons c t ih => exact ih

theorem filterMap_content?_ofSpansFrom : ∀ (n : Nat) (rest : List (Text × Text)),
    (ofSpansFrom n rest).filterMap content? = rest.map (·.1)
  | _, [] => rfl
  | n, (content, gap) :: rest => by
    rw [ofSpansFrom, List.filterMap_cons, content?, List.filterMap_append,
      filterMap_content?_map_char, filterMap_content?_ofSpansFrom (n + 1) rest]
    rfl

/-- The contents that masking takes out are those of the marked spans. -/
theorem contents_eq (t : Text) :
    (Mask.ofText t).contents = ((ofText t).filterMap content?).map unescapeQuotes := by
  rw [ofText, List.filterMap_append, filterMap_content?_map_char, filterMap_content?_ofSpansFrom]
  rfl

theorem filterMap_content?_markFrom : ∀ (n : Nat) (items : List ScanItem),
    (Scan.markFrom n items).filterMap content? =
      (items.filterMap Scan.span?).map (·.flatMap SpanPart.written)
  | _, [] => rfl
  | n, .char _ :: items => filterMap_content?_markFrom n items
  | n, .span _ :: items => congrArg (_ :: ·) (filterMap_content?_markFrom (n + 1) items)

end Marked

namespace Mask

theorem entriesFrom_eq (width : Nat) : ∀ (n : Nat) (contents : List Text),
    entriesFrom width n contents =
      contents.mapIdx fun i content => (placeholder width (n + i), content)
  | _, [] => rfl
  | n, content :: contents => by
    rw [entriesFrom, List.mapIdx_cons, entriesFrom_eq width (n + 1) contents]
    simp only [Nat.add_zero, Nat.add_assoc, Nat.add_comm 1]

theorem keys_entriesFrom (width : Nat) : ∀ (n : Nat) (contents : List Text),
    OrderedMap.keys (entriesFrom width n contents) =
      (List.range' n contents.length).map (placeholder width)
  | _, [] => rfl
  | n, _ :: contents => congrArg (_ :: ·) (keys_entriesFrom width (n + 1) contents)

theorem nodup_keys_entriesFrom (width n : Nat) (contents : List Text) :
    (OrderedMap.keys (entriesFrom width n contents)).Nodup := by
  rw [keys_entriesFrom]
  exact (List.nodup_range' 1).map fun _ _ => placeholder_injective

/-- What masking and restoring make of a text is told by what a scanner reads in it. -/
structure OnePass (t : Text) : Prop where
  /-- The scanner has read the whole text. -/
  source : t = t.scan.fill fun _ parts => '"' :: (parts.flatMap SpanPart.written ++ ['"'])
  /-- There is one entry for each span, in order: its placeholder, and its content with each escaped
  quote as a plain one. -/
  entries : (ofText t).entries = t.scan.spans.mapIdx fun n parts =>
    (placeholder (fenceWidth t) n, parts.flatMap SpanPart.meaning)
  /-- No two spans have the same placeholder. -/
  distinct : (OrderedMap.keys (ofText t).entries).Nodup
  /-- The masked text has the placeholders in place of the spans. -/
  masked : conceal t = t.scan.fill fun n _ => placeholder (fenceWidth t) n
  /-- Restored, it has the contents in place of the spans. -/
  restored : (ofText t).restore (conceal t) =
    t.scan.fill fun _ parts => parts.flatMap SpanPart.meaning

/-- **Masking finds the spans that a single pass finds**, and restoring the masked text puts the
contents of these spans in their places, whatever stands around them. -/
theorem conceal_onePass (t : Text) : OnePass t := by
  obtain ⟨hproper, hmarked⟩ := t.ofText_eq_scan
  refine ⟨?_, ?_, nodup_keys_entriesFrom _ _ _, ?_, ?_⟩
  · calc t = Marked.source (Marked.ofText t) := (Marked.source_ofText t).symm
      _ = _ := by
        rw [hmarked, Marked.source_append, Marked.source_map_char, Scan.source_markFrom, Scan.fill]
  · have hcontents : (ofText t).contents =
        t.scan.spans.map (·.flatMap SpanPart.meaning) := by
      rw [Marked.contents_eq, hmarked, List.filterMap_append, Marked.filterMap_content?_map_char,
        List.append_nil, Marked.filterMap_content?_markFrom, List.map_map]
      refine List.map_congr_left fun parts hparts => unescapeQuotes_written ?_
      obtain ⟨item, hitem, hspan⟩ := List.mem_filterMap.mp hparts
      cases item with
      | char c => cases hspan
      | span other => exact Option.some.inj hspan ▸ hproper other hitem
    rw [entries, entriesFrom_eq, hcontents]
    refine List.ext_getElem? fun i => ?_
    rw [List.getElem?_mapIdx, List.getElem?_mapIdx, List.getElem?_map, Option.map_map, Nat.zero_add]
    rfl
  · calc conceal t = Marked.masked (fenceWidth t) (Marked.ofText t) := (Marked.masked_ofText t).symm
      _ = _ := by
        rw [hmarked, Marked.masked_append, Marked.masked_map_char, Scan.masked_markFrom, Scan.fill]
  · rw [← Marked.masked_ofText, Marked.restore_masked (List.infix_refl _), hmarked, Marked.filled,
      List.flatMap_append, ← Marked.filled, ← Marked.filled, Marked.filled_map_char,
      Scan.filled_markFrom 0 hproper, Scan.fill]

/-- Underscores stand beside a span with an escaped quote in it, and a quote without partner comes
last. -/
example :
    let t : Text := "_\"a\\\"b\"_QUOTED_0__\"c"
    Mask.conceal t = "___QUOTED_0___QUOTED_0__\"c" ∧
      (Mask.ofText t).restore (Mask.conceal t) = "_a\"b_QUOTED_0__\"c" := by
  decide +kernel

end Mask

end GraphSketch
