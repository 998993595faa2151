import GraphSketch.Proofs.Mask.Quote
import GraphSketch.Proofs.Mask.Request
import GraphSketch.Proofs.Sketch.Normalize
import GraphSketch.Proofs.Sketch.Trace

/-!
# Commands with quoted arguments

An argument of a command may be written as a quoted span.  Masking makes one symbol of it, which is
no comma, no parenthesis, no blank and no line feed, so the argument arrives as it was before it was
written, whatever it holds.

* `arguments?_call` — the arguments of a call, as many as there are, are those that were written.
* `ofText_callSource`, `ofText_selectSource` — a written command is one line.
* `compile_of_detect` — a text that is one line, and a command, compiles to that command only.
* `compile_quotedArguments` — renaming and selecting with quoted arguments.
-/

set_option autoImplicit false

namespace GraphSketch

/-- A call of `name`, its arguments written as quoted spans. -/
def callSource (name : Text) (args : List Text) : Text :=
  '=' :: name ++ '(' :: (Text.join ", " (args.map quoteSpan) ++ [')'])

/-- The selection of a node, its reference written as a quoted span. -/
def selectSource (ref : Text) : Text := '@' :: quoteSpan ref

namespace Marked

/-- Arguments written as quoted spans, of which the first has the number `n`. -/
def argumentsFrom : Nat → List Text → Marked
  | _, [] => []
  | n, [arg] => [.span n (escapeQuotes arg)]
  | n, arg :: next :: args =>
    .span n (escapeQuotes arg) :: .char ',' :: .char ' ' :: argumentsFrom (n + 1) (next :: args)

/-- The marked line of a call with written arguments. -/
def call (name : Text) (args : List Text) : Marked :=
  ('=' :: name).map .char ++ .char '(' :: (argumentsFrom 0 args ++ [.char ')'])

/-! ## Writing -/

theorem ofTextFrom_arguments (rest : Text) : ∀ (n : Nat) {args : List Text},
    (∀ arg ∈ args, EvenBackslashes arg) →
      ofTextFrom n (Text.join ", " (args.map quoteSpan) ++ rest) =
        argumentsFrom n args ++ ofTextFrom (n + args.length) rest
  | _, [], _ => rfl
  | n, [arg], h => ofTextFrom_quoteSpan (h arg List.mem_cons_self) n rest
  | n, arg :: next :: args, h => by
    have hgap : '"' ∉ (", " : Text) := by decide
    have ih := ofTextFrom_arguments rest (n + 1) fun other ho => h other (List.mem_cons_of_mem arg ho)
    rw [List.map_cons] at ih
    simp only [List.map_cons, Text.join, List.append_assoc]
    rw [ofTextFrom_quoteSpan (h arg List.mem_cons_self), ofTextFrom_append hgap, ih, argumentsFrom,
      List.length_cons, Nat.add_right_comm, ← Nat.add_assoc]
    rfl

/-- **A written call** is marked as its name and its arguments. -/
theorem ofText_callSource {name : Text} {args : List Text} (hname : '"' ∉ name)
    (h : ∀ arg ∈ args, EvenBackslashes arg) : ofText (callSource name args) = call name args := by
  have hstart : '"' ∉ '=' :: name ++ ['('] := by simp [hname]
  have hend : ofTextFrom (0 + args.length) [')'] = [.char ')'] := rfl
  have hsource : callSource name args =
      '=' :: name ++ ['('] ++ (Text.join ", " (args.map quoteSpan) ++ [')']) := by
    simp [callSource]
  rw [hsource, ofText_eq_ofTextFrom, ofTextFrom_append hstart, ofTextFrom_arguments _ 0 h, hend]
  simp [call]

theorem ofText_selectSource {ref : Text} (h : EvenBackslashes ref) :
    ofText (selectSource ref) = [.char '@', .span 0 (escapeQuotes ref)] := by
  have hspan := ofTextFrom_quoteSpan h 0 []
  have hsource : selectSource ref = ['@'] ++ (quoteSpan ref ++ []) := by simp [selectSource]
  rw [hsource, ofText_eq_ofTextFrom, ofTextFrom_append (by decide), hspan]
  rfl

/-- Between written arguments there are commas and spaces only. -/
theorem char_notMem_argumentsFrom {c : Char} (hcomma : c ≠ ',') (hspace : c ≠ ' ') :
    ∀ (n : Nat) (args : List Text), .char c ∉ argumentsFrom n args
  | _, [] => List.not_mem_nil
  | _, [_] => by simp [argumentsFrom]
  | n, arg :: next :: args => by
    simp [argumentsFrom, hcomma, hspace, char_notMem_argumentsFrom hcomma hspace (n + 1) (next :: args)]

/-! ## Reading -/

theorem filled_trim_span (n : Nat) (arg : Text) :
    (trim [.span n (escapeQuotes arg)]).filled = arg := by
  have htrim : trim [.span n (escapeQuotes arg)] = [.span n (escapeQuotes arg)] := rfl
  rw [htrim, filled_cons, filled_nil, Symbol.filled, unescapeQuotes_escapeQuotes, List.append_nil]

theorem splitOn_span (n : Nat) (content : Text) :
    ([.span n content] : Marked).splitOn (.char ',') = [[.span n content]] :=
  List.splitOn_eq_singleton (by simp)

/-- **Written arguments are read as they were**, however many there are. -/
theorem splitOn_argumentsFrom : ∀ (n : Nat) {args : List Text}, args ≠ [] →
    ((argumentsFrom n args).splitOn (.char ',')).map (fun arg => (trim arg).filled) = args
  | _, [], h => absurd rfl h
  | n, [arg], _ => by
    rw [argumentsFrom, splitOn_span, List.map_singleton, filled_trim_span]
  | n, arg :: next :: args, _ => by
    have ih := splitOn_argumentsFrom (n + 1) (List.cons_ne_nil next args)
    have hsplit : argumentsFrom n (arg :: next :: args) = [.span n (escapeQuotes arg)] ++
        .char ',' :: (.char ' ' :: argumentsFrom (n + 1) (next :: args)) := rfl
    -- the space before the next argument is in its piece, where it is trimmed
    obtain ⟨first, others, hs⟩ := List.exists_cons_of_ne_nil
      (List.splitOn_ne_nil (.char ',') (argumentsFrom (n + 1) (next :: args)))
    have hspace : (Symbol.char ' ' == .char ',') = false := by decide
    have htrim : trim (.char ' ' :: first) = trim first := rfl
    rw [hs, List.map_cons] at ih
    rw [hsplit, List.splitOn_append_cons_self, splitOn_span, List.splitOn_cons_eq_if_modifyHead, hspace,
      if_neg Bool.false_ne_true, hs, List.modifyHead_cons, List.singleton_append, List.map_cons,
      List.map_cons, filled_trim_span, htrim, ih]

/-- What a call holds that no parenthesis outside of spans closes before its end. -/
theorem call?_of_notMem (name : Text) {inner : Marked} (h : .char ')' ∉ inner) :
    call? name (('=' :: name).map .char ++ .char '(' :: (inner ++ [.char ')'])) = some inner := by
  have hinner : ∀ x ∈ inner, Symbol.passes (fun c => decide (c ≠ ')')) true x = true := by
    rintro (c | ⟨n, content⟩) hx
    · have hne : c ≠ ')' := fun he => h (he ▸ hx)
      simpa [Symbol.passes] using hne
    · rfl
  have hopen : ∀ rest : Marked,
      (.char '(' :: rest).dropWhile Symbol.isBlank = .char '(' :: rest := fun _ => rfl
  simp only [call?, if_pos (List.prefix_append _ _), List.drop_left, hopen,
    List.dropWhile_append_of_pos hinner, List.takeWhile_append_of_pos hinner]
  rw [if_pos (by rfl), show List.takeWhile _ [Symbol.char ')'] = [] from rfl, List.append_nil]

/-- **The arguments of a written call** are those that were written. -/
theorem arguments?_call (name : Text) {args : List Text} (h : args ≠ []) :
    arguments? name (call name args) = some args := by
  have hclose := char_notMem_argumentsFrom (c := ')') (by decide) (by decide) 0 args
  rw [arguments?, call, call?_of_notMem name hclose, Option.map_some, splitOn_argumentsFrom 0 h]

theorem trim_call (name : Text) (args : List Text) : trim (call name args) = call name args := by
  have hcall : call name args =
      (('=' :: name).map .char ++ .char '(' :: argumentsFrom 0 args) ++ [.char ')'] := by
    rw [call, List.append_assoc, List.cons_append]
  have hfirst : (call name args).dropWhile Symbol.isBlank = call name args := rfl
  rw [trim, hfirst, hcall, List.rdropWhile_concat_neg _ _ _ (by decide)]

theorem filled_argumentsFrom : ∀ (n : Nat) (args : List Text),
    filled (argumentsFrom n args) = Text.join ", " args
  | _, [] => rfl
  | n, [arg] => by
    rw [argumentsFrom, filled_cons, Symbol.filled, unescapeQuotes_escapeQuotes]
    exact List.append_nil arg
  | n, arg :: next :: args => by
    simp [argumentsFrom, filled_argumentsFrom (n + 1) (next :: args), Symbol.filled,
      unescapeQuotes_escapeQuotes, Text.join]

theorem filled_call (name : Text) (args : List Text) :
    filled (call name args) = '=' :: name ++ '(' :: (Text.join ", " args ++ [')']) := by
  have hname := filled_map_char ('=' :: name)
  have hargs := filled_argumentsFrom 0 args
  rw [filled] at hname hargs ⊢
  rw [call, List.flatMap_append, hname, List.flatMap_cons, List.flatMap_append, hargs]
  rfl

/-- A call of `rename` with two written arguments asks for what they say. -/
theorem detect_call_rename (ref label : Text) (line : Nat) :
    detect (call "rename" [ref, label]) line =
      some ⟨.rename ref label, "=rename(" ++ ref ++ ", " ++ label ++ ")", line⟩ := by
  have hargs : arguments? "rename" (call "rename" [ref, label]) = some [ref, label] :=
    arguments?_call "rename" (List.cons_ne_nil _ _)
  rw [detect, trim_call, request?, hargs, filled_call]
  simp [Text.join]

/-- A written reference is selected, and no style is asked for. -/
theorem detect_select (ref : Text) (line : Nat) :
    detect [.char '@', .span 0 (escapeQuotes ref)] line = some ⟨.select ref [], '@' :: ref, line⟩ := by
  have htrim : trim [.char '@', .span 0 (escapeQuotes ref)] =
      [.char '@', .span 0 (escapeQuotes ref)] := rfl
  have hrequest : request? [.char '@', .span 0 (escapeQuotes ref)] =
      some (.select (filled [.span 0 (escapeQuotes ref)]) []) := rfl
  rw [detect, htrim, hrequest]
  simp [Symbol.filled, unescapeQuotes_escapeQuotes]

end Marked

namespace Sketch

/-! ## Compiling -/

/-- **A text that is one line, and a command**, compiles to that command only. -/
theorem compile_of_detect (settings : Settings) (numbering : Numbering) {t : Text}
    {command : Command} (hfeed : .char '\n' ∉ Marked.ofText (normalize t))
    (h : Marked.detect (Marked.ofText (normalize t)) 1 = some command) :
    compile settings numbering t = (.ok ⟨[], [], [command], [], []⟩, numbering) := by
  have hline : logicalLines (normalize t) = [⟨[], Marked.ofText (normalize t)⟩] := by
    rw [logicalLines, Marked.lines_of_notMem hfeed]
    rfl
  have hdetect : Command.detect (Mask.ofText (normalize t))
      (Marked.masked (fenceWidth (normalize t)) (Marked.ofText (normalize t))) 1 = some command := by
    rw [Marked.detect_masked List.infix_rfl, h]
  have houtcome : outcome settings (Mask.ofText (normalize t)) (Canvas.start numbering)
      ⟨[], Marked.ofText (normalize t)⟩ = .command command := by
    simp only [outcome, LogicalLine.masked, LogicalLine.number, Mask.ofText] at hdetect ⊢
    simp [hdetect]
  rw [compile_eq_result, trace, hline, traceFrom, houtcome]
  rfl

/-- **Quoted arguments arrive as they are**, whatever they hold: commas, parentheses, signs of
commands, line feeds or what looks like a placeholder. -/
theorem compile_quotedArguments (settings : Settings) (numbering : Numbering) {s t : Text}
    (hs : '\r' ∉ s) (ht : '\r' ∉ t) (hseven : EvenBackslashes s) (hteven : EvenBackslashes t) :
    compile settings numbering (callSource "rename" [s, t]) =
        (.ok ⟨[], [], [⟨.rename s t, "=rename(" ++ s ++ ", " ++ t ++ ")", 1⟩], [], []⟩, numbering) ∧
      compile settings numbering (selectSource s) =
        (.ok ⟨[], [], [⟨.select s [], '@' :: s, 1⟩], [], []⟩, numbering) := by
  have hsquote : '\r' ∉ quoteSpan s := notMem_quoteSpan (by decide) (by decide) hs
  have htquote : '\r' ∉ quoteSpan t := notMem_quoteSpan (by decide) (by decide) ht
  constructor
  · have hnormal : normalize (callSource "rename" [s, t]) = callSource "rename" [s, t] :=
      normalize_of_notMem (by simp [callSource, Text.join, hsquote, htquote]) (by simp [callSource])
    have hmarked : Marked.ofText (callSource "rename" [s, t]) = Marked.call "rename" [s, t] :=
      Marked.ofText_callSource (by decide) (by simp [hseven, hteven])
    refine compile_of_detect settings numbering ?_ ?_
    · rw [hnormal, hmarked]
      simp [Marked.call, Marked.argumentsFrom]
    · rw [hnormal, hmarked, Marked.detect_call_rename]
  · have hnormal : normalize (selectSource s) = selectSource s :=
      normalize_of_notMem (by simp [selectSource, hsquote]) (by simp [selectSource])
    refine compile_of_detect settings numbering ?_ ?_
    · rw [hnormal, Marked.ofText_selectSource hseven]
      simp
    · rw [hnormal, Marked.ofText_selectSource hseven, Marked.detect_select]

/-- A reference that looks like another selection and goes over two lines, the second of them like a
placeholder, and a label that looks like a call, with two backslashes before a quote. -/
theorem compile_quotedArguments_of_signs :
    let settings : Settings := ⟨true, true⟩
    let numbering : Numbering := ⟨[("A", 1)], [(1, "A")], 2⟩
    let s : Text := "@a, (b) \n__QUOTED_0__"
    let t : Text := "=c(\\\\\",)"
    '\r' ∉ s ∧ '\r' ∉ t ∧ EvenBackslashes s ∧ EvenBackslashes t ∧
      callSource "rename" [s, t] =
        "=rename(\"@a, (b) \n__QUOTED_0__\", \"=c(\\\\\\\",)\")".toList ∧
      compile settings numbering (callSource "rename" [s, t]) =
        (.ok ⟨[], [], [⟨.rename s t, "=rename(" ++ s ++ ", " ++ t ++ ")", 1⟩], [], []⟩, numbering) ∧
      compile settings numbering (selectSource s) =
        (.ok ⟨[], [], [⟨.select s [], '@' :: s, 1⟩], [], []⟩, numbering) := by
  intro settings numbering s t
  have hs : '\r' ∉ s := by decide
  have ht : '\r' ∉ t := by decide
  have hseven : EvenBackslashes s := evenBackslashes_of_notMem (by decide)
  have hend : EvenBackslashes ['\\', '\\', '"', ',', ')'] :=
    evenBackslashes_slash_slash.mpr (evenBackslashes_of_notMem (by decide))
  have hteven : EvenBackslashes t := (evenBackslashes_cons (by decide)).mpr <|
    (evenBackslashes_cons (by decide)).mpr <| (evenBackslashes_cons (by decide)).mpr hend
  exact ⟨hs, ht, hseven, hteven, by decide,
    compile_quotedArguments settings numbering hs ht hseven hteven⟩

end Sketch

end GraphSketch
