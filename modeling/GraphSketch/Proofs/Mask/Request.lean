import GraphSketch.Command
import GraphSketch.Proofs.Mask.Arrow

/-!
# Commands in marked text

Commands are looked for in masked text, and contents are put back for placeholders in the parts of
a command.  `detect_masked` says what this comes to: a command is a command of the marked line, in
which a span is one symbol that is no sign of a command, and its parts are read with the contents
of their spans.  The width of the fences is nowhere in it.

* `Marked.call?`, `Marked.arguments?` — a call, and its arguments, cut at commas outside spans.
* `Marked.select?` — a selection with its settings.
* `Marked.request?` — what a marked line asks for, in the order in which the forms are tried.
* `call?_masked`, `select?_masked`, `ofText?_masked` — each of them against what is read in the
  masked text; the parts of a command are pieces of the line, so that they are restored as pieces
  of masked text are.
-/

set_option autoImplicit false

namespace GraphSketch

namespace Marked

/-! ## Calls -/

/-- What stands between the parentheses of a call of `name` that fills the marked text. -/
def call? (name : Text) (s : Marked) : Option Marked :=
  let start : Marked := ('=' :: name).map .char
  let closing : Symbol → Bool := Symbol.passes (· ≠ ')') true
  if start <+: s then
    match (s.drop start.length).dropWhile Symbol.isBlank with
    | .char '(' :: inner =>
      if inner.dropWhile closing = [.char ')'] then some (inner.takeWhile closing) else none
    | _ => none
  else
    none

/-- **A call in masked text** is a call in the marked one. -/
theorem call?_masked {name : Text} (hname : ('=' :: name).any isPlaceholderChar = false)
    (width : Nat) (s : Marked) :
    GraphSketch.call? name (masked width s) = (call? name s).map (masked width) := by
  have hclosing : Uniform (fun c => decide (c ≠ ')')) true := uniform_ne (by decide)
  by_cases hstart : ('=' :: name).map Symbol.char <+: s
  · obtain ⟨s, rfl⟩ := hstart
    have hafter : Text.after? ('=' :: name) (masked width (('=' :: name).map .char ++ s)) =
        some (masked width s) := by
      rw [masked_append, masked_map_char, Text.after?,
        if_pos (List.isPrefixOf_iff_prefix.mpr (List.prefix_append _ _)), List.drop_left]
    simp only [GraphSketch.call?, call?, hafter, if_pos (List.prefix_append _ _), List.drop_left,
      Option.bind_eq_bind, Option.bind_some, ← masked_dropWhile]
    generalize s.dropWhile Symbol.isBlank = s
    cases s with
    | nil => rfl
    | cons x s =>
      cases x with
      | span n content =>
        obtain ⟨c, cs, hmasked, hc⟩ := exists_cons_masked width n content s
        have hne : c ≠ '(' := fun he => absurd (he ▸ hc) (by decide)
        simp [hmasked, hne]
      | char c =>
        by_cases hc : c = '('
        · subst hc
          have hend : masked width (s.dropWhile (Symbol.passes (fun c => decide (c ≠ ')')) true)) =
              [')'] ↔ s.dropWhile (Symbol.passes (fun c => decide (c ≠ ')')) true) = [.char ')'] :=
            ⟨fun h => eq_map_char_of_masked h (by decide), fun h => by rw [h]; rfl⟩
          simp only [masked_cons, Symbol.masked, List.singleton_append, dropWhile_masked hclosing,
            takeWhile_masked hclosing, hend]
          split <;> rfl
        · simp [Symbol.masked, hc]
  · have hafter : Text.after? ('=' :: name) (masked width s) = none := by
      rw [Text.after?, if_neg]
      rw [List.isPrefixOf_iff_prefix, isPrefix_masked_iff hname]
      exact hstart
    simp only [GraphSketch.call?, call?, hafter, if_neg hstart]
    rfl

theorem infix_of_call? {name : Text} {s inner : Marked} (h : call? name s = some inner) :
    inner <:+: s := by
  simp only [call?] at h
  split at h
  · split at h
    · rename_i rest hrest
      split at h
      · cases h
        have hsuffix : .char '(' :: rest <:+ s :=
          hrest ▸ (List.dropWhile_suffix _).trans (List.drop_suffix _ _)
        exact (List.takeWhile_prefix _).isInfix.trans
          ((List.suffix_cons _ _).trans hsuffix).isInfix
      · cases h
    · cases h
  · cases h

theorem infix_intercalate (sep : Marked) {piece : Marked} : ∀ {pieces : List Marked}, piece ∈ pieces →
    piece <:+: sep.intercalate pieces
  | [only], h => by
    rw [List.intercalate_singleton]
    exact List.mem_singleton.mp h ▸ List.infix_rfl
  | first :: next :: rest, h => by
    rw [List.intercalate_cons_cons, List.append_assoc]
    rcases List.mem_cons.mp h with rfl | h
    · exact (List.prefix_append _ _).isInfix
    · exact (infix_intercalate sep h).trans
        ((List.suffix_append _ _).trans (List.suffix_append _ _)).isInfix

theorem infix_of_mem_splitOn {sep : Symbol} {s piece : Marked} (h : piece ∈ s.splitOn sep) :
    piece <:+: s := by
  have hinside := infix_intercalate [sep] h
  rwa [List.intercalate_splitOn] at hinside

/-- The arguments of a call of `name` that fills the marked text, with contents for spans. -/
def arguments? (name : Text) (s : Marked) : Option (List Text) :=
  (call? name s).map fun inner => (inner.splitOn (.char ',')).map fun arg => (trim arg).filled

variable {t : Text} {s : Marked}

theorem arguments?_masked {name : Text} (hname : ('=' :: name).any isPlaceholderChar = false)
    (h : s <:+: ofText t) :
    Request.arguments? (Mask.ofText t) name (masked (fenceWidth t) s) = arguments? name s := by
  rw [Request.arguments?, call?_masked hname, arguments?, Option.map_map]
  refine Option.map_congr fun inner hinner => ?_
  rw [Function.comp_apply, splitArguments, splitOn_masked (by decide), List.map_map, List.map_map]
  refine List.map_congr_left fun arg harg => ?_
  have harg : trim arg <:+: ofText t := (isInfix_trim arg).trans
    ((infix_of_mem_splitOn harg).trans ((infix_of_call? hinner).trans h))
  rw [Function.comp_apply, Function.comp_apply, ← masked_trim, restore_masked harg]

/-! ## Requests -/

/-- The selection `@ref settings` that a marked text makes. -/
def select? : Marked → Option Request
  | .char '@' :: s =>
    let word : Symbol → Bool := Symbol.passes (fun c => !GraphSketch.isBlank c) true
    if (s.takeWhile word).isEmpty || (s.dropWhile word).contains (.char '\n') then none
    else some (.select (filled (s.takeWhile word)) (trim (s.dropWhile word)).filled)
  | _ => none

/-- What a marked text without blanks around it asks for. -/
def request? (s : Marked) : Option Request :=
  (arguments? "rename" s).map (fun args => .rename (args[0]?.getD []) (args[1]?.getD [])) <|>
    (arguments? "layout" s).map (fun args =>
      let kind := args[0]?.getD []
      .layout (if kind.isEmpty then defaultLayout else kind)) <|>
    select? s

theorem select?_masked (h : s <:+: ofText t) :
    Request.select? (Mask.ofText t) (masked (fenceWidth t) s) = select? s := by
  have hword : Uniform (fun c => !GraphSketch.isBlank c) true := fun c hc =>
    congrArg Bool.not (uniform_isBlank c hc)
  cases s with
  | nil => rfl
  | cons x s =>
    cases x with
    | span n content =>
      obtain ⟨c, cs, hmasked, hc⟩ := exists_cons_masked (fenceWidth t) n content s
      have hne : c ≠ '@' := fun he => absurd (he ▸ hc) (by decide)
      simp [Request.select?, select?, hmasked, hne]
    | char c =>
      by_cases hc : c = '@'
      · subst hc
        have hs : s <:+: ofText t := (List.suffix_cons _ s).isInfix.trans h
        generalize hw : Symbol.passes (fun c => !GraphSketch.isBlank c) true = word
        have href := restore_masked ((List.takeWhile_prefix word).isInfix.trans hs)
        have hparams := restore_masked
          ((isInfix_trim _).trans ((List.dropWhile_suffix word).isInfix.trans hs))
        have hempty : (masked (fenceWidth t) (s.takeWhile word)).isEmpty =
            (s.takeWhile word).isEmpty := by
          rw [Bool.eq_iff_iff, List.isEmpty_iff, List.isEmpty_iff, masked_eq_nil_iff]
        have hfeed : List.contains (masked (fenceWidth t) (s.dropWhile word)) '\n' =
            (s.dropWhile word).contains (.char '\n') := by
          rw [Bool.eq_iff_iff, List.contains_iff_mem, List.contains_iff_mem,
            mem_masked_iff (by decide)]
        simp only [Request.select?, select?, masked_cons, Symbol.masked, List.singleton_append,
          takeWhile_masked hword, dropWhile_masked hword, hw, ← masked_trim, href, hparams, hempty,
          hfeed]
      · simp [Request.select?, select?, Symbol.masked, hc]

/-- **What masked text asks for** is what the marked text asks for. -/
theorem ofText?_masked (h : s <:+: ofText t) :
    Request.ofText? (Mask.ofText t) (masked (fenceWidth t) s) = request? s := by
  rw [Request.ofText?, Request.rename?, Request.layout?, arguments?_masked (by decide) h,
    arguments?_masked (by decide) h, select?_masked h]
  rfl

/-- The command on a marked line. -/
def detect (s : Marked) (line : Nat) : Option Command :=
  (trim s).request?.map fun request => ⟨request, (trim s).filled, line⟩

/-- **The command on a masked line** is the command on the marked one. -/
theorem detect_masked (h : s <:+: ofText t) (line : Nat) :
    Command.detect (Mask.ofText t) (masked (fenceWidth t) s) line = detect s line := by
  have htrim : trim s <:+: ofText t := (isInfix_trim s).trans h
  rw [Command.detect, ← masked_trim, ofText?_masked htrim, restore_masked htrim, detect]

end Marked

end GraphSketch
