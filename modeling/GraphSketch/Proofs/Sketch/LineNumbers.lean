import GraphSketch.Proofs.Sketch.Drawing
import GraphSketch.Proofs.Sketch.Trace

/-!
# Line numbers

Commands, reports and warnings say on which line they are.  `Numbered` says that they are right:
the number is one more than there are line feeds in the source before the logical line, be they
between lines, in labels or in commands before.  `compile_numbered` proves it of all compilations
that return, so the two passes over the lines count alike.

* `Warning.line`, `Warning.line_prefix_message` — the line that a warning names is the one that
  its words begin with.
* `Becomes.line` — what becomes of a logical line has its number, by cases on what that is: a
  command, a report, or what a drawn line passes over.

A diagram is compared with its trace, in which every entry has its logical line, so no counting is
left to do here.
-/

set_option autoImplicit false

namespace GraphSketch

/-- The line that a warning names. -/
def Warning.line : Warning → Nat
  | emptyLabel line => line
  | dangling line _ _ => line

theorem Warning.line_prefix_message (w : Warning) :
    "line ".toList ++ Text.ofNat w.line ++ ":".toList <+: w.message := by
  have hcolon : ∀ start text text' : Text, text = ":".toList ++ text' →
      start ++ ":".toList <+: start ++ text := by
    intro start text text' h
    rw [h, ← List.append_assoc]
    exact List.prefix_append _ _
  cases w with
  | emptyLabel line => exact hcolon _ _ " empty label ignored".toList (by decide)
  | dangling line arrow column =>
    have hstart := hcolon ("line ".toList ++ Text.ofNat line) ": dangling arrow '".toList
      " dangling arrow '".toList (by decide)
    exact ((hstart.trans (List.prefix_append _ arrow)).trans (List.prefix_append _ _)).trans
      (List.prefix_append _ _)

theorem Command.line_of_detect {mask : Mask} {text : Text} {line : Nat} {c : Command}
    (h : detect mask text line = some c) : c.line = line := by
  obtain ⟨request, _, rfl⟩ := Option.map_eq_some_iff.mp h
  rfl

namespace Sketch

theorem line_of_mem_danglingWarnings {line : Nat} {chain : Chain} {labels : List (Option Text)}
    {w : Warning} (h : w ∈ danglingWarnings line chain labels) : w.line = line := by
  obtain ⟨⟨⟨arrow, left, right⟩, position⟩, _, hw⟩ := List.mem_filterMap.mp h
  cases left with
  | none =>
    cases hw
    rfl
  | some left =>
    cases right with
    | none =>
      cases hw
      rfl
    | some right => cases hw

theorem line_of_drawLine {shapes : List Shape} {mask : Mask} {canvas canvas' : Canvas} {line : Nat}
    {text : Text} {warnings : List Warning} {w : Warning}
    (h : drawLine shapes mask canvas line text = .ok (canvas', warnings)) (hw : w ∈ warnings) :
    w.line = line := by
  obtain ⟨labels, _, _, rfl⟩ := drawLine_eq_ok h
  split at hw
  · split at hw
    · rw [List.mem_singleton.mp hw]
      rfl
    · cases hw
  · exact line_of_mem_danglingWarnings hw

/-- A diagram in which every command, report and warning has the number of the line it comes
from. -/
structure Numbered (settings : Settings) (t : Text) (entries : List Entry) (d : Diagram) :
    Prop where
  /-- The entries are the logical lines of the source, each with what becomes of it. -/
  lines : entries.map (·.line) = logicalLines t
  standsIn : ∀ e ∈ entries, e.line.StandsIn t
  isPrefix_source : ∀ e ∈ entries, e.line.before ++ e.line.symbols.source <+: t
  outcome_eq : ∀ e ∈ entries, e.outcome = outcome settings (Mask.ofText t) e.canvas e.line
  /-- Everything comes from one of them. -/
  commands : d.commands = entries.filterMap (·.outcome.command?)
  errors : d.errors = entries.filterMap (·.outcome.error?)
  warnings : d.warnings = entries.flatMap (·.outcome.warnings)
  /-- The numbers are one more than there are line feeds before the line. -/
  command_line : ∀ e ∈ entries, ∀ c, e.outcome.command? = some c →
    c.line = 1 + e.line.before.count '\n'
  error_line : ∀ e ∈ entries, ∀ error, e.outcome.error? = some error →
    error.line = 1 + e.line.before.count '\n'
  warning_line : ∀ e ∈ entries, ∀ w ∈ e.outcome.warnings,
    w.line = 1 + e.line.before.count '\n' ∧
      "line ".toList ++ Text.ofNat (1 + e.line.before.count '\n') ++ ":".toList <+:
        w.message

theorem Becomes.line {settings : Settings} {mask : Mask} {canvas : Canvas} {l : LogicalLine}
    {o : Outcome} (h : Becomes settings mask canvas l o) :
    (∀ c, o.command? = some c → c.line = l.number) ∧
      (∀ error, o.error? = some error → error.line = l.number) ∧
        ∀ w ∈ o.warnings, w.line = l.number := by
  cases h with
  | command hd =>
    refine ⟨fun c hc => ?_, nofun, nofun⟩
    cases hc
    exact Command.line_of_detect hd
  | blank => exact ⟨nofun, nofun, nofun⟩
  | drawn hd hb hdraw => exact ⟨nofun, nofun, fun w hw => line_of_drawLine hdraw hw⟩
  | failed =>
    refine ⟨nofun, fun error he => ?_, nofun⟩
    cases he
    rfl
  | ended => exact ⟨nofun, nofun, nofun⟩

/-- **Every line number is right**, however many quoted spans and commands over several lines
come before: the two passes count lines alike. -/
theorem compile_numbered {settings : Settings} {numbering after : Numbering} {t : Text}
    {d : Diagram} (h : compile settings numbering t = (.ok d, after)) :
    Numbered settings (normalize t) (trace settings numbering t) d := by
  obtain ⟨hlines, _, rfl⟩ := compile_eq_ok h
  have hline := fun e (he : e ∈ trace settings numbering t) => (becomes_of_mem_trace he).line
  exact {
    lines := hlines
    standsIn := fun e he => standsIn_of_mem_trace he
    isPrefix_source := fun e he => (standsIn_of_mem_trace he).isPrefix_source
    outcome_eq := fun e he => (outcome_of_mem_traceFrom he).2
    commands := rfl
    errors := rfl
    warnings := rfl
    command_line := fun e he => (hline e he).1
    error_line := fun e he => (hline e he).2.1
    warning_line := fun e he w hw => by
      have hw' := (hline e he).2.2 w hw
      have hp := w.line_prefix_message
      rw [hw'] at hp
      exact ⟨hw', hp⟩ }

/-- A label and a command over two lines each, before a line that is left out and a warning. -/
theorem compile_numbered_of_spans :
    let t : Text := "\"a\nb\" ->\n=rename(\"x\ny\", z)\nA -> :9\n-> B"
    let d : Diagram := ⟨[⟨"a\nb", 1, .rectangle, 0⟩, ⟨"B", 2, .rectangle, 1⟩], [],
      [⟨.rename "x\ny" "z", "=rename(x\ny, z)", 3⟩], [⟨5, "A -> :9", ⟨":9", some 9⟩⟩],
      [.dangling 1 "->" 14, .dangling 6 "->" 1]⟩
    let after : Numbering := ⟨[("a\nb", 1), ("B", 2)], [(1, "a\nb"), (2, "B")], 3⟩
    compile ⟨true, false⟩ Numbering.empty t = (.ok d, after) ∧
      Numbered ⟨true, false⟩ (normalize t) (trace ⟨true, false⟩ Numbering.empty t) d := by
  intro t d after
  have h : compile ⟨true, false⟩ Numbering.empty t = (.ok d, after) := by
    decide +kernel
  exact ⟨h, compile_numbered h⟩

end Sketch

end GraphSketch
