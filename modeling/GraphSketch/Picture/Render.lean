import GraphSketch.Document.Basic
import GraphSketch.Picture.Graphviz
import GraphSketch.Picture.Mermaid

/-!
# Rendering documents

A document is rendered in one of two diagram languages, either on demand, by `ir2code`, or on the
way, by `convert`, next to the document itself. The two differ in what an unknown layout means: on
demand it is a fault, and on the way it is noted among the warnings of the document, and the
default engine draws it.

* `Format` are the languages, with their names on the command line and the suffixes of their files
  (`EMIT_SUFFIXES`).
* `Document.render` (`render`) writes a document in one of them.
* `Document.emit` (`emit_code`) does so on the way; its second part is the document with the
  warning, if there is one. The layout stays in the document.

DOT code is written by `Graphviz.library` from here on, and everything that programs do is about
that library. A warning can be added only where warnings are a list or missing. In documents from
sketches they are; in others it is a fault.
-/

set_option autoImplicit false

namespace GraphSketch

/-- A diagram language. -/
inductive Format where
  | dot
  | mermaid
  deriving DecidableEq, Repr

namespace Format

/-- The diagram languages. -/
def all : List Format := [dot, mermaid]

/-- The name of a language. -/
def name : Format → Text
  | dot => "dot"
  | mermaid => "mermaid"

/-- The language with the given name. -/
def ofName? (t : Text) : Option Format := all.find? (·.name = t)

/-- The end of the names of files in a language. -/
def suffix : Format → Text
  | dot => ".dot"
  | mermaid => ".mmd"

end Format

namespace Document

/-- The code of a document; the layout matters to DOT only. -/
def render (document : Document) (format : Format) (layout : Option Text) :
    Except DocumentFault Text :=
  match format with
  | .dot => document.dot layout
  | .mermaid => document.mermaid

/-- The code of a document, and the document with a warning if its layout is unknown. It is a
fault if no warning can be added then. -/
def emit (document : Document) (format : Format) : Except DocumentFault Text × Document :=
  match document.render format none with
  | .error (.unknownLayout kind) =>
    if document.takesWarnings then
      let warned := document.addWarning ("layout_rejected: " ++ Layout.unknownMessage kind)
      (Document.dot (OrderedMap.put warned "layout" .null) none, warned)
    else
      (.error .warningsNotAList, document)
  | result => (result, document)

end Document

end GraphSketch
