import GraphSketch.Arrow
import GraphSketch.Binary64.Basic
import GraphSketch.Binary64.Shortest
import GraphSketch.Cli.Arguments
import GraphSketch.Cli.Convert
import GraphSketch.Cli.Ending
import GraphSketch.Cli.Render
import GraphSketch.Command
import GraphSketch.Decimal
import GraphSketch.Document.Basic
import GraphSketch.Document.Fields
import GraphSketch.Execution
import GraphSketch.Files.Path
import GraphSketch.Files.Tree
import GraphSketch.Graph.Basic
import GraphSketch.Graph.Shape
import GraphSketch.Json.Basic
import GraphSketch.Json.Reader
import GraphSketch.Json.Spelling
import GraphSketch.Json.Writer
import GraphSketch.Layout
import GraphSketch.Main
import GraphSketch.Mask
import GraphSketch.Numbering
import GraphSketch.Numeral
import GraphSketch.OrderedMap
import GraphSketch.Picture.Basic
import GraphSketch.Picture.Dot
import GraphSketch.Picture.Graphviz
import GraphSketch.Picture.Mermaid
import GraphSketch.Picture.Render
import GraphSketch.Proofs.Arrow
import GraphSketch.Proofs.Chain.Lossless
import GraphSketch.Proofs.Chain.Written
import GraphSketch.Proofs.Cli.Batch
import GraphSketch.Proofs.Cli.BatchFile
import GraphSketch.Proofs.Cli.BatchOutputs
import GraphSketch.Proofs.Cli.Convert
import GraphSketch.Proofs.Cli.InputFile
import GraphSketch.Proofs.Cli.Rejected
import GraphSketch.Proofs.Cli.Sessions
import GraphSketch.Proofs.Cli.Shell
import GraphSketch.Proofs.Cli.SideFile
import GraphSketch.Proofs.Cli.Verdict
import GraphSketch.Proofs.Command
import GraphSketch.Proofs.Connector
import GraphSketch.Proofs.Document.Again
import GraphSketch.Proofs.Document.Changed
import GraphSketch.Proofs.Document.Effects
import GraphSketch.Proofs.Document.Execution
import GraphSketch.Proofs.Document.Fits
import GraphSketch.Proofs.Document.Journal
import GraphSketch.Proofs.Document.LastWrite
import GraphSketch.Proofs.Document.MadeFrom
import GraphSketch.Proofs.Execution
import GraphSketch.Proofs.Execution.Answers
import GraphSketch.Proofs.Execution.Deeds
import GraphSketch.Proofs.Files.Directory
import GraphSketch.Proofs.Files.Tree
import GraphSketch.Proofs.Graph.Canvas
import GraphSketch.Proofs.Json.Number
import GraphSketch.Proofs.Json.Quote
import GraphSketch.Proofs.Json.RoundTrip
import GraphSketch.Proofs.Json.Writable
import GraphSketch.Proofs.Mask.Arrow
import GraphSketch.Proofs.Mask.Chain
import GraphSketch.Proofs.Mask.Closed
import GraphSketch.Proofs.Mask.Fence
import GraphSketch.Proofs.Mask.Lines
import GraphSketch.Proofs.Mask.Marked
import GraphSketch.Proofs.Mask.Pieces
import GraphSketch.Proofs.Mask.Quote
import GraphSketch.Proofs.Mask.Request
import GraphSketch.Proofs.Mask.Restore
import GraphSketch.Proofs.Mask.Runs
import GraphSketch.Proofs.Mask.Scanner
import GraphSketch.Proofs.Mask.Width
import GraphSketch.Proofs.Numbering.Counted
import GraphSketch.Proofs.Numbering.Growth
import GraphSketch.Proofs.Numbering.History
import GraphSketch.Proofs.Numbering.Loaded
import GraphSketch.Proofs.Numbering.Row
import GraphSketch.Proofs.Numbering.Saved
import GraphSketch.Proofs.Numbering.Sound
import GraphSketch.Proofs.OrderedMap
import GraphSketch.Proofs.Picture.Covers
import GraphSketch.Proofs.Picture.Dot
import GraphSketch.Proofs.Picture.DotNames
import GraphSketch.Proofs.Picture.DotRead
import GraphSketch.Proofs.Picture.DotString
import GraphSketch.Proofs.Picture.Graph
import GraphSketch.Proofs.Picture.Keyed
import GraphSketch.Proofs.Picture.Library
import GraphSketch.Proofs.Picture.Mermaid
import GraphSketch.Proofs.Picture.Render
import GraphSketch.Proofs.Picture.Whole
import GraphSketch.Proofs.Sketch.Accounted
import GraphSketch.Proofs.Sketch.Alike
import GraphSketch.Proofs.Sketch.ArrowText
import GraphSketch.Proofs.Sketch.Columns
import GraphSketch.Proofs.Sketch.Drawing
import GraphSketch.Proofs.Sketch.Failures
import GraphSketch.Proofs.Sketch.Growing
import GraphSketch.Proofs.Sketch.LineNumbers
import GraphSketch.Proofs.Sketch.Mention
import GraphSketch.Proofs.Sketch.Named
import GraphSketch.Proofs.Sketch.Normalize
import GraphSketch.Proofs.Sketch.Operands
import GraphSketch.Proofs.Sketch.QuotedCommand
import GraphSketch.Proofs.Sketch.References
import GraphSketch.Proofs.Sketch.Repeat
import GraphSketch.Proofs.Sketch.Returning
import GraphSketch.Proofs.Sketch.RoundTrip
import GraphSketch.Proofs.Sketch.Statement
import GraphSketch.Proofs.Sketch.Strict
import GraphSketch.Proofs.Sketch.Structure
import GraphSketch.Proofs.Sketch.Trace
import GraphSketch.Proofs.Sketch.WellFormed
import GraphSketch.Proofs.Sketch.Yield
import GraphSketch.Proofs.Style
import GraphSketch.Proofs.Text.Classes
import GraphSketch.Proofs.Text.Cut
import GraphSketch.Proofs.Text.Digits
import GraphSketch.Proofs.Text.Order
import GraphSketch.Proofs.Text.Split
import GraphSketch.Proofs.Text.Trim
import GraphSketch.Reference
import GraphSketch.Sketch
import GraphSketch.Style
import GraphSketch.Text.Basic
import GraphSketch.Text.Blank
import GraphSketch.Text.Cut
import GraphSketch.Text.Digit
import GraphSketch.Text.LowerCase
import GraphSketch.Text.Quoted
import GraphSketch.Text.Visible
import GraphSketch.Text.WordChar
