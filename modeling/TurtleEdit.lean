import TurtleEdit.Text.Casing
import TurtleEdit.Text.Printable
import TurtleEdit.Buffer.Indent
import TurtleEdit.Buffer.Plan
import TurtleEdit.Highlight.Classify
import TurtleEdit.Config.Load
import TurtleEdit.Layout.Listing
import TurtleEdit.Layout.Markup
import TurtleEdit.Layout.Table
import TurtleEdit.Command.Run
import TurtleEdit.Main
import TurtleEdit.Proofs.Rescan
import TurtleEdit.Proofs.Nesting
import TurtleEdit.Proofs.Reindenting
import TurtleEdit.Proofs.Lexing
import TurtleEdit.Proofs.Rewriting
import TurtleEdit.Proofs.Seams
import TurtleEdit.Proofs.Columns
import TurtleEdit.Proofs.Moving
import TurtleEdit.Proofs.Tables
import TurtleEdit.Proofs.Comments
import TurtleEdit.Proofs.Pairing
import TurtleEdit.Proofs.Labels
import TurtleEdit.Proofs.Resources
import TurtleEdit.Proofs.Documents
import TurtleEdit.Proofs.Loading
import TurtleEdit.Proofs.Overrides
import TurtleEdit.Proofs.Buffers
import TurtleEdit.Proofs.Histories
import TurtleEdit.Proofs.Runs
import TurtleEdit.Proofs.Settling
import TurtleEdit.Proofs.LinePatterns
import TurtleEdit.Proofs.Headers
import TurtleEdit.Proofs.Endings
