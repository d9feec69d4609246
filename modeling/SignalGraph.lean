import SignalGraph.Graph.Document
import SignalGraph.Main
import SignalGraph.Proofs.Graph.Triggered
import SignalGraph.Proofs.Graph.Sinks
import SignalGraph.Proofs.Session.Wiring
import SignalGraph.Session.Basic
import SignalGraph.Session.Connection
import SignalGraph.Value.Json.Printer
import SignalGraph.Value.Json.Reader
import SignalGraph.Proofs.Decimal.Bits
import SignalGraph.Proofs.Graph.Sweep
import SignalGraph.Proofs.Session.Bodies
import SignalGraph.Proofs.Outcome
import SignalGraph.Proofs.Session.Ticking
import SignalGraph.Proofs.Decimal.Nearest
import SignalGraph.Proofs.Decimal.Shortest
import SignalGraph.Proofs.Text.Words
import SignalGraph.Proofs.Decimal.Numeral
import SignalGraph.Proofs.Decimal.ReadBack
import SignalGraph.Proofs.Text.Encoding
import SignalGraph.Proofs.Node.Data
import SignalGraph.Proofs.Graph.Layout
import SignalGraph.Proofs.Form.Check
import SignalGraph.Proofs.Graph.Assembled
import SignalGraph.Proofs.Graph.Accepted
import SignalGraph.Proofs.Graph.Document
import SignalGraph.Proofs.Graph.Saved
import SignalGraph.Proofs.Graph.Loaded
import SignalGraph.Proofs.Graph.Alike
import SignalGraph.Proofs.Graph.Copies
import SignalGraph.Proofs.Session.Saving
import SignalGraph.Proofs.Session.Exporting
import SignalGraph.Proofs.Script.Growth
import SignalGraph.Proofs.Graph.Modes
import SignalGraph.Proofs.Graph.Latency
import SignalGraph.Proofs.Graph.Neighbours
import SignalGraph.Proofs.Session.Refusing
import SignalGraph.Proofs.CommandLine.Opening
import SignalGraph.Proofs.Script.Lexeme
import SignalGraph.Proofs.Script.Nesting
import SignalGraph.Proofs.Script.Unplaced
import SignalGraph.Proofs.Graph.Source
import SignalGraph.Proofs.Script.Frame
import SignalGraph.Proofs.Script.Completion
import SignalGraph.Proofs.Script.Refusal
import SignalGraph.Proofs.Script.Continued
import SignalGraph.Proofs.Script.Derivation
import SignalGraph.Proofs.Script.Excerpt
import SignalGraph.Proofs.Script.Acceptance
import SignalGraph.Proofs.Graph.Calls
import SignalGraph.Proofs.Graph.Reentry
import SignalGraph.Proofs.Graph.Numbering
import SignalGraph.Proofs.Decimal.Overflow
import SignalGraph.Proofs.Graph.Reported
import SignalGraph.Proofs.Session.Answering
import SignalGraph.Proofs.Session.Drawing
import SignalGraph.Proofs.Session.Shown
import SignalGraph.Proofs.Text.Printed
import SignalGraph.Proofs.Run.Trace
import SignalGraph.Proofs.Decimal.Canonical
import SignalGraph.Proofs.Node.FanIn
import SignalGraph.Proofs.Node.Canonical
import SignalGraph.Proofs.Graph.Matching
import SignalGraph.Proofs.Graph.Rewired
import SignalGraph.Proofs.Script.Spans
import SignalGraph.Proofs.Graph.Skipping
import SignalGraph.Proofs.Graph.FeedForward
import SignalGraph.Proofs.Graph.Columns
import SignalGraph.Proofs.Graph.Diagnosed
import SignalGraph.Proofs.Script.Happening
import SignalGraph.Proofs.Graph.Warned
import SignalGraph.Proofs.Session.Holding
import SignalGraph.Proofs.Session.Pressing
import SignalGraph.Session.Shared
import SignalGraph.Proofs.Graph.NodeLines
import SignalGraph.Proofs.Session.Sharing
import SignalGraph.Proofs.Session.Linearizing
import SignalGraph.Proofs.Session.Removing
import SignalGraph.Proofs.Decimal.Exact
import SignalGraph.Proofs.Graph.Courses
import SignalGraph.Proofs.Node.Counting
import SignalGraph.Proofs.Node.Latching
import SignalGraph.Proofs.Node.Painting
import SignalGraph.Proofs.Decimal.Closest
import SignalGraph.Proofs.Decimal.Single
