import Epilogue.CommandLine
import Epilogue.CommandLine.Completion
import Epilogue.CommandLine.Help
import Epilogue.CommandLine.Parse
import Epilogue.CommandLine.Request
import Epilogue.CommandLine.Spec
import Epilogue.Config
import Epilogue.Decimal.Binary64
import Epilogue.Decimal.Shortest
import Epilogue.Json.Failure
import Epilogue.Json.Number
import Epilogue.Json.Quoted
import Epilogue.Json.Read
import Epilogue.Json.Text
import Epilogue.Log.Directive
import Epilogue.Log.Filter
import Epilogue.Log.Record
import Epilogue.Main
import Epilogue.Process
import Epilogue.Process.Emission
import Epilogue.Process.Files
import Epilogue.Process.Notice
import Epilogue.Program
import Epilogue.Proofs.Json.Numeral
import Epilogue.Proofs.Json.Spelling
import Epilogue.Proofs.Process.ExitHook
import Epilogue.Proofs.Run.Coupling
import Epilogue.Proofs.Run.Crossing
import Epilogue.Proofs.Run.Holding
import Epilogue.Proofs.Run.Independence
import Epilogue.Proofs.Run.Indifference
import Epilogue.Proofs.Run.Invariant
import Epilogue.Proofs.Run.Lasting
import Epilogue.Proofs.Run.Lines
import Epilogue.Proofs.Run.Messages
import Epilogue.Proofs.Run.Order
import Epilogue.Proofs.Run.Parallel
import Epilogue.Proofs.Run.Points
import Epilogue.Proofs.Run.Transcript
import Epilogue.Proofs.Run.Truncation
import Epilogue.Proofs.Run.Wording
import Epilogue.Proofs.Stream.Acceptance
import Epilogue.Proofs.Stream.Limit
import Epilogue.Proofs.Text.RoundTrip
import Epilogue.Proofs.Trap.Exceptions
import Epilogue.Proofs.Trap.Extent
import Epilogue.Proofs.Trap.Raise
import Epilogue.Proofs.Trap.Restoration
import Epilogue.Proofs.Trap.Wording
import Epilogue.Proofs.Value.Forms
import Epilogue.Proofs.Value.Rendered
import Epilogue.Render.Printer
import Epilogue.Render.Write
import Epilogue.Report
import Epilogue.Report.Request
import Epilogue.Run.Driver
import Epilogue.Run.Outcome
import Epilogue.Stream.Fault
import Epilogue.Stream.LineBuffer
import Epilogue.Stream.Sink
import Epilogue.Stream.Streams
import Epilogue.Text.Alphanumeric
import Epilogue.Text.Blank
import Epilogue.Text.Pattern
import Epilogue.Text.Pattern.Escape
import Epilogue.Text.Pattern.Nesting
import Epilogue.Text.Quoted
import Epilogue.Text.Terminal
import Epilogue.Text.Unshown
import Epilogue.Text.Utf8
import Epilogue.Trace
import Epilogue.Trap.Hook
import Epilogue.Trap.Thread
import Epilogue.Value
import Epilogue.Value.Construction
import Epilogue.Value.Json
import Epilogue.Proofs.Log.Torn
import Epilogue.Proofs.Process.Environment
import Epilogue.Proofs.Process.Account
import Epilogue.Proofs.Trap.Stack
import Epilogue.Proofs.Trap.Levels
import Epilogue.Proofs.Trap.Guards
import Epilogue.Proofs.Json.Document
import Epilogue.Proofs.Report.Json
import Epilogue.Proofs.Report.Human
import Epilogue.Proofs.Text.Validity
import Epilogue.Proofs.Run.Rendering
import Epilogue.Proofs.Process.Delivery
