import RaceTape.CommandLine.Run
import RaceTape.CommandLine.World
import RaceTape.Log.Shown
import RaceTape.Main
import RaceTape.Wire.Stream
import RaceTape.Proofs.Bytes
import RaceTape.Proofs.Payload.Setup
import RaceTape.Proofs.Payload.Canonical
import RaceTape.Proofs.Header.Setup
import RaceTape.Proofs.Timeline.Framebulk
import RaceTape.Proofs.Tape.Invariant
import RaceTape.Proofs.Wire.Frame
import RaceTape.Proofs.Wire.Stream
import RaceTape.Proofs.Delivery.Session
import RaceTape.Proofs.Tape.Lines
import RaceTape.Proofs.Timeline.Lines
import RaceTape.Proofs.Tape.FirstFault
import RaceTape.Proofs.Connection.Step
import RaceTape.Proofs.Tape.Continuation
import RaceTape.Proofs.Connection.Trace
import RaceTape.Proofs.Connection.Replies
import RaceTape.Proofs.Text.Blank
import RaceTape.Proofs.Text.Casing
import RaceTape.Proofs.Tape.Layout
import RaceTape.Proofs.Settings.Files
import RaceTape.Proofs.CommandLine.World
import RaceTape.Proofs.CommandLine.Commands
import RaceTape.Proofs.CommandLine.Effects
import RaceTape.Proofs.Text.LowerCase
import RaceTape.Proofs.Text.Spacing
import RaceTape.Proofs.Tape.Rewriting
import RaceTape.Proofs.Tape.NormalForm
import RaceTape.Proofs.Header.Draft
import RaceTape.Proofs.Tape.IgnoredRows
import RaceTape.Proofs.Text.Integer
import RaceTape.Proofs.Decimal.Literal
import RaceTape.Proofs.Timeline.Grammar
import RaceTape.Proofs.Decimal.Overflow
import RaceTape.Proofs.Tape.Speed
import RaceTape.Proofs.Payload.Truncation
import RaceTape.Proofs.Wire.Arrival
import RaceTape.Proofs.Header.Grammar
import RaceTape.Proofs.Header.Verdict
import RaceTape.Proofs.Payload.Positions
import RaceTape.Proofs.Wire.Positions
import RaceTape.Proofs.Tape.Sentinel
import RaceTape.Proofs.Text.Reader
import RaceTape.Proofs.Endpoint
import RaceTape.Proofs.Settings.Host
import RaceTape.Proofs.CommandLine.Precedence
import RaceTape.Proofs.Decimal.Scanner
import RaceTape.Proofs.Decimal.Binary32
import RaceTape.Proofs.Timeline.Scanning
