import TestSignal.Api
import TestSignal.CommandLine.Run
import TestSignal.Main
import TestSignal.Sync.Worker
import TestSignal.Proofs.Config.RoundTrip
import TestSignal.Proofs.Command.Inputs
import TestSignal.Proofs.Number.Range
import TestSignal.Proofs.Config.Acceptance
import TestSignal.Proofs.Filter.Quoting
import TestSignal.Proofs.Expr.Value
import TestSignal.Proofs.Flash
import TestSignal.Proofs.Flash.Windows
import TestSignal.Proofs.Filter.Reader
import TestSignal.Proofs.Number.Written
import TestSignal.Proofs.Filter.Legible
import TestSignal.Proofs.Picture.Features
import TestSignal.Proofs.Picture.Printed
import TestSignal.Proofs.CommandLine.Surfaces
import TestSignal.Proofs.Command.Total
import TestSignal.Proofs.Station.Visits
import TestSignal.Proofs.Sync.Rounds
import TestSignal.Proofs.Picture.Kinds
import TestSignal.Proofs.Text.Occurrence
import TestSignal.Proofs.Audio.Flashing
import TestSignal.Proofs.Overlay.Status
import TestSignal.Proofs.Command.Cues
import TestSignal.Proofs.Config.Settled
import TestSignal.Proofs.Config.Respelled
import TestSignal.Proofs.Command.Level
import TestSignal.Proofs.Command.Verbatim
import TestSignal.Proofs.Device.Choice
import TestSignal.Proofs.Station.Offered
import TestSignal.Proofs.Sync.Loops
import TestSignal.Proofs.Clock.Upkeep
import TestSignal.Proofs.Picture.Order
import TestSignal.Proofs.Filter.Unescape
import TestSignal.Proofs.Clock.TimeOfDay
import TestSignal.Proofs.Audio.Source
import TestSignal.Proofs.Overlay.Channels
import TestSignal.Proofs.Clock.Placement
import TestSignal.Proofs.Picture.Square
import TestSignal.Proofs.Overlay.Framed
import TestSignal.Proofs.Overlay.Margins
import TestSignal.Proofs.Overlay.Lines
import TestSignal.Proofs.Command.Uploads
import TestSignal.Proofs.Device.Listed
import TestSignal.Proofs.Sntp.DataLine
import TestSignal.Proofs.Sync.OffsetPart
