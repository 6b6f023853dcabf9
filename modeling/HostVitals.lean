import HostVitals.Execution.Run
import HostVitals.Platform.Scripted
import HostVitals.Proofs.ProfileCache.History
import HostVitals.Proofs.ProfileCache.Spacing
import HostVitals.Proofs.ProfileCache.Crowd
import HostVitals.Proofs.ProfileCache.Serial
import HostVitals.Proofs.ProfileCache.SharedRefresh
import HostVitals.Proofs.Rounds.Steady
import HostVitals.Proofs.Rounds.TaskOrder
import HostVitals.Proofs.Rounds.Transcript
import HostVitals.Proofs.Rounds.Unguarded
import HostVitals.Proofs.Rounds.Batteries
import HostVitals.Proofs.Number.Rounding
import HostVitals.Proofs.Number.Unsigned
import HostVitals.Proofs.Number.Order
import HostVitals.Proofs.Rounds.Temperature
import HostVitals.Proofs.Text.Trimming
import HostVitals.Proofs.Sensor.Labels
import HostVitals.Proofs.Sensor.Readings
import HostVitals.Proofs.Rounds.Snapshot
import HostVitals.Proofs.Rounds.Answers
import HostVitals.Proofs.Rounds.Commands
import HostVitals.Proofs.Rounds.Charges
import HostVitals.Proofs.Rounds.Statuses
import HostVitals.Proofs.Json.Numerals
import HostVitals.Proofs.Json.Documents
import HostVitals.Proofs.Json.Records
import HostVitals.Proofs.Json.Snapshots
import HostVitals.Proofs.CommandLine.Output
import HostVitals.Proofs.Execution.Waiting
import HostVitals.Proofs.Execution.Commands
import HostVitals.Proofs.Files.Trees
import HostVitals.Proofs.Text.Utf8
import HostVitals.Proofs.Rounds.Supplies
import HostVitals.Proofs.Json.Spellings
import HostVitals.Proofs.Json.Fields
import HostVitals.Proofs.Json.Grammar
import HostVitals.Proofs.Settings.Decoding
import HostVitals.Proofs.Settings.Loading
import HostVitals.Proofs.Text.Escapes
import HostVitals.Proofs.Display.Rows
import HostVitals.Proofs.Display.Colours
import HostVitals.Proofs.Display.ChargeBar
import HostVitals.Proofs.Display.Columns
import HostVitals.Proofs.Display.Provenance
import HostVitals.Proofs.Text.Words
import HostVitals.Proofs.Text.Lower
import HostVitals.Proofs.Report.FastBattery
import HostVitals.Proofs.Report.BatteryLine
import HostVitals.Proofs.Report.StatusPhrase
import HostVitals.Proofs.Report.PowerProfile
import HostVitals.Proofs.Text.Letters
import HostVitals.Proofs.Text.Sigma
import HostVitals.Proofs.Report.StatusClasses
import HostVitals.Proofs.Report.Remaining
import HostVitals.Proofs.Number.Signed
import HostVitals.Proofs.Report.Temperature
import HostVitals.CommandLine.Arguments
import HostVitals.CommandLine.Help
import HostVitals.CommandLine.Run
