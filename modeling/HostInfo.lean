import HostInfo.Files.Scenario
import HostInfo.Files.Tree
import HostInfo.Json.Reader
import HostInfo.Main
import HostInfo.Os.Simulated
import HostInfo.Proofs.Cpu.Fallback
import HostInfo.Proofs.Cpu.Labels
import HostInfo.Proofs.StatusLine
import HostInfo.Proofs.Title
import HostInfo.Proofs.Interface.Group
import HostInfo.Proofs.ProcessTitle
import HostInfo.Proofs.Binary64
import HostInfo.Proofs.Clock
import HostInfo.Proofs.Confinement
import HostInfo.Proofs.Snapshot
import HostInfo.Proofs.ProcessAge
import HostInfo.Proofs.Command
import HostInfo.Proofs.UptimeSource
import HostInfo.Proofs.Interface.Json
import HostInfo.Proofs.FieldForms
import HostInfo.Proofs.SnapshotReport
import HostInfo.Proofs.StatusGrammar
import HostInfo.Proofs.Cpu.CounterGrammar
import HostInfo.Proofs.Cpu.Times
import HostInfo.Proofs.Cpu.FirstCore
import HostInfo.Proofs.Cpu.Frequency
import HostInfo.Proofs.Interface.Report
import HostInfo.Proofs.Rounding
import HostInfo.Proofs.SizeText
import HostInfo.Proofs.DurationText
import HostInfo.Proofs.ExecutablePath
