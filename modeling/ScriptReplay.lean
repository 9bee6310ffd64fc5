import ScriptReplay.Incident
import ScriptReplay.Json.Reader
import ScriptReplay.Main
import ScriptReplay.Proofs.Cli.JsonOutput
import ScriptReplay.Proofs.Cli.Report
import ScriptReplay.Proofs.Database.Naming
import ScriptReplay.Proofs.Delimiter.Fragments
import ScriptReplay.Proofs.Delimiter.Refusal
import ScriptReplay.Proofs.Log.Naming
import ScriptReplay.Proofs.Log.Registry
import ScriptReplay.Proofs.Log.Structured
import ScriptReplay.Proofs.Replay.Atomicity
import ScriptReplay.Proofs.Replay.Correlation
import ScriptReplay.Proofs.Replay.Directory
import ScriptReplay.Proofs.Replay.FailedStatement
import ScriptReplay.Proofs.Script.Reading
import ScriptReplay.Proofs.Script.Recoding
import ScriptReplay.Proofs.Script.Selection
import ScriptReplay.Proofs.Splitter.Composition
import ScriptReplay.Proofs.Splitter.Conservation
import ScriptReplay.Proofs.Splitter.DollarQuoting
import ScriptReplay.Proofs.Splitter.Growth
import ScriptReplay.Proofs.Splitter.Pending
import ScriptReplay.Proofs.Splitter.Reference
import ScriptReplay.Proofs.Splitter.RoundTrip
