import FirmwareStamp.Text.Blank
import FirmwareStamp.Text.Similarity
import FirmwareStamp.Version.Triple
import FirmwareStamp.Version.Record
import FirmwareStamp.Version.Header
import FirmwareStamp.Version.Reconcile
import FirmwareStamp.Version.Json
import FirmwareStamp.Version.Error
import FirmwareStamp.Version.Store
import FirmwareStamp.Version.Manifest
import FirmwareStamp.Version.Reconciler
import FirmwareStamp.Version.Publish
import FirmwareStamp.Decimal.Shortest
import FirmwareStamp.Json.Error
import FirmwareStamp.Json.Scan
import FirmwareStamp.Json.Value
import FirmwareStamp.Json.Decode
import FirmwareStamp.Json.Print
import FirmwareStamp.Path.Basic
import FirmwareStamp.Disk.Basic
import FirmwareStamp.Disk.Ops
import FirmwareStamp.Disk.Action
import FirmwareStamp.Toml.Value
import FirmwareStamp.Toml.Parse
import FirmwareStamp.Glob.Pattern
import FirmwareStamp.Regex.Grammar
import FirmwareStamp.Log.Spec
import FirmwareStamp.Log.File
import FirmwareStamp.Join.Error
import FirmwareStamp.Join.Mask
import FirmwareStamp.Join.Control
import FirmwareStamp.Join.Aggregate
import FirmwareStamp.Cli.Args
import FirmwareStamp.Cli.Spec
import FirmwareStamp.Cli.Parse
import FirmwareStamp.Cli.Config
import FirmwareStamp.Cli.Show
import FirmwareStamp.Cli.Run
import FirmwareStamp.Hook.Config
import FirmwareStamp.Main
import FirmwareStamp.Proofs.Disk.Frame
import FirmwareStamp.Proofs.Disk.Links
import FirmwareStamp.Proofs.Version.Split
import FirmwareStamp.Proofs.Path.Parent
import FirmwareStamp.Proofs.Disk.Way
import FirmwareStamp.Proofs.Disk.Change
import FirmwareStamp.Proofs.Disk.Making
import FirmwareStamp.Proofs.Version.Steps
import FirmwareStamp.Proofs.Version.RecordText
import FirmwareStamp.Proofs.Version.Reconcile
import FirmwareStamp.Proofs.Version.Failure
import FirmwareStamp.Proofs.Disk.Tree
import FirmwareStamp.Proofs.Version.Effects
import FirmwareStamp.Proofs.Version.Session
import FirmwareStamp.Proofs.Version.Recompile
import FirmwareStamp.Proofs.Hook.Publish
import FirmwareStamp.Proofs.Version.Publishing
import FirmwareStamp.Proofs.Join.Aggregate
import FirmwareStamp.Proofs.Cli.Show
import FirmwareStamp.Proofs.Cli.JoinPlan
import FirmwareStamp.Proofs.Version.Rerun
import FirmwareStamp.Proofs.Cli.HookPlan
import FirmwareStamp.Proofs.Version.Reload
import FirmwareStamp.Proofs.Disk.Descend
import FirmwareStamp.Proofs.Join.Walk
import FirmwareStamp.Proofs.Join.Matches
import FirmwareStamp.Proofs.Join.Distinct
import FirmwareStamp.Proofs.Version.TripleGrammar
import FirmwareStamp.Proofs.Version.HeaderText
import FirmwareStamp.Proofs.Version.ManifestLookup
import FirmwareStamp.Proofs.Cli.ConfigFill
import FirmwareStamp.Proofs.Path.Components
import FirmwareStamp.Proofs.Version.ProductName
