import ActivityArchive.Activity.Activities
import ActivityArchive.Activity.Aggregate
import ActivityArchive.Activity.Basic
import ActivityArchive.Activity.Interrupts
import ActivityArchive.Archive
import ActivityArchive.Attempt
import ActivityArchive.Buffer.Grid
import ActivityArchive.Buffer.Samples
import ActivityArchive.Buffer.Slot
import ActivityArchive.Buffer.Vectors
import ActivityArchive.Catalog.Basic
import ActivityArchive.Catalog.RouteTables
import ActivityArchive.Catalog.Routes
import ActivityArchive.Command.Invocation
import ActivityArchive.Command.Listing
import ActivityArchive.Command.Run
import ActivityArchive.Config
import ActivityArchive.Decimal.Format
import ActivityArchive.Decimal.Layout
import ActivityArchive.Decimal.Reader
import ActivityArchive.Decimal.Shortest
import ActivityArchive.Group.All
import ActivityArchive.Group.Flat
import ActivityArchive.Group.Header
import ActivityArchive.Group.Interrupt
import ActivityArchive.Group.Keyed
import ActivityArchive.Group.Memory
import ActivityArchive.Group.NetworkCounters
import ActivityArchive.Group.Numbered
import ActivityArchive.Group.PerCpu
import ActivityArchive.Group.Sensor
import ActivityArchive.Group.Spec
import ActivityArchive.Group.SystemCounters
import ActivityArchive.Instance.Domains
import ActivityArchive.Instance.Indexed
import ActivityArchive.Instance.Registry
import ActivityArchive.Json.Basic
import ActivityArchive.Json.Number
import ActivityArchive.Json.Reader
import ActivityArchive.Json.Shape
import ActivityArchive.Json.Writer
import ActivityArchive.Main
import ActivityArchive.Metric.Descriptor
import ActivityArchive.Metric.Ident
import ActivityArchive.Metric.Value
import ActivityArchive.Proofs.Activity.Accesses
import ActivityArchive.Proofs.Activity.Aggregation
import ActivityArchive.Proofs.Activity.Alike
import ActivityArchive.Proofs.Activity.AnyShape
import ActivityArchive.Proofs.Activity.Building
import ActivityArchive.Proofs.Activity.Clamping
import ActivityArchive.Proofs.Activity.Columns
import ActivityArchive.Proofs.Activity.Holding
import ActivityArchive.Proofs.Activity.InterruptClamping
import ActivityArchive.Proofs.Activity.InterruptLoading
import ActivityArchive.Proofs.Activity.InterruptTotals
import ActivityArchive.Proofs.Activity.Interrupts
import ActivityArchive.Proofs.Activity.LastKnown
import ActivityArchive.Proofs.Activity.LoadingByName
import ActivityArchive.Proofs.Activity.Named
import ActivityArchive.Proofs.Activity.Parts
import ActivityArchive.Proofs.Activity.Plan
import ActivityArchive.Proofs.Activity.Reordering
import ActivityArchive.Proofs.Activity.Replanning
import ActivityArchive.Proofs.Activity.RowTotals
import ActivityArchive.Proofs.Activity.Unloading
import ActivityArchive.Proofs.Activity.Unobserved
import ActivityArchive.Proofs.Archive.CpuTotals
import ActivityArchive.Proofs.Archive.Cpus
import ActivityArchive.Proofs.Archive.Interchange
import ActivityArchive.Proofs.Archive.InterruptHistory
import ActivityArchive.Proofs.Archive.Interrupts
import ActivityArchive.Proofs.Archive.Items
import ActivityArchive.Proofs.Archive.RoundTrip
import ActivityArchive.Proofs.Archive.SecondExport
import ActivityArchive.Proofs.Archive.Sensors
import ActivityArchive.Proofs.Archive.SingleRecords
import ActivityArchive.Proofs.Buffer.Accesses
import ActivityArchive.Proofs.Buffer.Calls
import ActivityArchive.Proofs.Buffer.Cells
import ActivityArchive.Proofs.Buffer.Clamping
import ActivityArchive.Proofs.Buffer.GridCalls
import ActivityArchive.Proofs.Buffer.Records
import ActivityArchive.Proofs.Buffer.Sized
import ActivityArchive.Proofs.Buffer.Vectors
import ActivityArchive.Proofs.Catalog.Handles
import ActivityArchive.Proofs.Catalog.Routing
import ActivityArchive.Proofs.Catalog.Sharing
import ActivityArchive.Proofs.Group.Accesses
import ActivityArchive.Proofs.Group.Aggregating
import ActivityArchive.Proofs.Group.Alike
import ActivityArchive.Proofs.Group.Clamping
import ActivityArchive.Proofs.Group.Commuting
import ActivityArchive.Proofs.Group.Confinement
import ActivityArchive.Proofs.Group.Counted
import ActivityArchive.Proofs.Group.CpuRestoring
import ActivityArchive.Proofs.Group.FlatRestoring
import ActivityArchive.Proofs.Group.HeaderRestoring
import ActivityArchive.Proofs.Group.InterruptEmitting
import ActivityArchive.Proofs.Group.InterruptRestoring
import ActivityArchive.Proofs.Group.ItemRestoring
import ActivityArchive.Proofs.Group.KeyedRestoring
import ActivityArchive.Proofs.Group.Lasting
import ActivityArchive.Proofs.Group.Locality
import ActivityArchive.Proofs.Group.MemoryRestoring
import ActivityArchive.Proofs.Group.Metrics
import ActivityArchive.Proofs.Group.Orderless
import ActivityArchive.Proofs.Group.Requests
import ActivityArchive.Proofs.Group.Restoring
import ActivityArchive.Proofs.Group.SelfContained
import ActivityArchive.Proofs.Group.SensorFields
import ActivityArchive.Proofs.Group.SensorRestoring
import ActivityArchive.Proofs.Group.Single
import ActivityArchive.Proofs.Group.SingleRestoring
import ActivityArchive.Proofs.Group.Skipping
import ActivityArchive.Proofs.Group.Support
import ActivityArchive.Proofs.Group.Taking
import ActivityArchive.Proofs.Group.UnitRestoring
import ActivityArchive.Proofs.Instance.Bijection
import ActivityArchive.Proofs.Instance.Calls
import ActivityArchive.Proofs.Instance.InOrder
import ActivityArchive.Proofs.Instance.Indexed
import ActivityArchive.Proofs.Instance.Labels
import ActivityArchive.Proofs.Instance.Loading
import ActivityArchive.Proofs.Instance.NormalForm
import ActivityArchive.Proofs.Instance.Numbering
import ActivityArchive.Proofs.Instance.Rules
import ActivityArchive.Proofs.Json.RoundTrip
import ActivityArchive.Proofs.Metric.Exact
import ActivityArchive.Proofs.Metric.Identifiers
import ActivityArchive.Proofs.Metric.Numbers
import ActivityArchive.Proofs.Positions
import ActivityArchive.Proofs.Record.CpuTimes
import ActivityArchive.Proofs.Record.Fields
import ActivityArchive.Proofs.Record.InterruptTable
import ActivityArchive.Proofs.Record.Sums
import ActivityArchive.Proofs.Selection.Calls
import ActivityArchive.Proofs.Selection.Members
import ActivityArchive.Proofs.Session.Accesses
import ActivityArchive.Proofs.Session.Batteries
import ActivityArchive.Proofs.Session.Calls
import ActivityArchive.Proofs.Session.Carrying
import ActivityArchive.Proofs.Session.Clamping
import ActivityArchive.Proofs.Session.Confinement
import ActivityArchive.Proofs.Session.Defining
import ActivityArchive.Proofs.Session.Definitions
import ActivityArchive.Proofs.Session.Emissions
import ActivityArchive.Proofs.Session.Establishing
import ActivityArchive.Proofs.Session.Exporting
import ActivityArchive.Proofs.Session.Forgetting
import ActivityArchive.Proofs.Session.Importing
import ActivityArchive.Proofs.Session.InRange
import ActivityArchive.Proofs.Session.InStep
import ActivityArchive.Proofs.Session.Independence
import ActivityArchive.Proofs.Session.LastKnown
import ActivityArchive.Proofs.Session.Leftover
import ActivityArchive.Proofs.Session.Numbering
import ActivityArchive.Proofs.Session.Protocol
import ActivityArchive.Proofs.Session.Reachability
import ActivityArchive.Proofs.Session.Reading
import ActivityArchive.Proofs.Session.Recording
import ActivityArchive.Proofs.Session.Registration
import ActivityArchive.Proofs.Session.Reordering
import ActivityArchive.Proofs.Session.Retrying
import ActivityArchive.Proofs.Session.Runs
import ActivityArchive.Proofs.Session.Skipping
import ActivityArchive.Proofs.Session.Texts
import ActivityArchive.Proofs.Session.Transcript
import ActivityArchive.Proofs.Session.Unobserved
import ActivityArchive.Proofs.Steps
import ActivityArchive.Proofs.Store.Calls
import ActivityArchive.Proofs.Store.Gathering
import ActivityArchive.Proofs.Store.Grouped
import ActivityArchive.Proofs.Store.Ledger
import ActivityArchive.Proofs.Store.Naming
import ActivityArchive.Proofs.Store.ReadBack
import ActivityArchive.Proofs.Text.Numerals
import ActivityArchive.Record.Device
import ActivityArchive.Record.Field
import ActivityArchive.Record.Groups
import ActivityArchive.Record.Network
import ActivityArchive.Record.Power
import ActivityArchive.Record.System
import ActivityArchive.Sample
import ActivityArchive.Selection.Bitmap
import ActivityArchive.Session.Basic
import ActivityArchive.Session.Decoding
import ActivityArchive.Session.Encoding
import ActivityArchive.Store.Basic
import ActivityArchive.Store.Dump
import ActivityArchive.Store.Fetch
import ActivityArchive.Text.Blank
import ActivityArchive.Text.Digits
import ActivityArchive.Text.Hidden
import ActivityArchive.Text.Quoted
