import SocketAttribution.Charge.Call
import SocketAttribution.Charge.Delegation
import SocketAttribution.Charge.Error
import SocketAttribution.Charge.Occupancy
import SocketAttribution.Charge.Quota
import SocketAttribution.Charge.Records
import SocketAttribution.Charge.Tagging
import SocketAttribution.CommandLine.Call
import SocketAttribution.CommandLine.Grammar
import SocketAttribution.CommandLine.LogFilter
import SocketAttribution.CommandLine.Option
import SocketAttribution.CommandLine.Parse
import SocketAttribution.CommandLine.Run
import SocketAttribution.Dialogue
import SocketAttribution.Hook.Attachment
import SocketAttribution.Hook.Error
import SocketAttribution.Hook.Plan
import SocketAttribution.Hook.Point
import SocketAttribution.Hook.Program
import SocketAttribution.Json
import SocketAttribution.Log
import SocketAttribution.Main
import SocketAttribution.Path.Basic
import SocketAttribution.Path.Components
import SocketAttribution.Path.FileTree
import SocketAttribution.Platform.Admission
import SocketAttribution.Platform.Facts
import SocketAttribution.Platform.Release
import SocketAttribution.Platform.Report
import SocketAttribution.Platform.Running
import SocketAttribution.Platform.Verdict
import SocketAttribution.Platform.Version
import SocketAttribution.Rehearsal.Desk
import SocketAttribution.Rehearsal.Host
import SocketAttribution.Rehearsal.Kernel
import SocketAttribution.Socket.Query
import SocketAttribution.Startup.Call
import SocketAttribution.Startup.Error
import SocketAttribution.Startup.Loader
import SocketAttribution.Startup.Sequence
import SocketAttribution.Startup.Tables
import SocketAttribution.SystemError
import SocketAttribution.Table.Bounded
import SocketAttribution.Table.Call
import SocketAttribution.Table.Entries
import SocketAttribution.Table.Error
import SocketAttribution.Table.KernelMap
import SocketAttribution.Table.Pinned
import SocketAttribution.Table.Slot
import SocketAttribution.Table.Wire
import SocketAttribution.Text.Blank
import SocketAttribution.Text.Control
import SocketAttribution.Text.Duration
import SocketAttribution.Text.Numeral
import SocketAttribution.Text.Pieces
import SocketAttribution.Text.Utf8
import SocketAttribution.Proofs.Charge.Demands
import SocketAttribution.Proofs.Charge.Desk
import SocketAttribution.Proofs.Charge.Gate
import SocketAttribution.Proofs.Charge.Interleaving
import SocketAttribution.Proofs.Charge.Overshoot
import SocketAttribution.Proofs.Charge.Checklist
import SocketAttribution.Proofs.Charge.ErrorNumbers
import SocketAttribution.Proofs.Charge.LastWriter
import SocketAttribution.Proofs.Charge.Precedence
import SocketAttribution.Proofs.Charge.Provenance
import SocketAttribution.Proofs.Charge.Reserve
import SocketAttribution.Proofs.Charge.Fairness
import SocketAttribution.Proofs.Dialogue.Exchange
import SocketAttribution.Proofs.Hook.Plan
import SocketAttribution.Proofs.Hook.Growth
import SocketAttribution.Proofs.Platform.Admission
import SocketAttribution.Proofs.Hook.Attachment
import SocketAttribution.Proofs.Startup.Negotiation
import SocketAttribution.Proofs.Dialogue.Race
import SocketAttribution.Proofs.Charge.Serialization
import SocketAttribution.Proofs.Table.KernelHash
import SocketAttribution.Proofs.Table.Pinned
import SocketAttribution.Proofs.Dialogue.Course
import SocketAttribution.Proofs.Startup.Loader
import SocketAttribution.Proofs.Startup.Tables
import SocketAttribution.Proofs.Startup.Steps
import SocketAttribution.Proofs.Startup.AllOrNothing
import SocketAttribution.Proofs.Path.Spelling
import SocketAttribution.Proofs.Platform.Rules
import SocketAttribution.Proofs.Hook.FailFast
import SocketAttribution.Proofs.Platform.Seamless
import SocketAttribution.Proofs.Charge.LiveCount
import SocketAttribution.Proofs.Dialogue.Alike
import SocketAttribution.Proofs.Charge.PermissionBit
import SocketAttribution.Proofs.Charge.QuotaMonotone
import SocketAttribution.Proofs.Dialogue.Record
import SocketAttribution.Proofs.Charge.LogTrail
import SocketAttribution.Proofs.Startup.OpeningOrder
import SocketAttribution.Proofs.Charge.Margin
import SocketAttribution.Proofs.Text.Numeral
import SocketAttribution.Proofs.Text.Trim
import SocketAttribution.Proofs.Charge.TagNumeral
import SocketAttribution.Proofs.Platform.Release
import SocketAttribution.Proofs.Platform.VersionText
import SocketAttribution.Proofs.Path.Respelling
import SocketAttribution.Proofs.Platform.CanonicalMount
import SocketAttribution.Proofs.Startup.Deadline
