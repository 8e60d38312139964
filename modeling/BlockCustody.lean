import BlockCustody.Bytes.LittleEndian
import BlockCustody.Calendar.CivilDate
import BlockCustody.Calendar.Instant
import BlockCustody.Calendar.TimestampText
import BlockCustody.Collections.KeyedMap
import BlockCustody.Compression.Compressor
import BlockCustody.Compression.Zstandard.Bits
import BlockCustody.Compression.Zstandard.Block
import BlockCustody.Compression.Zstandard.Codes
import BlockCustody.Compression.Zstandard.Early.Format
import BlockCustody.Compression.Zstandard.Early.Frame
import BlockCustody.Compression.Zstandard.Early.Literals
import BlockCustody.Compression.Zstandard.Early.Sequences
import BlockCustody.Compression.Zstandard.Early.SpilledLengths
import BlockCustody.Compression.Zstandard.Frame
import BlockCustody.Compression.Zstandard.History
import BlockCustody.Compression.Zstandard.Literals
import BlockCustody.Compression.Zstandard.PrefixCode
import BlockCustody.Compression.Zstandard.PrefixStreams
import BlockCustody.Compression.Zstandard.Sequences
import BlockCustody.Compression.Zstandard.StateTable
import BlockCustody.Compression.Zstandard.Stream
import BlockCustody.Compression.Zstandard.Writer
import BlockCustody.Compression.Zstandard.Writing.CodeLengths
import BlockCustody.Compression.Zstandard.Writing.CodeWords
import BlockCustody.Compression.Zstandard.Writing.CodedLiterals
import BlockCustody.Compression.Zstandard.Writing.CodedSequences
import BlockCustody.Compression.Zstandard.Writing.Distribution
import BlockCustody.Compression.Zstandard.Writing.DoubleSearch
import BlockCustody.Compression.Zstandard.Writing.Effort
import BlockCustody.Compression.Zstandard.Writing.Fields
import BlockCustody.Compression.Zstandard.Writing.Matches
import BlockCustody.Compression.Zstandard.Writing.PatientSearch
import BlockCustody.Compression.Zstandard.Writing.States
import BlockCustody.Compression.Zstandard.Writing.SteppedSearch
import BlockCustody.Config.Settings
import BlockCustody.Config.Text
import BlockCustody.Content.Id
import BlockCustody.Decimal.Layout
import BlockCustody.Decimal.Shortest
import BlockCustody.Digest.Blake2b
import BlockCustody.Digest.Blake3
import BlockCustody.Digest.XxHash64
import BlockCustody.Evidence.Calendar
import BlockCustody.Exchange.Book
import BlockCustody.Exchange.Contract
import BlockCustody.Json.Fault
import BlockCustody.Json.Number
import BlockCustody.Json.Quoted
import BlockCustody.Json.Record
import BlockCustody.Json.Skip
import BlockCustody.Json.Typed
import BlockCustody.Key.Argon2id
import BlockCustody.Key.Derivation
import BlockCustody.Ledger.Audit
import BlockCustody.Ledger.Basic
import BlockCustody.Ledger.Snapshot
import BlockCustody.Main
import BlockCustody.Node.Startup
import BlockCustody.Package.Basic
import BlockCustody.Peer.Id
import BlockCustody.Proofs.Calendar.CivilDate
import BlockCustody.Proofs.Calendar.Hours
import BlockCustody.Proofs.Calendar.TimestampText
import BlockCustody.Proofs.Collections.KeyedMap
import BlockCustody.Proofs.Evidence.Calendar
import BlockCustody.Proofs.Ledger.Addition
import BlockCustody.Proofs.Ledger.Audit
import BlockCustody.Proofs.Ledger.BeforeStart
import BlockCustody.Proofs.Ledger.Coverage
import BlockCustody.Proofs.Ledger.History
import BlockCustody.Proofs.Ledger.Questions
import BlockCustody.Proofs.Ledger.Snapshot
import BlockCustody.Proofs.Package.Additions
import BlockCustody.Proofs.Package.WrittenForm
import BlockCustody.Proofs.Reading.ReadsBack
import BlockCustody.Proofs.Sealing.Opening
import BlockCustody.Proofs.Snapshot.Restoring
import BlockCustody.Proofs.Text.Hex
import BlockCustody.Proofs.Text.Utf8
import BlockCustody.Reading.FrontReader
import BlockCustody.Replication.Tracker
import BlockCustody.Salt.Stream
import BlockCustody.Sealing.ChaCha20
import BlockCustody.Sealing.Poly1305
import BlockCustody.Sealing.SealedBytes
import BlockCustody.Shards.Snapshot
import BlockCustody.Shards.Store
import BlockCustody.Snapshot.Envelope
import BlockCustody.Snapshot.Format
import BlockCustody.Text.Escape
import BlockCustody.Text.Hex
import BlockCustody.Text.Invisible
import BlockCustody.Text.Utf8
import BlockCustody.Upload.Debounce
import BlockCustody.Wire.Message
import BlockCustody.Wire.Text
import BlockCustody.Proofs.Exchange.Contract
import BlockCustody.Proofs.Exchange.Lead
import BlockCustody.Proofs.Exchange.Book
import BlockCustody.Proofs.Ledger.Contents
import BlockCustody.Proofs.Ledger.Persistence
import BlockCustody.Proofs.Replication.History
import BlockCustody.Proofs.Replication.Knowledge
import BlockCustody.Proofs.Ledger.Salts
import BlockCustody.Proofs.Shards.Rows
import BlockCustody.Proofs.Shards.History
import BlockCustody.Proofs.Shards.Holdings
import BlockCustody.Proofs.Upload.Unfolding
import BlockCustody.Proofs.Upload.Invariant
import BlockCustody.Proofs.Upload.Schedule
import BlockCustody.Proofs.Ledger.OtherHours
import BlockCustody.Proofs.Reading.Steady
import BlockCustody.Proofs.Snapshot.SelfDelimiting
import BlockCustody.Proofs.Node.SnapshotEnds
import BlockCustody.Proofs.Snapshot.AnyOrder
import BlockCustody.Proofs.Replication.Snapshot
import BlockCustody.Proofs.Exchange.Snapshot
import BlockCustody.Proofs.Node.SnapshotForms
import BlockCustody.Proofs.Json.TextOf
import BlockCustody.Proofs.Json.Scalars
import BlockCustody.Proofs.Json.Composite
import BlockCustody.Proofs.Wire.Text
import BlockCustody.Proofs.Content.Collision
import BlockCustody.Proofs.Shards.Rot
import BlockCustody.Proofs.Calendar.TopOfHour
import BlockCustody.Proofs.Evidence.ClockHours
import BlockCustody.Proofs.Ledger.Registration
import BlockCustody.Proofs.Package.Layout
import BlockCustody.Proofs.Sealing.ExactForm
import BlockCustody.Proofs.Package.Repackaging
import BlockCustody.Proofs.Collections.KeySet
import BlockCustody.Proofs.Replication.Deployment
import BlockCustody.Proofs.Exchange.Capacity
import BlockCustody.Proofs.Exchange.Refusal
import BlockCustody.Proofs.Exchange.Standstill
import BlockCustody.Proofs.Exchange.BothEnds
import BlockCustody.Proofs.Node.Startup
import BlockCustody.Proofs.Text.HexReading
import BlockCustody.Proofs.Content.Id
import BlockCustody.Proofs.Json.Grammar
import BlockCustody.Proofs.Json.Blanks
import BlockCustody.Proofs.Json.Skipping
import BlockCustody.Proofs.Json.Members
import BlockCustody.Proofs.Json.Slots
import BlockCustody.Proofs.Config.Named
import BlockCustody.Proofs.Config.Overlay
