import CompiledModule.ByteOrder
import CompiledModule.ByteOrder.Lemmas
import CompiledModule.EmbeddedFile
import CompiledModule.Error
import CompiledModule.Error.Dump
import CompiledModule.Error.Message
import CompiledModule.FieldParser
import CompiledModule.FileTree
import CompiledModule.FirstIndex
import CompiledModule.Header
import CompiledModule.IdTable
import CompiledModule.Image
import CompiledModule.Inspect
import CompiledModule.Layout.Block
import CompiledModule.Layout.Measure
import CompiledModule.Layout.Recorder
import CompiledModule.Layout.Walk
import CompiledModule.LoadOptions
import CompiledModule.LoadedModule
import CompiledModule.Loader
import CompiledModule.Phase
import CompiledModule.Procedure
import CompiledModule.Reader
import CompiledModule.Record
import CompiledModule.Section
import CompiledModule.Size
import CompiledModule.SourceListing
import CompiledModule.Stream
import CompiledModule.StringPool
import CompiledModule.SystemCall
import CompiledModule.Text.Numeral
import CompiledModule.Text.Quoted
import CompiledModule.Text.Utf8
import CompiledModule.Text.Visible
import CompiledModule.TypeDescriptor
import CompiledModule.Variable
import CompiledModule.Main
import CompiledModule.Proofs.Layout.WalkAlike
import CompiledModule.Proofs.Degradation
import CompiledModule.Proofs.HostOrder
import CompiledModule.Proofs.Layout.DeclaredSize
import CompiledModule.Proofs.Layout.SizeCache
import CompiledModule.Proofs.Layout.Remembering
import CompiledModule.Proofs.Layout.History
import CompiledModule.Proofs.Layout.ExactSize
import CompiledModule.Proofs.Layout.ExactMeasure
import CompiledModule.Proofs.Layout.Reversal
import CompiledModule.Proofs.Layout.Shown
import CompiledModule.Proofs.Layout.Conversion
import CompiledModule.Proofs.Layout.Expansion
import CompiledModule.Proofs.Layout.Showing
import CompiledModule.Proofs.Layout.Sequence
import CompiledModule.Proofs.Layout.Visited
import CompiledModule.Proofs.Layout.Acceptance
import CompiledModule.Proofs.Reading.Alone
import CompiledModule.Proofs.Reading.Apart
import CompiledModule.Proofs.Reading.Enclosed
import CompiledModule.Proofs.RoundTrip.Fields
import CompiledModule.Proofs.RoundTrip.Placed
import CompiledModule.Proofs.RoundTrip.Layout
import CompiledModule.Proofs.RoundTrip.Sections
import CompiledModule.Proofs.RoundTrip.Procedures
import CompiledModule.Proofs.RoundTrip.Strings
import CompiledModule.Proofs.RoundTrip.Image
import CompiledModule.Proofs.Safety.Guarded
import CompiledModule.Proofs.Safety.Layout
import CompiledModule.Proofs.Safety.Reading
import CompiledModule.Proofs.Safety.Indexes
import CompiledModule.Proofs.Safety.Sections
import CompiledModule.Proofs.Safety.Load
import CompiledModule.Proofs.Lookup.FirstPosition
import CompiledModule.Proofs.Reading.Results
import CompiledModule.Proofs.Lookup.Resolution
import CompiledModule.Proofs.Reading.Stored
import CompiledModule.Proofs.Lookup.Registry
import CompiledModule.Proofs.RoundTrip.Tiling
import CompiledModule.Proofs.RoundTrip.Truncation
import CompiledModule.Proofs.Failing.Steps
import CompiledModule.Proofs.Failing.Course
import CompiledModule.Proofs.Failing.Placement
import CompiledModule.Proofs.Failing.Refusals
import CompiledModule.Proofs.Lookup.Relocation
import CompiledModule.Proofs.Reading.Shaped
import CompiledModule.Proofs.Layout.Effort
import CompiledModule.Proofs.Layout.Containment
import CompiledModule.Proofs.RoundTrip.WrittenForm
import CompiledModule.Proofs.Reading.Entries
import CompiledModule.Proofs.Reading.Cursor
import CompiledModule.Proofs.Layout.ArrayType
import CompiledModule.Proofs.Layout.Editing
import CompiledModule.Proofs.Text.Lines
import CompiledModule.Proofs.Lookup.Names
