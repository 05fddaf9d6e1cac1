import RegisterMap.Bus.Injection
import RegisterMap.CommandLine.Report
import RegisterMap.Device.Array
import RegisterMap.Device.Memory
import RegisterMap.Json.Decode
import RegisterMap.Main
import RegisterMap.Proofs.Bits.Packing
import RegisterMap.Proofs.Bits.Words
import RegisterMap.Proofs.Bus.AddressSpace
import RegisterMap.Proofs.Bus.Calls
import RegisterMap.Proofs.Bus.Cells
import RegisterMap.Proofs.Bus.Contents
import RegisterMap.Proofs.Bus.Entries
import RegisterMap.Proofs.Bus.Plans
import RegisterMap.Proofs.Bus.Refusals
import RegisterMap.Proofs.Bus.Runs
import RegisterMap.Proofs.Bus.Suspended
import RegisterMap.Proofs.Device.AccessRights
import RegisterMap.Proofs.Device.ArrayElements
import RegisterMap.Proofs.Device.Asynchronous
import RegisterMap.Proofs.Device.BlockAccess
import RegisterMap.Proofs.Device.CachedSessions
import RegisterMap.Proofs.Device.ElementLocks
import RegisterMap.Proofs.Device.ElementSessions
import RegisterMap.Proofs.Device.FailedWrites
import RegisterMap.Proofs.Device.FieldHandles
import RegisterMap.Proofs.Device.FieldWrites
import RegisterMap.Proofs.Device.FittingValues
import RegisterMap.Proofs.Device.Flavours
import RegisterMap.Proofs.Device.Footprints
import RegisterMap.Proofs.Device.Handles
import RegisterMap.Proofs.Device.IndexedArrays
import RegisterMap.Proofs.Device.MemoryBits
import RegisterMap.Proofs.Device.MemoryBounds
import RegisterMap.Proofs.Device.MemoryContents
import RegisterMap.Proofs.Device.Programs
import RegisterMap.Proofs.Device.RegisterContents
import RegisterMap.Proofs.Device.Relations
import RegisterMap.Proofs.Device.Requests
import RegisterMap.Proofs.Device.VerifiedSessions
import RegisterMap.Proofs.Export.AnyOrder
import RegisterMap.Proofs.Export.Closure
import RegisterMap.Proofs.Export.Completeness
import RegisterMap.Proofs.Export.Decided
import RegisterMap.Proofs.Export.Deletion
import RegisterMap.Proofs.Export.Documentation
import RegisterMap.Proofs.Export.Faults
import RegisterMap.Proofs.Export.HashInput
import RegisterMap.Proofs.Export.Height
import RegisterMap.Proofs.Export.Identifiers
import RegisterMap.Proofs.Export.Likeness
import RegisterMap.Proofs.Export.LowercaseNames
import RegisterMap.Proofs.Export.Memory
import RegisterMap.Proofs.Export.NameMismatch
import RegisterMap.Proofs.Export.Names
import RegisterMap.Proofs.Export.Outcomes
import RegisterMap.Proofs.Export.PlanOrder
import RegisterMap.Proofs.Export.Position
import RegisterMap.Proofs.Export.Pruning
import RegisterMap.Proofs.Export.Recursion
import RegisterMap.Proofs.Export.RegisterHash
import RegisterMap.Proofs.Export.Screen
import RegisterMap.Proofs.Export.Sharing
import RegisterMap.Proofs.Export.Simulation
import RegisterMap.Proofs.Export.SizedInput
import RegisterMap.Proofs.Export.TypeNames
import RegisterMap.Proofs.Export.TypeView
import RegisterMap.Proofs.Export.Variants
import RegisterMap.Proofs.Export.Walk
import RegisterMap.Proofs.Field.Arithmetic
import RegisterMap.Proofs.Field.Codec
import RegisterMap.Proofs.Field.Enumerated
import RegisterMap.Proofs.Field.Placement
import RegisterMap.Proofs.Index.RowMajor
import RegisterMap.Proofs.Json.Writing
import RegisterMap.Proofs.Overflow
import RegisterMap.Proofs.Results
import RegisterMap.Proofs.Session.Interleaving
import RegisterMap.Proofs.Session.Locks
import RegisterMap.Proofs.Source.Comments
import RegisterMap.Proofs.Source.ConfigurationLists
import RegisterMap.Proofs.Source.Declarations
import RegisterMap.Proofs.Source.Demonstration
import RegisterMap.Proofs.Source.Descent
import RegisterMap.Proofs.Source.Literals
import RegisterMap.Proofs.Source.Members
import RegisterMap.Proofs.Source.ModelNumbers
import RegisterMap.Proofs.Source.Numbers
import RegisterMap.Proofs.Source.Rendered
import RegisterMap.Proofs.Source.ResetState
import RegisterMap.Proofs.Source.Restricted
import RegisterMap.Proofs.Source.Sites
import RegisterMap.Proofs.Source.TestFiles
import RegisterMap.Proofs.Source.TestLines
import RegisterMap.Proofs.Source.TestNumbers
import RegisterMap.Proofs.Source.Texts
import RegisterMap.Proofs.Source.Traces
import RegisterMap.Proofs.Source.Unshared
import RegisterMap.Proofs.Tree.Acceptance
import RegisterMap.Proofs.Tree.AddressMaps
import RegisterMap.Proofs.Tree.Addresses
import RegisterMap.Proofs.Tree.BitNumbers
import RegisterMap.Proofs.Tree.Contents
import RegisterMap.Proofs.Tree.Entries
import RegisterMap.Proofs.Tree.Order
import RegisterMap.Proofs.Tree.Paths
import RegisterMap.Proofs.Tree.Registers
import RegisterMap.Proofs.Tree.Restriction
import RegisterMap.Proofs.Tree.Sizes
import RegisterMap.Session.Script
import RegisterMap.Source.Report
