import AdventureVm.Address
import AdventureVm.Assembly.Basic
import AdventureVm.Assembly.Link
import AdventureVm.Assembly.Statement
import AdventureVm.Bytes
import AdventureVm.ClassTable
import AdventureVm.Collector.Mark
import AdventureVm.Collector.Reachable
import AdventureVm.Collector.Sweep
import AdventureVm.Collector.Worklist
import AdventureVm.Command
import AdventureVm.Command.Arguments
import AdventureVm.Definition.Basic
import AdventureVm.Definition.Build
import AdventureVm.Definition.Sci0
import AdventureVm.Definition.Sci11
import AdventureVm.Fault
import AdventureVm.Format
import AdventureVm.Instruction.Decode
import AdventureVm.Instruction.Operation
import AdventureVm.Instruction.Variable
import AdventureVm.Journal
import AdventureVm.Kernel.Arguments
import AdventureVm.Kernel.Builtin
import AdventureVm.Kernel.Bytes
import AdventureVm.Kernel.Host
import AdventureVm.Kernel.Lists
import AdventureVm.Kernel.Objects
import AdventureVm.Kernel.Table
import AdventureVm.Logged
import AdventureVm.Machine.Arithmetic
import AdventureVm.Machine.Basic
import AdventureVm.Machine.Calls
import AdventureVm.Machine.Config
import AdventureVm.Machine.Context
import AdventureVm.Machine.Entry
import AdventureVm.Machine.Frames
import AdventureVm.Machine.Messages
import AdventureVm.Machine.Run
import AdventureVm.Machine.Scripts
import AdventureVm.Machine.Stack
import AdventureVm.Machine.Step
import AdventureVm.Machine.Stop
import AdventureVm.Machine.Variables
import AdventureVm.Main
import AdventureVm.Memory.Block
import AdventureVm.Memory.Heap
import AdventureVm.Memory.Lookup
import AdventureVm.Memory.Objects
import AdventureVm.Memory.Pool
import AdventureVm.Memory.Records
import AdventureVm.Memory.Residency
import AdventureVm.Memory.Segment
import AdventureVm.Memory.SegmentKind
import AdventureVm.Memory.Store
import AdventureVm.Memory.View
import AdventureVm.Object.Basic
import AdventureVm.Object.Parse
import AdventureVm.Proofs.Assembly.Agreement
import AdventureVm.Proofs.Assembly.Emitting
import AdventureVm.Proofs.Assembly.Linking
import AdventureVm.Proofs.Collector.Entities
import AdventureVm.Proofs.Collector.Exactness
import AdventureVm.Proofs.Collector.Histories
import AdventureVm.Proofs.Collector.Marking
import AdventureVm.Proofs.Collector.Reach
import AdventureVm.Proofs.Collector.Survivors
import AdventureVm.Proofs.Collector.Sweeping
import AdventureVm.Proofs.Kernel.TextCopies
import AdventureVm.Proofs.Kernel.TextOrder
import AdventureVm.Proofs.Lists.Calls
import AdventureVm.Proofs.Lists.Failing
import AdventureVm.Proofs.Lists.Families
import AdventureVm.Proofs.Lists.Gathered
import AdventureVm.Proofs.Lists.Linking
import AdventureVm.Proofs.Lists.Links
import AdventureVm.Proofs.Lists.Refinement
import AdventureVm.Proofs.Lists.Sequences
import AdventureVm.Proofs.Lists.Trails
import AdventureVm.Proofs.Lists.Traversal
import AdventureVm.Proofs.Loader.Continuing
import AdventureVm.Proofs.Loader.Hexadecimal
import AdventureVm.Proofs.Loader.Listings
import AdventureVm.Proofs.Loader.Reading
import AdventureVm.Proofs.Loader.Records
import AdventureVm.Proofs.Loader.Variables
import AdventureVm.Proofs.Loader.Walks
import AdventureVm.Proofs.Loader.WellFormed
import AdventureVm.Proofs.Locks.Accounting
import AdventureVm.Proofs.Locks.Books
import AdventureVm.Proofs.Locks.Courses
import AdventureVm.Proofs.Locks.Instantiate
import AdventureVm.Proofs.Locks.Refusal
import AdventureVm.Proofs.Locks.Release
import AdventureVm.Proofs.Locks.Returned
import AdventureVm.Proofs.Locks.Termination
import AdventureVm.Proofs.Locks.Turns
import AdventureVm.Proofs.Locks.Undoing
import AdventureVm.Proofs.Locks.Watched
import AdventureVm.Proofs.Machine.Branching
import AdventureVm.Proofs.Machine.Calling
import AdventureVm.Proofs.Machine.Composition
import AdventureVm.Proofs.Machine.Concluding
import AdventureVm.Proofs.Machine.Decoding
import AdventureVm.Proofs.Machine.Forwarding
import AdventureVm.Proofs.Machine.Instructions
import AdventureVm.Proofs.Machine.Lasting
import AdventureVm.Proofs.Machine.LiveCode
import AdventureVm.Proofs.Machine.LiveFrames
import AdventureVm.Proofs.Machine.Loosening
import AdventureVm.Proofs.Machine.Noticing
import AdventureVm.Proofs.Machine.Outcomes
import AdventureVm.Proofs.Machine.Proceeding
import AdventureVm.Proofs.Machine.PropertyMessages
import AdventureVm.Proofs.Machine.Receiving
import AdventureVm.Proofs.Machine.Reentry
import AdventureVm.Proofs.Machine.Restoring
import AdventureVm.Proofs.Machine.Returning
import AdventureVm.Proofs.Machine.Running
import AdventureVm.Proofs.Machine.Sending
import AdventureVm.Proofs.Machine.StackBounds
import AdventureVm.Proofs.Machine.Steady
import AdventureVm.Proofs.Machine.VariableAddresses
import AdventureVm.Proofs.Machine.Waiting
import AdventureVm.Proofs.Memory.Builtins
import AdventureVm.Proofs.Memory.Chains
import AdventureVm.Proofs.Memory.Classes
import AdventureVm.Proofs.Memory.Cloning
import AdventureVm.Proofs.Memory.Consistency
import AdventureVm.Proofs.Memory.Developing
import AdventureVm.Proofs.Memory.Enduring
import AdventureVm.Proofs.Memory.Genuine
import AdventureVm.Proofs.Memory.Grounded
import AdventureVm.Proofs.Memory.InPlace
import AdventureVm.Proofs.Memory.Indifference
import AdventureVm.Proofs.Memory.Loading
import AdventureVm.Proofs.Memory.Locking
import AdventureVm.Proofs.Memory.Occupancy
import AdventureVm.Proofs.Memory.Operations
import AdventureVm.Proofs.Memory.Outcomes
import AdventureVm.Proofs.Memory.Overwriting
import AdventureVm.Proofs.Memory.Places
import AdventureVm.Proofs.Memory.Positions
import AdventureVm.Proofs.Memory.Residents
import AdventureVm.Proofs.Memory.Retraction
import AdventureVm.Proofs.Memory.Segments
import AdventureVm.Proofs.Memory.Slots
import AdventureVm.Proofs.Memory.Sound
import AdventureVm.Proofs.Memory.Spacing
import AdventureVm.Proofs.Memory.Spared
import AdventureVm.Proofs.Memory.Spots
import AdventureVm.Proofs.Memory.Steady
import AdventureVm.Proofs.Memory.Stranding
import AdventureVm.Proofs.Memory.Tables
import AdventureVm.Proofs.Memory.Tidy
import AdventureVm.Proofs.Memory.Twins
import AdventureVm.Proofs.Memory.Vacancies
import AdventureVm.Proofs.Memory.Validity
import AdventureVm.Proofs.RoundTrip.Acceptance
import AdventureVm.Proofs.RoundTrip.Blocks
import AdventureVm.Proofs.RoundTrip.Dispatch
import AdventureVm.Proofs.RoundTrip.Drafts
import AdventureVm.Proofs.RoundTrip.Housing
import AdventureVm.Proofs.RoundTrip.Identity
import AdventureVm.Proofs.RoundTrip.Layout
import AdventureVm.Proofs.RoundTrip.Relocation
import AdventureVm.Proofs.RoundTrip.Restored
import AdventureVm.Proofs.RoundTrip.Sci0
import AdventureVm.Proofs.RoundTrip.Sci11
import AdventureVm.Proofs.RoundTrip.Shifting
import AdventureVm.Proofs.RoundTrip.Texts
import AdventureVm.Proofs.RoundTrip.Words
import AdventureVm.Resources
import AdventureVm.Script.Basic
import AdventureVm.Script.Listing
import AdventureVm.Script.Load
import AdventureVm.Script.Outline
import AdventureVm.Text
import AdventureVm.Text.Blank
import AdventureVm.Text.CodeRange
import AdventureVm.Text.Extending
import AdventureVm.Text.Invisible
import AdventureVm.Text.Quoted
import AdventureVm.Text.Unassigned
import AdventureVm.Text.Utf8
