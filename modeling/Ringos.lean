import Ringos.Core.Slots
import Ringos.Core.Transition
import Ringos.Core.ByteMemory
import Ringos.Core.WaitGraph
import Ringos.Core.Attempt
import Ringos.Kernel.Types
import Ringos.Kernel.AddressSpace
import Ringos.Kernel.ObjectPool
import Ringos.Kernel.Thread
import Ringos.Kernel.Runtime
import Ringos.Kernel.Rpc
import Ringos.Kernel.Syscall
import Ringos.Kernel.Frames
import Ringos.Kernel.Outcome
import Ringos.Kernel.WellFormed
import Ringos.Scheduler.Abstract
import Ringos.Scheduler.Invariant
import Ringos.Scheduler.Refinement
import Ringos.Scheduler.Runs
import Ringos.Calls.Order
import Ringos.Calls.Confinement
import Ringos.Calls.Binding
import Ringos.Emulator.State
import Ringos.Emulator.Accessors
import Ringos.Emulator.Decoder
import Ringos.Emulator.AluInstructions
import Ringos.Emulator.DataMovementInstructions
import Ringos.Emulator.SimdInstructions
import Ringos.Emulator.ControlFlowInstructions
import Ringos.Emulator.Interpreter
import Ringos.Emulator.Effects
import Ringos.Emulator.AccessorEffects
import Ringos.Emulator.DecoderEffects
import Ringos.Emulator.HandlerEffects
import Ringos.Emulator.ControlFlowEffects
import Ringos.Emulator.Step
import Ringos.Emulator.Runs
import Ringos.Emulator.Faults
import Ringos.Emulator.Sandbox
import Ringos.Arch.EmulatorThread
import Ringos.Arch.GuestEndings
import Ringos.Emulator.Results
import Ringos.Emulator.Composition
import Ringos.Emulator.Lockstep
import Ringos.Emulator.Splitting
import Ringos.Arch.X64Trap
import Ringos.Arch.Arm64Trap
import Ringos.Arch.ServerEntry
import Ringos.Scheduler.Exits
import Ringos.Calls.Exits
import Ringos.Calls.Handles
import Ringos.Calls.Ownership
import Ringos.Calls.Failures
import Ringos.Calls.UserStrings
import Ringos.Calls.Names
import Ringos.Calls.TornWrites
import Ringos.Calls.UserRanges
import Ringos.Calls.UserCopies
import Ringos.Arch.TrapReturn
import Ringos.Arch.SelfCalls
import Ringos.Arch.RequestDelivery
import Ringos.Calls.Switching
import Ringos.Arch.Outstanding
import Ringos.Arch.OutstandingSteps
import Ringos.Arch.OwnStatus
import Ringos.Arch.HeldTraps
import Ringos.Arch.CalleeSaved
import Ringos.Arch.NonvolatileRegisters
import Ringos.Image.PeImage
import Ringos.Image.LoaderBounds
import Ringos.Image.X64Pe64Image
import Ringos.Image.X64Win32Emulation
import Ringos.Arch.ProcessImage
import Ringos.Services.Terminal
import Ringos.Libc.Arguments
import Ringos.Libc.Printing
import Ringos.Core.StatusFlags
import Ringos.Emulator.Flags
import Ringos.Emulator.Outcomes
import Ringos.Emulator.IntegerSemantics
import Ringos.Emulator.IntegerEffects
import Ringos.Emulator.IntegerHandlers
import Ringos.Emulator.RipRelative
import Ringos.Emulator.Accuracy
import Ringos.Image.ImportBinding
import Ringos.Emulator.ImportStubs
import Ringos.Emulator.ImportCalls
import Ringos.Image.ImageLayout
import Ringos.Core.WordParts
import Ringos.Emulator.ByteInstructions
import Ringos.Emulator.ByteFlags
import Ringos.Emulator.ByteRegisters
import Ringos.Emulator.OperandDecoders
import Ringos.Image.ImportBounds
import Ringos.Image.ImportTables
import Ringos.Image.ImportNumbering
import Ringos.Emulator.Endings
import Ringos.Emulator.OperandSizes
import Ringos.Emulator.SizedHandlers
import Ringos.Emulator.OperandPrefixes
import Ringos.Libc.Numbers
import Ringos.Libc.Truncation
import Ringos.Emulator.PrefixGrammar
import Ringos.Emulator.OtherFlags
import Ringos.Core.Lanes
import Ringos.Emulator.SimdSemantics
import Ringos.Emulator.SimdEffects
import Ringos.Core.PageWalk
import Ringos.Image.LoadedBytes
import Ringos.Arch.InitialRuntime
import Ringos.Arch.X64PageTables
import Ringos.Arch.X64Boot
import Ringos.Arch.X64Isolation
import Ringos.Core.Transfers
import Ringos.Arch.X64TrapCode
import Ringos.Arch.Arm64TrapCode
import Ringos.Arch.SyscallStubs
import Ringos.Arch.Arm64TranslationTables
import Ringos.Arch.Arm64Boot
import Ringos.Arch.Arm64Isolation
import Ringos.Arch.BootedDelivery
import Ringos.Arch.GuestRuns
import Ringos.Arch.GuestSelfCalls
