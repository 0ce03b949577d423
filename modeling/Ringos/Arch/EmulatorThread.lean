import Ringos.Kernel.Syscall
import Ringos.Emulator.Interpreter

/-!
# Running an emulated thread on arm64

The arm64 platform runs the thread of an x64 process in the emulator, over the
large-page aligned part of the process storage, and answers its syscalls from
the runtime. What comes back from the emulator is sorted into a normal return,
the termination of the thread, and panics, which carry their text.
-/

namespace Ringos.Arch

open Ringos.Core Ringos.Kernel Ringos.Emulator

/-- `X64_USER_IMAGE_VIRTUAL_ADDRESS`. -/
def x64UserImageVirtualAddress : UInt64 := 0x400000
/-- `X64_USER_REGION_SIZE`: eight image pages, the stack page and the device page. -/
def x64UserRegionSize : UInt64 := (8 + 2) * 4096
/-- `X64_EMULATOR_INSTRUCTION_BUDGET`. -/
def x64EmulatorInstructionBudget : UInt64 := 512
/-- `LARGE_PAGE_SIZE`. -/
def largePageSize : UInt64 := 0x200000

-- Literals index the sixteen registers of the guest.
instance instNeZeroGeneralRegisters : NeZero 16 := ⟨by decide⟩

/-- `arm64_process_storage`, less its translation tables. The array `user_region_storage` of two
large pages is given by its host address, which is not null and leaves room for it. -/
structure ProcessStorage where
  userRegionStorage : UInt64
  x64GuestState : EmulatorState
  nonnull : userRegionStorage ≠ 0
  fits : userRegionStorage.toNat + 2 * largePageSize.toNat ≤ 2 ^ 64

/-- `align_up`. -/
def alignUp (value alignment : UInt64) : UInt64 :=
  (value + (alignment - 1)) &&& ~~~(alignment - 1)

/-- `get_user_region`. -/
def getUserRegion (storage : ProcessStorage) : UInt64 :=
  alignUp storage.userRegionStorage largePageSize

section ThreadState

/-- The quadword that the `memcpy` from `simd_registers[6]` on puts at an index. -/
def preservedSimdQword (state : EmulatorState) (index : Fin archPreservedSimdQwordCount) :
    UInt64 :=
  let register := state.simdRegisters.get ⟨6 + index.val / 2, by grind⟩
  ofLittleEndian ((register.toList.drop (8 * (index.val % 2))).take 8)

/-- The SIMD registers after the `memcpy` to `simd_registers[6]` on. -/
def restoredSimdRegisters (state : EmulatorState) (qwords : PreservedSimdQwords) :
    Vector SimdRegister 16 :=
  Vector.ofFn fun register => if h : 6 ≤ register.val then
      Vector.ofFn fun byte : Fin 16 =>
        (qwords ⟨2 * (register.val - 6) + byte.val / 8, by grind⟩ >>>
          (8 * (byte.val % 8)).toUInt64).toUInt8
    else state.simdRegisters.get register

/-- `store_x64_emulator_preserved_state`: RSI, RDI, RBX, RBP and R12 to R15 go to the first
eight slots. -/
def storeX64EmulatorPreservedState (state : EmulatorState) (thread : Thread) : Thread :=
  let registers := state.generalRegisters
  thread.setArchPreserved
    (fun
      | 0 => registers[6]
      | 1 => registers[7]
      | 2 => registers[3]
      | 3 => registers[5]
      | 4 => registers[12]
      | 5 => registers[13]
      | 6 => registers[14]
      | 7 => registers[15]
      | slot => thread.archPreservedRegisters slot)
    (preservedSimdQword state)

/-- `load_x64_emulator_resume_state`: RAX gets the status, RDI and RSI the arguments of an RPC
callback or their preserved values, and RCX, RDX and R8 to R11 stay as the guest left them. -/
def loadX64EmulatorResumeState (state : EmulatorState) (currentThread : Thread) : EmulatorState :=
  let resumeState := currentThread.resumeState
  let preserved := currentThread.archPreservedRegisters
  let registers := state.generalRegisters
  { generalRegisters := #v[
      signExtendStatus resumeState.statusCode,
      registers[1],
      registers[2],
      preserved 2,
      resumeState.stackPointer,
      preserved 3,
      if resumeState.kind = .rpc then resumeState.argument1 else preserved 0,
      if resumeState.kind = .rpc then resumeState.argument0 else preserved 1,
      registers[8],
      registers[9],
      registers[10],
      registers[11],
      preserved 4,
      preserved 5,
      preserved 6,
      preserved 7]
    simdRegisters := restoredSimdRegisters state currentThread.archPreservedSimdQwords
    instructionPointer := resumeState.instructionPointer
    flags := resumeState.flags }

end ThreadState

/-- The `make_user_syscall_context` call of `dispatch_x64_syscall`: number in RAX, arguments in
RDI, RSI, RDX, R10, R8 and R9. -/
def x64SyscallContext (state : EmulatorState) : UserSyscallContext where
  syscallNumber := state.generalRegisters[0]
  trapInstructionPointer := state.instructionPointer
  stackPointer := state.generalRegisters[4]
  trapFlags := state.flags
  argument0 := state.generalRegisters[7]
  argument1 := state.generalRegisters[6]
  argument2 := state.generalRegisters[2]
  argument3 := state.generalRegisters[10]
  argument4 := state.generalRegisters[8]
  argument5 := state.generalRegisters[9]

/-- `dispatch_x64_syscall`. Its context pointer is always the runtime, so the null check has no
counterpart. -/
def dispatchX64Syscall (state : EmulatorState) (runtime : UserRuntime) :
    SyscallResult × UserRuntime :=
  match runtime.currentThread with
  | none => (⟨Status.badState, .exitThread⟩, runtime)
  | some currentThread =>
    let (syscallStatus, after) :=
      (runtime.modifyThread currentThread (storeX64EmulatorPreservedState state)).dispatchSyscall
        .arm64 (x64SyscallContext state)
    if after.currentThread = some currentThread then
      let prepared :=
        after.modifyThread currentThread (Thread.prepareSyscallResume .arm64 syscallStatus)
      (⟨(prepared.thread currentThread).pendingSyscallStatus, .continueRun⟩, prepared)
    else if (after.thread currentThread).state = .exited then (⟨syscallStatus, .exitThread⟩, after)
    else (⟨syscallStatus, .yield⟩, after)

/-- The runtime over the memory that the emulator has been writing. -/
def withMemory (runtime : UserRuntime) (host : ByteMemory) : UserRuntime :=
  { runtime with memory := host }

/-- The callbacks of an emulated thread. While the guest runs, memory is the emulator's. -/
def emulatorCallbacks : Callbacks UserRuntime where
  handleSyscall := some fun state host runtime =>
    let (answer, after) := dispatchX64Syscall state (withMemory runtime host)
    (answer, after.memory, after)

/-- `get_x64_emulator_guest_fault_status`. -/
def getX64EmulatorGuestFaultStatus (result : EmulatorResult) : Int32 :=
  match result.guestStopReason with
  | .invalidMemoryAccess => Status.fault
  | .unsupportedInstruction => Status.notSupported
  | .none | .threadExited | .yielded => Status.badState

/-- `is_x64_emulator_guest_fault`. -/
def isX64EmulatorGuestFault (result : EmulatorResult) : Bool :=
  result.guestStopReason == .invalidMemoryAccess ||
    result.guestStopReason == .unsupportedInstruction

/-- `describe_x64_emulator_guest_stop_reason`. -/
def describeX64EmulatorGuestStopReason : GuestStopReason → String
  | .none => "x64 emulator stopped without a guest event"
  | .threadExited => "x64 emulator thread exited cleanly"
  | .yielded => "x64 emulator yielded to the kernel scheduler"
  | .invalidMemoryAccess => "x64 emulator touched unmapped guest memory"
  | .unsupportedInstruction => "x64 emulator hit an unsupported instruction"

/-- `describe_x64_emulator_backend_failure`. -/
def describeX64EmulatorBackendFailure : BackendFailure → String
  | .none => "x64 emulator backend did not fail"
  | .instructionLimitReached => "x64 emulator hit the instruction budget"
  | .invalidArgument => "x64 emulator received an invalid argument"
  | .unsupportedEngine => "x64 emulator backend is not implemented"

/-- `append_hex_nibble`. -/
def hexNibble (value : UInt8) : UInt8 :=
  "0123456789abcdef".toUTF8.toList[(value &&& 0xF).toNat]?.getD 0

/-- `append_hex_u64`: sixteen digits, most significant first. -/
def hexU64 (value : UInt64) : List UInt8 :=
  (List.range 16).map fun index => hexNibble (value >>> (60 - 4 * index).toUInt64 &&& 0xF).toUInt8

/-- `debug_log_x64_emulator_fault`. The message has 67 characters, so none of the 112 bytes of
its buffer is short. -/
def debugLogX64EmulatorFault (result : EmulatorResult) (runtime : UserRuntime) : UserRuntime :=
  let message := "x64 fault ip=0x".toUTF8.toList ++ hexU64 result.fault.instructionPointer ++
    " addr=0x".toUTF8.toList ++ hexU64 result.fault.memoryAddress ++
    " opcode=0x".toUTF8.toList ++
    [hexNibble (result.fault.opcode >>> 4), hexNibble result.fault.opcode]
  { runtime with debugLog := runtime.debugLog ++ [message] }

/-- `run_x64_emulator` with its `bool`: it refuses a null result pointer and nothing else. -/
def launchX64Emulator {σ : Type} (hasResult : Bool) (machine : Machine σ)
    (callbacks : Callbacks σ) (options : Options) : Option (ExecutionContext σ) :=
  if hasResult then some (runX64Emulator machine callbacks options) else none

/-- The guest that `run_x64_emulator_thread` hands to the emulator. -/
def guestMachine (runtime : UserRuntime) (storage : ProcessStorage) (currentThread : ThreadRef) :
    Machine UserRuntime where
  memory :=
    { baseAddress := x64UserImageVirtualAddress
      bytes := getUserRegion storage
      size := x64UserRegionSize }
  state := loadX64EmulatorResumeState storage.x64GuestState (runtime.thread currentThread)
  host := runtime.memory
  world := runtime

/-- The options of an emulated thread. -/
def emulatorOptions : Options where
  engine := .interpreter
  instructionBudget := x64EmulatorInstructionBudget

/-- The part of `run_x64_emulator_thread` behind the emulator run; a panic is an error with
its text. -/
def finishX64EmulatorThread (storage : ProcessStorage) (final : ExecutionContext UserRuntime) :
    Except String (ProcessStorage × UserRuntime) :=
  let result := final.result
  let left := { storage with x64GuestState := final.machine.state }
  let after := withMemory final.machine.world final.machine.host
  if result.backendFailure ≠ .none then
    .error (describeX64EmulatorBackendFailure result.backendFailure)
  else if isX64EmulatorGuestFault result then
    let guestFaultStatus := getX64EmulatorGuestFaultStatus result
    .ok (left, ((debugLogX64EmulatorFault result after).terminateCurrentThread .arm64
      (signExtendStatus guestFaultStatus) guestFaultStatus).2)
  else if result.guestStopReason ≠ .threadExited ∧ result.guestStopReason ≠ .yielded then
    .error (describeX64EmulatorGuestStopReason result.guestStopReason)
  else .ok (left, after)

/-- `run_x64_emulator_thread`. -/
def runX64EmulatorThread (runtime : UserRuntime) (storage : ProcessStorage)
    (currentThread : ThreadRef) : Except String (ProcessStorage × UserRuntime) :=
  match launchX64Emulator true (guestMachine runtime storage currentThread) emulatorCallbacks
      emulatorOptions with
  | none => .error "arm64 failed to launch the x64 emulator backend"
  | some final => finishX64EmulatorThread storage final

end Ringos.Arch
