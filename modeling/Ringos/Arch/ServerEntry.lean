import Ringos.Arch.X64Trap
import Ringos.Arch.EmulatorThread
import Ringos.Scheduler.Runs

/-!
# Entering the callback of an x64 server

A request is delivered the way the kernel's own architecture wants it: the x64
kernel pushes the completion address, the arm64 kernel leaves it for the link
register. An x64 server under the arm64 kernel's emulator gets the latter, and
so starts with a misaligned stack and no return address.
-/

namespace Ringos.Arch

open Ringos.Core Ringos.Kernel Ringos.Emulator

/-- The bytes at a user address, where they are all mapped. -/
def readUserBytes (addressSpaceInfo : AddressSpace) (memory : ByteMemory) (userAddress : UInt64) :
    Nat → Option (List UInt8)
  | 0 => some []
  | length + 1 => do
    let hostAddress ← tryTranslateAddressSpaceAddress addressSpaceInfo userAddress 1
    let rest ← readUserBytes addressSpaceInfo memory (userAddress + 1) length
    pure (memory hostAddress :: rest)

/-- What an x64 callback finds when it is entered. -/
structure CallbackEntry where
  rip : UInt64
  rdi : UInt64
  rsi : UInt64
  rsp : UInt64
  rbx : UInt64
  rbp : UInt64
  r12 : UInt64
  r13 : UInt64
  r14 : UInt64
  r15 : UInt64
  simdQwords : PreservedSimdQwords
  memory : ByteMemory

/-- The entry through the frame of the x64 kernel. -/
def nativeEntry (runtime : UserRuntime) (server : ThreadRef) : CallbackEntry :=
  let frame := loadUserThreadFrame (runtime.thread server)
  { rip := frame.rcx
    rdi := frame.rdi
    rsi := frame.rsi
    rsp := frame.userRsp
    rbx := frame.rbx
    rbp := frame.rbp
    r12 := frame.r12
    r13 := frame.r13
    r14 := frame.r14
    r15 := frame.r15
    simdQwords := frame.preservedXmmQwords
    memory := runtime.memory }

/-- The entry through the guest state of the arm64 kernel's emulator. -/
def emulatedEntry (guestState : EmulatorState) (runtime : UserRuntime) (server : ThreadRef) :
    CallbackEntry :=
  let state := loadX64EmulatorResumeState guestState (runtime.thread server)
  { rip := state.instructionPointer
    rdi := state.generalRegisters.get 7
    rsi := state.generalRegisters.get 6
    rsp := state.generalRegisters.get 4
    rbx := state.generalRegisters.get 3
    rbp := state.generalRegisters.get 5
    r12 := state.generalRegisters.get 12
    r13 := state.generalRegisters.get 13
    r14 := state.generalRegisters.get 14
    r15 := state.generalRegisters.get 15
    simdQwords := preservedSimdQword state
    memory := runtime.memory }

/-- A request to an endpoint's callback. -/
structure Request where
  endpoint : RpcEndpoint
  server : ThreadRef
  clientProcess : ProcessRef
  address : UInt64
  size : UInt64

/-- `prepare_server_thread` for a request. -/
def Request.prepare (request : Request) (arch : Arch) (runtime : UserRuntime) :
    Int32 × UserRuntime :=
  runtime.prepareServerThread arch request.endpoint request.server request.clientProcess
    request.address request.size

/-- The entry state the x64 calling convention asks for, with the registers and the request
bytes of `runtime`. -/
structure EntersCallback (runtime : UserRuntime) (request : Request) (serverProcess : ProcessRef)
    (entry : CallbackEntry) : Prop where
  rip : entry.rip = request.endpoint.callbackAddress
  rsi : entry.rsi = request.size
  requestBytes :
    readUserBytes (runtime.process serverProcess).addressSpaceInfo entry.memory entry.rdi
        request.size.toNat =
      readUserBytes (runtime.process request.clientProcess).addressSpaceInfo runtime.memory
        request.address request.size.toNat
  preserved :
    let registers := (runtime.thread request.server).archPreservedRegisters
    [entry.rbx, entry.rbp, entry.r12, entry.r13, entry.r14, entry.r15] =
      [registers 2, registers 3, registers 4, registers 5, registers 6, registers 7]
  simdQwords : entry.simdQwords = (runtime.thread request.server).archPreservedSimdQwords
  aligned : entry.rsp.toNat % 16 = 8
  returnAddress :
    readUserBytes (runtime.process serverProcess).addressSpaceInfo entry.memory entry.rsp 8 =
      some (toLittleEndian 8 request.endpoint.completionAddress)

/-- Both kernels enter the callback as the calling convention asks for, and with the request at
the same address. -/
def EnteredAlike (runtime : UserRuntime) (request : Request) (serverProcess : ProcessRef)
    (guestState : EmulatorState) : Prop :=
  let native := nativeEntry (request.prepare .x64 runtime).2 request.server
  let emulated := emulatedEntry guestState (request.prepare .arm64 runtime).2 request.server
  EntersCallback runtime request serverProcess native ∧
    EntersCallback runtime request serverProcess emulated ∧ native.rdi = emulated.rdi

/-- An address aligned down to sixteen bytes. -/
theorem alignDown_sixteen_mod (value : UInt64) : (alignDown value 16).toNat % 16 = 0 := by
  have hmask : alignDown value 16 &&& 15 = 0 := by
    simp only [alignDown, show (16 : UInt64) ≠ 0 by decide, if_false]
    rw [UInt64.and_assoc, show ~~~((16 : UInt64) - 1) &&& 15 = 0 by decide, UInt64.and_zero]
  have hnat := congrArg UInt64.toNat hmask
  rw [UInt64.toNat_and, show (15 : UInt64).toNat = 2 ^ 4 - 1 from rfl,
    Nat.and_two_pow_sub_one_eq_mod] at hnat
  exact hnat

section Delivery

variable {request : Request} {runtime : UserRuntime}
  (hlive : runtime.LiveThread request.server)

include hlive

/-- The resume record of a prepared server. -/
theorem Request.prepare_resumeState {arch : Arch}
    (hok : (request.prepare arch runtime).1 = Status.ok) :
    ∃ serverProcess memory requestAddress stackPointer,
      UserRuntime.deliverRequest arch (runtime.process serverProcess).addressSpaceInfo
        (runtime.process request.clientProcess).addressSpaceInfo runtime.memory
        request.endpoint.completionAddress
        (runtime.thread request.server).userContext.stackPointer request.address request.size =
          (Status.ok, memory, requestAddress, stackPointer) ∧
      (request.prepare arch runtime).2.thread request.server =
        (runtime.thread request.server).prepareRpcResume request.endpoint.callbackAddress
          request.endpoint.completionAddress requestAddress request.size stackPointer := by
  obtain ⟨serverProcess, memory, requestAddress, stackPointer, -, -, hdeliver, hprepared⟩ :=
    UserRuntime.prepareServerThread_ok hok
  refine ⟨serverProcess, memory, requestAddress, stackPointer, hdeliver, ?_⟩
  rw [Request.prepare, hprepared]
  have hkept : ({ runtime with memory := memory } : UserRuntime).LiveThread request.server := hlive
  exact UserRuntime.thread_modifyThread_self hkept _

/-- The x64 kernel leaves the stack pointer eight bytes below the request. -/
theorem nativeEntry_rsp (hok : (request.prepare .x64 runtime).1 = Status.ok) :
    let entry := nativeEntry (request.prepare .x64 runtime).2 request.server
    entry.rdi = alignDown ((runtime.thread request.server).userContext.stackPointer -
        request.size) 16 ∧
      entry.rsp = entry.rdi - 8 := by
  obtain ⟨_, _, requestAddress, _, hdeliver, hthread⟩ := Request.prepare_resumeState hlive hok
  obtain ⟨haddress, rfl⟩ := UserRuntime.deliverRequest_x64_ok hdeliver
  simp [nativeEntry, loadUserThreadFrame, hthread, Thread.prepareRpcResume, haddress]

/-- The arm64 kernel leaves the stack pointer at the request. -/
theorem emulatedEntry_rsp (guestState : EmulatorState)
    (hok : (request.prepare .arm64 runtime).1 = Status.ok) :
    let entry := emulatedEntry guestState (request.prepare .arm64 runtime).2 request.server
    entry.rdi = alignDown ((runtime.thread request.server).userContext.stackPointer -
        request.size) 16 ∧
      entry.rsp = entry.rdi := by
  obtain ⟨_, _, requestAddress, _, hdeliver, hthread⟩ := Request.prepare_resumeState hlive hok
  obtain ⟨haddress, rfl⟩ := UserRuntime.deliverRequest_arm64_ok hdeliver
  simp only [emulatedEntry, loadX64EmulatorResumeState, hthread, Thread.prepareRpcResume, haddress]
  exact ⟨rfl, rfl⟩

end Delivery

/-- No request enters an emulated x64 server as it enters a native one: the request is at the
same address, but only the native stack pointer is eight below a multiple of sixteen. -/
theorem not_enteredAlike (runtime : UserRuntime) (request : Request) (serverProcess : ProcessRef)
    (guestState : EmulatorState) (hlive : runtime.LiveThread request.server)
    (hnative : (request.prepare .x64 runtime).1 = Status.ok)
    (hemulated : (request.prepare .arm64 runtime).1 = Status.ok) :
    let native := nativeEntry (request.prepare .x64 runtime).2 request.server
    let emulated := emulatedEntry guestState (request.prepare .arm64 runtime).2 request.server
    native.rdi = emulated.rdi ∧ native.rsp.toNat % 16 = 8 ∧ emulated.rsp.toNat % 16 = 0 ∧
      ¬ EnteredAlike runtime request serverProcess guestState := by
  intro native emulated
  obtain ⟨hrdi, hrsp⟩ := nativeEntry_rsp hlive hnative
  obtain ⟨hrdi', hrsp'⟩ := emulatedEntry_rsp hlive guestState hemulated
  have hmod := alignDown_sixteen_mod
    ((runtime.thread request.server).userContext.stackPointer - request.size)
  have haligned : emulated.rsp.toNat % 16 = 0 := by
    rw [show emulated.rsp = _ from hrsp', hrdi', hmod]
  refine ⟨hrdi.trans hrdi'.symm, ?_, haligned, ?_⟩
  · rw [show native.rsp = _ from hrsp, hrdi, UInt64.toNat_sub, show (8 : UInt64).toNat = 8 from rfl]
    omega
  · rintro ⟨-, hentry, -⟩
    have hentered : emulated.rsp.toNat % 16 = 8 := hentry.aligned
    omega

/-- A one-byte request of a booted process to its own thread. -/
def sampleRequest : Request where
  endpoint := RpcEndpoint.initialized 0 0 [97] 0x1200 0x1210
  server := 0
  clientProcess := 0
  address := 0x1100
  size := 1

/-- The sample request is delivered on both kernels, and enters their servers differently. -/
theorem sampleRequest_notEnteredAlike :
    (sampleRequest.prepare .x64 (UserRuntime.bootStarted 1)).1 = Status.ok ∧
      (sampleRequest.prepare .arm64 (UserRuntime.bootStarted 1)).1 = Status.ok ∧
      ¬ EnteredAlike (UserRuntime.bootStarted 1) sampleRequest 0
        ⟨Vector.replicate 16 0, Vector.replicate 16 (Vector.replicate 16 0), 0, 0⟩ := by
  refine ⟨by decide +kernel, by decide +kernel, ?_⟩
  rintro ⟨-, hentry, -⟩
  exact absurd hentry.aligned (by decide +kernel)

/-- The same from the general statement. -/
theorem sampleRequest_rsp :
    let native := nativeEntry (sampleRequest.prepare .x64 (UserRuntime.bootStarted 1)).2 0
    native.rsp = 0x17E8 ∧ native.rsp.toNat % 16 = 8 := by
  refine ⟨by decide +kernel, ?_⟩
  exact (not_enteredAlike (UserRuntime.bootStarted 1) sampleRequest 0
    ⟨Vector.replicate 16 0, Vector.replicate 16 (Vector.replicate 16 0), 0, 0⟩ rfl
    (by decide +kernel) (by decide +kernel)).2.1

end Ringos.Arch
