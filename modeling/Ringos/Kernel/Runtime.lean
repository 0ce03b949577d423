import Ringos.Core.ByteMemory
import Ringos.Kernel.Thread

/-!
# The user runtime: pools, user memory access and scheduling

The state of `user_runtime` together with the host memory its user mappings
point into. Kernel objects live outside that memory. `debug_log` appends to a
list of messages. The hardware effects of a thread switch (page-table root and
CPU-local stack) touch none of this state and are left out.
-/

namespace Ringos.Kernel

open Ringos.Core

/-- `device_memory_object`, as far as handle lookup reads it. -/
structure DeviceMemoryObject where
  id : UInt32
  handle : Handle
  userAddress : UInt64
  hostAddress : UInt64
  size : UInt64
  deriving Inhabited

instance : KernelObject DeviceMemoryObject := ⟨DeviceMemoryObject.handle⟩

/-- `shared_memory_object`. -/
structure SharedMemoryObject where
  id : UInt32
  handle : Handle
  userAddress : UInt64
  size : UInt64
  deriving Inhabited

instance : KernelObject SharedMemoryObject := ⟨SharedMemoryObject.handle⟩

/-- `RINGOS_RPC_ENDPOINT_NAME_MAX_LENGTH + 1`. -/
abbrev rpcEndpointNameBufferSize : Nat := 32

/-- `rpc_endpoint`. The name is the 32-byte buffer `m_name`. -/
structure RpcEndpoint where
  isInUse : Bool
  isBusy : Bool
  name : List UInt8
  ownerProcess : Option ProcessRef
  ownerThread : Option ThreadRef
  callbackAddress : UInt64
  completionAddress : UInt64
  deriving DecidableEq, Inhabited

/-- What a channel keeps while a call is pending on it. `begin_call` fills and
`cancel_call` clears all of these fields together, so they are one record. -/
structure PendingCall where
  clientThread : ThreadRef
  serverThread : ThreadRef
  savedServerState : UserThreadState
  savedServerContext : ThreadContext
  savedServerRegisters : PreservedRegisters
  savedServerSimdQwords : PreservedSimdQwords

/-- `rpc_channel`. Process and endpoint are references, so their null checks have
no counterpart. -/
structure RpcChannel where
  id : UInt32
  handle : Handle
  clientProcess : ProcessRef
  endpoint : EndpointRef
  pendingCall : Option PendingCall
  deriving Inhabited

instance : KernelObject RpcChannel := ⟨RpcChannel.handle⟩

/-- `user_runtime` with its `rpc_runtime`, the host memory and the debug log. -/
structure UserRuntime where
  processes : KernelObjectPool Process maxProcesses
  threads : KernelObjectPool Thread maxThreads
  deviceMemoryObjects : KernelObjectPool DeviceMemoryObject maxDeviceMemoryObjects
  endpoints : EndpointRef → RpcEndpoint
  channels : KernelObjectPool RpcChannel maxRpcChannels
  sharedMemoryObjects : KernelObjectPool SharedMemoryObject maxSharedMemoryObjects
  currentThread : Option ThreadRef
  nextHandleValue : Handle
  memory : ByteMemory
  debugLog : List (List UInt8)

/-- `rpc_endpoint::clear`: also the state of an endpoint that was never used. -/
def RpcEndpoint.cleared : RpcEndpoint where
  isInUse := false
  isBusy := false
  name := List.replicate rpcEndpointNameBufferSize 0
  ownerProcess := none
  ownerThread := none
  callbackAddress := 0
  completionAddress := 0

namespace UserRuntime

/-- `user_runtime::reset` over some host memory. -/
def reset (memory : ByteMemory) : UserRuntime where
  processes := .reset
  threads := .reset
  deviceMemoryObjects := .reset
  endpoints := fun _ => RpcEndpoint.cleared
  channels := .reset
  sharedMemoryObjects := .reset
  currentThread := none
  nextHandleValue := 1
  memory := memory
  debugLog := []

/-- The thread behind a `thread*`. -/
def thread (runtime : UserRuntime) (ref : ThreadRef) : Thread := runtime.threads.get ref

/-- The process behind a `process*`. -/
def process (runtime : UserRuntime) (ref : ProcessRef) : Process := runtime.processes.get ref

/-- The channel behind an `rpc_channel*`. -/
def channel (runtime : UserRuntime) (ref : ChannelRef) : RpcChannel := runtime.channels.get ref

/-- A write through a `thread*`. -/
def modifyThread (runtime : UserRuntime) (ref : ThreadRef) (f : Thread → Thread) : UserRuntime :=
  { runtime with threads := runtime.threads.modify ref f }

/-- A write through an `rpc_channel*`. -/
def modifyChannel (runtime : UserRuntime) (ref : ChannelRef) (f : RpcChannel → RpcChannel) :
    UserRuntime :=
  { runtime with channels := runtime.channels.modify ref f }

/-- A write through an `rpc_endpoint*`. -/
def modifyEndpoint (runtime : UserRuntime) (ref : EndpointRef) (f : RpcEndpoint → RpcEndpoint) :
    UserRuntime :=
  { runtime with endpoints := Function.update runtime.endpoints ref (f (runtime.endpoints ref)) }

/-- `user_runtime::create_process`: the process, or `none` when the pool is full. -/
def createProcess (runtime : UserRuntime) (metadata : ProcessMetadata)
    (addressSpaceInfo : AddressSpace) : Option ProcessRef × UserRuntime :=
  match runtime.processes.emplace runtime.nextHandleValue
      (fun id handle => ⟨id, handle, metadata, addressSpaceInfo⟩) with
  | none => (none, runtime)
  | some (index, processes, next) =>
    (some index, { runtime with processes := processes, nextHandleValue := next })

/-- `user_runtime::create_thread`. -/
def createThread (runtime : UserRuntime) (processContext : ProcessRef)
    (initialContext : ThreadContext) : Option ThreadRef × UserRuntime :=
  match runtime.threads.emplace runtime.nextHandleValue
      (Thread.create processContext initialContext) with
  | none => (none, runtime)
  | some (index, threads, next) =>
    (some index, { runtime with threads := threads, nextHandleValue := next })

/-- `user_runtime::create_device_memory_object`. -/
def createDeviceMemoryObject (runtime : UserRuntime) (userAddress hostAddress size : UInt64) :
    UserRuntime :=
  match runtime.deviceMemoryObjects.emplace runtime.nextHandleValue
      (fun id handle => ⟨id, handle, userAddress, hostAddress, size⟩) with
  | none => runtime
  | some (_, objects, next) =>
    { runtime with deviceMemoryObjects := objects, nextHandleValue := next }

/-- `user_runtime::create_shared_memory_object`. -/
def createSharedMemoryObject (runtime : UserRuntime) (userAddress size : UInt64) : UserRuntime :=
  match runtime.sharedMemoryObjects.emplace runtime.nextHandleValue
      (fun id handle => ⟨id, handle, userAddress, size⟩) with
  | none => runtime
  | some (_, objects, next) =>
    { runtime with sharedMemoryObjects := objects, nextHandleValue := next }

/-- `find_object_by_handle` finds an object in one of the four non-channel pools. -/
def hasObjectWithHandle (runtime : UserRuntime) (handleValue : Handle) : Bool :=
  (runtime.processes.findByHandle handleValue).isSome ||
    (runtime.threads.findByHandle handleValue).isSome ||
    (runtime.deviceMemoryObjects.findByHandle handleValue).isSome ||
    (runtime.sharedMemoryObjects.findByHandle handleValue).isSome

/-- `user_runtime::validate_user_range`. -/
def validateUserRange (runtime : UserRuntime) (ownerProcess : ProcessRef)
    (userAddress length : UInt64) : Bool :=
  validateAddressSpaceRange (runtime.process ownerProcess).addressSpaceInfo userAddress length

end UserRuntime

/-- The `while` loop of `copy_user_bytes` over the part of the buffer that is left: status and what
that part holds afterwards. -/
def copyUserBytesLoop (addressSpaceInfo : AddressSpace) (memory : ByteMemory) :
    Nat → UInt64 → List UInt8 → Int32 × List UInt8
  | _, _, [] => (Status.ok, [])
  | 0, _, buffer => (Status.fault, buffer)
  | fuel + 1, currentUserAddress, buffer =>
    match tryTranslateAddressSpaceChunk addressSpaceInfo currentUserAddress
        buffer.length.toUInt64 with
    | none => (Status.fault, buffer)
    | some (hostAddress, translatedLength) =>
      if translatedLength = 0 then (Status.fault, buffer)
      else
        let (status, rest) := copyUserBytesLoop addressSpaceInfo memory fuel
          (currentUserAddress + translatedLength) (buffer.drop translatedLength.toNat)
        (status, loadBytes memory hostAddress translatedLength.toNat ++ rest)

/-- `copy_user_bytes` from the address space of one process into a buffer that no mapping backs. -/
def copyUserBytes (addressSpaceInfo : AddressSpace) (memory : ByteMemory)
    (userAddress : UInt64) (buffer : List UInt8) : Int32 × List UInt8 :=
  copyUserBytesLoop addressSpaceInfo memory buffer.length userAddress buffer

/-- The `while` loop of `write_user_bytes`; each iteration consumes at least one byte. -/
def writeUserBytesLoop (addressSpaceInfo : AddressSpace) :
    Nat → ByteMemory → UInt64 → List UInt8 → Int32 × ByteMemory
  | _, memory, _, [] => (Status.ok, memory)
  | 0, memory, _, _ :: _ => (Status.fault, memory)
  | fuel + 1, memory, currentUserAddress, buffer =>
    match tryTranslateAddressSpaceChunk addressSpaceInfo currentUserAddress
        buffer.length.toUInt64 with
    | none => (Status.fault, memory)
    | some (hostAddress, translatedLength) =>
      if translatedLength = 0 then (Status.fault, memory)
      else
        writeUserBytesLoop addressSpaceInfo fuel
          (storeBytes memory hostAddress (buffer.take translatedLength.toNat))
          (currentUserAddress + translatedLength) (buffer.drop translatedLength.toNat)

/-- `write_user_bytes` into the address space of one process. -/
def writeUserBytes (addressSpaceInfo : AddressSpace) (memory : ByteMemory)
    (userAddress : UInt64) (buffer : List UInt8) : Int32 × ByteMemory :=
  writeUserBytesLoop addressSpaceInfo buffer.length memory userAddress buffer

/-- The `while` loop of `copy_between_user_processes`. -/
def copyBetweenUserProcessesLoop (source destination : AddressSpace) :
    Nat → ByteMemory → UInt64 → UInt64 → UInt64 → Int32 × ByteMemory
  | 0, memory, _, _, remainingSize =>
    (if remainingSize = 0 then Status.ok else Status.fault, memory)
  | fuel + 1, memory, currentSourceAddress, currentDestinationAddress, remainingSize =>
    if remainingSize = 0 then (Status.ok, memory)
    else
      match tryTranslateAddressSpaceChunk source currentSourceAddress remainingSize with
      | none => (Status.fault, memory)
      | some (sourceHostAddress, sourceTranslatedLength) =>
        if sourceTranslatedLength = 0 then (Status.fault, memory)
        else
          match tryTranslateAddressSpaceChunk destination currentDestinationAddress
              sourceTranslatedLength with
          | none => (Status.fault, memory)
          | some (destinationHostAddress, destinationTranslatedLength) =>
            if destinationTranslatedLength = 0 then (Status.fault, memory)
            else
              copyBetweenUserProcessesLoop source destination fuel
                (copyBytes memory destinationHostAddress sourceHostAddress
                  destinationTranslatedLength.toNat)
                (currentSourceAddress + destinationTranslatedLength)
                (currentDestinationAddress + destinationTranslatedLength)
                (remainingSize - destinationTranslatedLength)

/-- `copy_between_user_processes`. -/
def copyBetweenUserProcesses (source destination : AddressSpace) (memory : ByteMemory)
    (sourceUserAddress destinationUserAddress size : UInt64) : Int32 × ByteMemory :=
  copyBetweenUserProcessesLoop source destination size.toNat memory sourceUserAddress
    destinationUserAddress size

/-- The `for` loop of `copy_user_string`: status and the bytes stored so far, the
terminator included. -/
def copyUserStringLoop (addressSpaceInfo : AddressSpace) (memory : ByteMemory) :
    Nat → UInt64 → Int32 × List UInt8
  | 0, _ => (Status.bufferTooSmall, [])
  | remaining + 1, currentAddress =>
    match tryTranslateAddressSpaceAddress addressSpaceInfo currentAddress 1 with
    | none => (Status.fault, [])
    | some hostAddress =>
      let currentByte := memory hostAddress
      if currentByte = 0 then (Status.ok, [0])
      else
        let (status, rest) :=
          copyUserStringLoop addressSpaceInfo memory remaining (currentAddress + 1)
        (status, currentByte :: rest)

/-- `copy_user_string` into a zeroed buffer; the caller's buffer is padded to its size. -/
def copyUserString (addressSpaceInfo : AddressSpace) (memory : ByteMemory)
    (userAddress : UInt64) (bufferSize : Nat) : Int32 × List UInt8 :=
  let (status, bytes) := copyUserStringLoop addressSpaceInfo memory bufferSize userAddress
  if status = Status.bufferTooSmall then (status, bytes.take (bufferSize - 1) ++ [0])
  else (status, bytes ++ List.replicate (bufferSize - bytes.length) 0)

namespace UserRuntime

/-- The first loop of `find_next_ready_thread`: where the round-robin scan starts. -/
def readyScanStart (runtime : UserRuntime) : Option ThreadRef → Nat
  | none => 0
  | some afterThread =>
    if (runtime.threads.items afterThread).isSome then afterThread.val + 1 else 0

/-- `candidate != nullptr && candidate->get_state() == USER_THREAD_STATE_READY`. -/
def isReadySlot (runtime : UserRuntime) (index : ThreadRef) : Bool :=
  match runtime.threads.items index with
  | none => false
  | some candidate => candidate.state == .ready

/-- `find_next_ready_thread`: the slots behind `after_thread`, then those before. -/
def findNextReadyThread (runtime : UserRuntime) (afterThread : Option ThreadRef) :
    Option ThreadRef :=
  let startIndex := runtime.readyScanStart afterThread
  match firstIndex fun index : ThreadRef =>
      decide (startIndex ≤ index.val) && runtime.isReadySlot index with
  | some candidate => some candidate
  | none => firstIndex fun index : ThreadRef =>
      decide (index.val < startIndex) && runtime.isReadySlot index

/-- The head of `set_current_thread`: a running thread that loses the CPU becomes ready. -/
def demoteCurrentThread (runtime : UserRuntime) (currentThread : Option ThreadRef) :
    UserRuntime :=
  match runtime.currentThread with
  | none => runtime
  | some previous =>
    if some previous ≠ currentThread ∧ (runtime.thread previous).state = .running then
      runtime.modifyThread previous (Thread.setState .ready)
    else runtime

/-- The tail of `set_current_thread`: a ready thread that gains the CPU becomes running. -/
def promoteCurrentThread (runtime : UserRuntime) : UserRuntime :=
  match runtime.currentThread with
  | none => runtime
  | some selected =>
    if (runtime.thread selected).state = .ready then
      runtime.modifyThread selected (Thread.setState .running)
    else runtime

/-- `set_current_thread`. -/
def setCurrentThread (runtime : UserRuntime) (currentThread : Option ThreadRef) : UserRuntime :=
  { runtime.demoteCurrentThread currentThread with
    currentThread := currentThread }.promoteCurrentThread

/-- `schedule_next_ready_thread`. -/
def scheduleNextReadyThread (runtime : UserRuntime) : Bool × UserRuntime :=
  match runtime.findNextReadyThread runtime.currentThread with
  | none => (false, { runtime with currentThread := none })
  | some nextThread => (true, runtime.setCurrentThread (some nextThread))

/-- `has_runnable_thread`. -/
def hasRunnableThread (runtime : UserRuntime) : Bool :=
  match runtime.currentThread with
  | none => false
  | some ref =>
    (runtime.thread ref).state ≠ .blocked && (runtime.thread ref).state ≠ .exited

end UserRuntime

end Ringos.Kernel
