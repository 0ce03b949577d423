import Ringos.Kernel.Runtime

/-!
# RPC endpoints, channels and the RPC syscalls

Each branch of `rpc_runtime::dispatch_syscall` is one function that returns the
status and the state it leaves, checks in source order. `m_client_process` and
`m_endpoint` of a channel are set at construction; the pending call, with the
server context it saves, comes and goes with `beginCall` and `cancelCall`.
-/

namespace Ringos.Kernel

open Ringos.Core

/-- `RINGOS_RPC_MAX_REQUEST_SIZE`. -/
def rpcMaxRequestSize : UInt64 := 256

/-- `strings_equal` on two NUL-terminated buffers. -/
def stringsEqual : List UInt8 → List UInt8 → Bool
  | left :: leftRest, right :: rightRest =>
    if left ≠ right then false
    else if left = 0 then true
    else stringsEqual leftRest rightRest
  | _, _ => false

/-- The loop of `copy_string`: the bytes copied before the terminator. -/
def copyStringLoop : Nat → List UInt8 → List UInt8
  | capacity + 1, byte :: rest =>
    if byte ≠ 0 ∧ 0 < capacity then byte :: copyStringLoop capacity rest else []
  | _, _ => []

/-- `copy_string` into a zeroed buffer of the given capacity. -/
def copyString (capacity : Nat) (source : List UInt8) : List UInt8 :=
  let copied := copyStringLoop capacity source
  copied ++ List.replicate (capacity - copied.length) 0

/-- `align_down`. -/
def alignDown (value alignment : UInt64) : UInt64 :=
  if alignment = 0 then value else value &&& ~~~(alignment - 1)

namespace RpcEndpoint

/-- `rpc_endpoint::matches_name`. -/
def matchesName (endpoint : RpcEndpoint) (name : List UInt8) : Bool :=
  endpoint.isInUse && stringsEqual endpoint.name name

/-- `rpc_endpoint::initialize`. -/
def initialized (ownerProcess : ProcessRef) (ownerThread : ThreadRef) (name : List UInt8)
    (callbackAddress completionAddress : UInt64) : RpcEndpoint where
  isInUse := true
  isBusy := false
  name := copyString rpcEndpointNameBufferSize name
  ownerProcess := some ownerProcess
  ownerThread := some ownerThread
  callbackAddress := callbackAddress
  completionAddress := completionAddress

/-- `rpc_endpoint::set_busy`. -/
def setBusy (isBusy : Bool) (endpoint : RpcEndpoint) : RpcEndpoint :=
  { endpoint with isBusy := isBusy }

end RpcEndpoint

/-- `rpc_channel::is_busy`. -/
def RpcChannel.isBusy (channel : RpcChannel) : Bool := channel.pendingCall.isSome

/-- The constructor `rpc_channel::rpc_channel`. -/
def RpcChannel.create (clientProcess : ProcessRef) (endpoint : EndpointRef) (id : UInt32)
    (handle : Handle) : RpcChannel :=
  ⟨id, handle, clientProcess, endpoint, none⟩

/-- What `begin_call` saves of the server thread. -/
def PendingCall.save (clientThread serverThread : ThreadRef) (server : Thread) : PendingCall where
  clientThread := clientThread
  serverThread := serverThread
  savedServerState := server.state
  savedServerContext := server.userContext
  savedServerRegisters := server.archPreservedRegisters
  savedServerSimdQwords := server.archPreservedSimdQwords

/-- What `finish_call` writes back to the server thread. -/
def PendingCall.restore (call : PendingCall) (server : Thread) : Thread :=
  ((server.setUserContext call.savedServerContext).setState call.savedServerState).setArchPreserved
    call.savedServerRegisters call.savedServerSimdQwords

namespace UserRuntime

/-- `rpc_channel::begin_call`. -/
def beginCall (runtime : UserRuntime) (ref : ChannelRef) (clientThread serverThread : ThreadRef) :
    UserRuntime :=
  let call := PendingCall.save clientThread serverThread (runtime.thread serverThread)
  (runtime.modifyChannel ref fun channel => { channel with pendingCall := some call })
    |>.modifyEndpoint (runtime.channel ref).endpoint (RpcEndpoint.setBusy true)

/-- `rpc_channel::cancel_call`. -/
def cancelCall (runtime : UserRuntime) (ref : ChannelRef) : UserRuntime :=
  (runtime.modifyEndpoint (runtime.channel ref).endpoint (RpcEndpoint.setBusy false))
    |>.modifyChannel ref fun channel => { channel with pendingCall := none }

/-- `rpc_channel::finish_call` on a pending call. -/
def finishCall (runtime : UserRuntime) (ref : ChannelRef) (call : PendingCall) : UserRuntime :=
  (runtime.modifyThread call.serverThread call.restore).cancelCall ref

/-- `find_endpoint_by_name`. -/
def findEndpointByName (runtime : UserRuntime) (endpointName : List UInt8) : Option EndpointRef :=
  firstIndex fun index => (runtime.endpoints index).matchesName endpointName

/-- `find_free_endpoint`. -/
def findFreeEndpoint (runtime : UserRuntime) : Option EndpointRef :=
  firstIndex fun index => !(runtime.endpoints index).isInUse

/-- `channel != nullptr && channel->get_pending_server_thread() == server_thread`. -/
def isPendingOn (runtime : UserRuntime) (serverThread : ThreadRef) (index : ChannelRef) : Bool :=
  match runtime.channels.items index with
  | none => false
  | some channel =>
    match channel.pendingCall with
    | none => false
    | some call => call.serverThread == serverThread

/-- `find_pending_channel_by_server_thread`: the lowest pool index wins. -/
def findPendingChannelByServerThread (runtime : UserRuntime) (serverThread : ThreadRef) :
    Option ChannelRef :=
  firstIndex (runtime.isPendingOn serverThread)

/-- `clear_endpoints_owned_by`. -/
def clearEndpointsOwnedBy (runtime : UserRuntime) (ownerThread : ThreadRef) : UserRuntime :=
  { runtime with
    endpoints := fun index =>
      if (runtime.endpoints index).ownerThread = some ownerThread then RpcEndpoint.cleared
      else runtime.endpoints index }

/-- `complete_call`. -/
def completeCall (arch : Arch) (runtime : UserRuntime) (serverThread : ThreadRef)
    (callbackStatus : Int32) : Int32 × UserRuntime :=
  match runtime.findPendingChannelByServerThread serverThread with
  | none => (Status.badState, runtime)
  | some ref =>
    match (runtime.channel ref).pendingCall with
    | none => (Status.badState, runtime)
    | some call =>
      let finished := runtime.finishCall ref call
      if call.clientThread = serverThread then (callbackStatus, finished)
      else
        let woken := finished.modifyThread call.clientThread fun client =>
          (client.setState .ready).prepareSyscallResume arch callbackStatus
        (Status.ok, woken.setCurrentThread (some call.clientThread))

/-- `fail_pending_call`; its return value is discarded by the only caller. -/
def failPendingCall (arch : Arch) (runtime : UserRuntime) (serverThread : ThreadRef)
    (failureStatus : Int32) : UserRuntime :=
  match runtime.findPendingChannelByServerThread serverThread with
  | none => runtime
  | some ref =>
    match (runtime.channel ref).pendingCall with
    | none => runtime
    | some call =>
      let cancelled := runtime.cancelCall ref
      if call.clientThread = serverThread then cancelled
      else
        cancelled.modifyThread call.clientThread fun client =>
          (client.setState .ready).prepareSyscallResume arch failureStatus

/-- `handle_thread_exit`. -/
def handleThreadExit (arch : Arch) (runtime : UserRuntime) (activeThread : ThreadRef)
    (failureStatus : Int32) : UserRuntime :=
  (runtime.failPendingCall arch activeThread failureStatus).clearEndpointsOwnedBy activeThread

/-- The part of `prepare_server_thread` that moves the request onto the server's stack: the
status, the memory and the argument and stack pointers of the callback. -/
def deliverRequest (arch : Arch) (server client : AddressSpace) (memory : ByteMemory)
    (completionAddress savedStackPointer clientRequestAddress requestSize : UInt64) :
    Int32 × ByteMemory × UInt64 × UInt64 :=
  match arch with
  | .x64 =>
    if savedStackPointer ≤ requestSize + 8 then (Status.fault, memory, 0, 0)
    else
      let requestAddress := alignDown (savedStackPointer - requestSize) 16
      if requestAddress ≤ 8 then (Status.fault, memory, 0, 0)
      else
        let returnAddress := requestAddress - 8
        let (requestStatus, copied) :=
          copyBetweenUserProcesses client server memory clientRequestAddress requestAddress
            requestSize
        if requestStatus ≠ Status.ok then (requestStatus, copied, 0, 0)
        else
          let (returnStatus, written) :=
            writeUserBytes server copied returnAddress (toLittleEndian 8 completionAddress)
          (returnStatus, written, requestAddress, returnAddress)
  | .arm64 =>
    if savedStackPointer ≤ requestSize then (Status.fault, memory, 0, 0)
    else
      let requestAddress := alignDown (savedStackPointer - requestSize) 16
      let (requestStatus, copied) :=
        copyBetweenUserProcesses client server memory clientRequestAddress requestAddress
          requestSize
      (requestStatus, copied, requestAddress, requestAddress)

/-- `prepare_server_thread`. -/
def prepareServerThread (arch : Arch) (runtime : UserRuntime) (endpoint : RpcEndpoint)
    (serverThread : ThreadRef) (clientProcess : ProcessRef)
    (clientRequestAddress requestSize : UInt64) : Int32 × UserRuntime :=
  match endpoint.ownerProcess with
  | none => (Status.badState, runtime)
  | some serverProcess =>
    if clientRequestAddress = 0 ∨ requestSize = 0 ∨ requestSize > rpcMaxRequestSize then
      (Status.invalidArgument, runtime)
    else if endpoint.callbackAddress = 0 ∨ endpoint.completionAddress = 0 ∨
        !runtime.validateUserRange serverProcess endpoint.callbackAddress 1 ∨
        !runtime.validateUserRange serverProcess endpoint.completionAddress 1 then
      (Status.fault, runtime)
    else
      let savedStackPointer := (runtime.thread serverThread).userContext.stackPointer
      if savedStackPointer = 0 then (Status.badState, runtime)
      else
        let (status, memory, requestAddress, stackPointer) :=
          deliverRequest arch (runtime.process serverProcess).addressSpaceInfo
            (runtime.process clientProcess).addressSpaceInfo runtime.memory
            endpoint.completionAddress savedStackPointer clientRequestAddress requestSize
        if status ≠ Status.ok then (status, { runtime with memory := memory })
        else
          (Status.ok, { runtime with memory := memory }.modifyThread serverThread
            (Thread.prepareRpcResume endpoint.callbackAddress endpoint.completionAddress
              requestAddress requestSize stackPointer))

/-- The checks of `SYSCALL_RPC_REGISTER` up to the use of the slot: the free endpoint and the
name it is registered under. -/
def resolveRegistration (runtime : UserRuntime) (activeThread : ThreadRef)
    (context : UserSyscallContext) : Except Int32 (EndpointRef × List UInt8) :=
  let ownerProcess := (runtime.thread activeThread).process
  if context.argument0 = 0 ∨ context.argument1 = 0 ∨ context.argument2 = 0 then
    .error Status.invalidArgument
  else if !runtime.validateUserRange ownerProcess context.argument1 1 ∨
      !runtime.validateUserRange ownerProcess context.argument2 1 then
    .error Status.fault
  else
    let (nameStatus, endpointName) :=
      copyUserString (runtime.process ownerProcess).addressSpaceInfo runtime.memory
        context.argument0 rpcEndpointNameBufferSize
    if nameStatus ≠ Status.ok then .error nameStatus
    else if (runtime.findEndpointByName endpointName).isSome then .error Status.badState
    else
      match runtime.findFreeEndpoint with
      | none => .error Status.noMemory
      | some ref => .ok (ref, endpointName)

/-- `SYSCALL_RPC_REGISTER`. -/
def rpcRegister (arch : Arch) (runtime : UserRuntime) (activeThread : ThreadRef)
    (context : UserSyscallContext) : Int32 × UserRuntime :=
  match runtime.resolveRegistration activeThread context with
  | .error status => (status, runtime)
  | .ok (ref, endpointName) =>
    let registered := runtime.modifyEndpoint ref fun _ =>
      RpcEndpoint.initialized (runtime.thread activeThread).process activeThread endpointName
        context.argument1 context.argument2
    match registered.findNextReadyThread (some activeThread),
        registered.findPendingChannelByServerThread activeThread with
    | some nextThread, none =>
      let yielded := registered.modifyThread activeThread
        (Thread.prepareSyscallResume arch Status.ok)
      (Status.ok, yielded.setCurrentThread (some nextThread))
    | _, _ => (Status.ok, registered)

/-- `SYSCALL_RPC_OPEN`. -/
def rpcOpen (runtime : UserRuntime) (activeThread : ThreadRef) (context : UserSyscallContext) :
    Int32 × UserRuntime :=
  let ownerProcess := (runtime.thread activeThread).process
  if context.argument0 = 0 ∨ context.argument1 = 0 then (Status.invalidArgument, runtime)
  else
    let (nameStatus, endpointName) :=
      copyUserString (runtime.process ownerProcess).addressSpaceInfo runtime.memory
        context.argument0 rpcEndpointNameBufferSize
    if nameStatus ≠ Status.ok then (nameStatus, runtime)
    else
      match runtime.findEndpointByName endpointName with
      | none => (Status.notFound, runtime)
      | some endpoint =>
        match (runtime.endpoints endpoint).ownerThread with
        | none => (Status.peerClosed, runtime)
        | some serverThread =>
          if (runtime.thread serverThread).state = .exited then (Status.peerClosed, runtime)
          else
            match runtime.channels.emplace runtime.nextHandleValue
                (RpcChannel.create ownerProcess endpoint) with
            | none => (Status.noMemory, runtime)
            | some (ref, channels, next) =>
              let opened := { runtime with channels := channels, nextHandleValue := next }
              let channelHandle := (opened.channel ref).handle
              let (writeStatus, memory) :=
                writeUserBytes (runtime.process ownerProcess).addressSpaceInfo runtime.memory
                  context.argument1 (toLittleEndian 8 channelHandle)
              if writeStatus ≠ Status.ok then
                (writeStatus, { opened with
                  channels := (channels.eraseByHandle channelHandle).2
                  memory := memory })
              else (Status.ok, { opened with memory := memory })

/-- The handle checks of `SYSCALL_RPC_CALL` and `SYSCALL_RPC_CLOSE`. -/
def resolveChannel (runtime : UserRuntime) (ownerProcess : ProcessRef)
    (channelHandle : Handle) : Except Int32 ChannelRef :=
  match runtime.channels.findByHandle channelHandle with
  | none =>
    .error (if runtime.hasObjectWithHandle channelHandle then Status.wrongType
      else Status.badHandle)
  | some ref =>
    if (runtime.channel ref).clientProcess = ownerProcess then .ok ref
    else .error Status.badHandle

/-- The checks of `SYSCALL_RPC_CALL` up to `prepare_server_thread`: the channel and the server
thread the call is for. -/
def resolveCall (runtime : UserRuntime) (activeThread : ThreadRef)
    (context : UserSyscallContext) : Except Int32 (ChannelRef × ThreadRef) :=
  if context.argument0 = 0 ∨ context.argument1 = 0 ∨ context.argument2 = 0 then
    .error Status.invalidArgument
  else if context.argument2 > rpcMaxRequestSize then .error Status.invalidArgument
  else
    match runtime.resolveChannel (runtime.thread activeThread).process context.argument0 with
    | .error status => .error status
    | .ok ref =>
      let endpoint := runtime.endpoints (runtime.channel ref).endpoint
      match endpoint.ownerThread with
      | none => .error Status.peerClosed
      | some serverThread =>
        if (runtime.thread serverThread).state = .exited then .error Status.peerClosed
        else if !endpoint.isInUse ∨ endpoint.isBusy ∨ (runtime.channel ref).isBusy then
          .error Status.wouldBlock
        else .ok (ref, serverThread)

/-- `SYSCALL_RPC_CALL`. -/
def rpcCall (arch : Arch) (runtime : UserRuntime) (activeThread : ThreadRef)
    (context : UserSyscallContext) : Int32 × UserRuntime :=
  match runtime.resolveCall activeThread context with
  | .error status => (status, runtime)
  | .ok (ref, serverThread) =>
    let endpoint := runtime.endpoints (runtime.channel ref).endpoint
    let (prepareStatus, prepared) :=
      runtime.prepareServerThread arch endpoint serverThread
        (runtime.thread activeThread).process context.argument1 context.argument2
    if prepareStatus ≠ Status.ok then (prepareStatus, prepared)
    else
      let begun := prepared.beginCall ref activeThread serverThread
      if serverThread ≠ activeThread then
        let blocked := begun.modifyThread activeThread (Thread.setState .blocked)
        (Status.ok, blocked.setCurrentThread (some serverThread))
      else (Status.ok, begun)

/-- `SYSCALL_RPC_CLOSE`. -/
def rpcClose (runtime : UserRuntime) (activeThread : ThreadRef) (context : UserSyscallContext) :
    Int32 × UserRuntime :=
  if context.argument0 = 0 then (Status.invalidArgument, runtime)
  else
    match runtime.resolveChannel (runtime.thread activeThread).process context.argument0 with
    | .error status => (status, runtime)
    | .ok ref =>
      if (runtime.channel ref).isBusy then (Status.badState, runtime)
      else
        let (erased, channels) := runtime.channels.eraseByHandle context.argument0
        (if erased then Status.ok else Status.badState, { runtime with channels := channels })

/-- `SYSCALL_RPC_COMPLETE`. -/
def rpcComplete (arch : Arch) (runtime : UserRuntime) (activeThread : ThreadRef)
    (context : UserSyscallContext) : Int32 × UserRuntime :=
  runtime.completeCall arch activeThread (statusOfArgument context.argument0)

end UserRuntime

end Ringos.Kernel
