import Ringos.Kernel.Frames

/-!
# What one syscall can do

`SyscallOutcome` lists every state a syscall of the active thread can leave,
each with the checks that led there and written with the primitive writes of
the source. It is proved once from the dispatcher; the invariants of the
runtime are case analyses over it and never unfold a syscall again.
-/

namespace Ringos.Kernel

open Ringos.Core

namespace UserRuntime

/-- The endpoint table write of a successful `SYSCALL_RPC_REGISTER`. -/
def registerEndpoint (runtime : UserRuntime) (ref : EndpointRef) (activeThread : ThreadRef)
    (endpointName : List UInt8) (callbackAddress completionAddress : UInt64) : UserRuntime :=
  runtime.modifyEndpoint ref fun _ =>
    RpcEndpoint.initialized (runtime.thread activeThread).process activeThread endpointName
      callbackAddress completionAddress

/-- The state of a successful `prepare_server_thread`. -/
def serverPrepared (runtime : UserRuntime) (memory : ByteMemory) (endpoint : RpcEndpoint)
    (serverThread : ThreadRef) (requestAddress requestSize stackPointer : UInt64) : UserRuntime :=
  { runtime with memory := memory }.modifyThread serverThread
    (Thread.prepareRpcResume endpoint.callbackAddress endpoint.completionAddress requestAddress
      requestSize stackPointer)

/-- The wake-up of a client whose call has ended with `status`. -/
def wakeClient (arch : Arch) (runtime : UserRuntime) (client : ThreadRef) (status : Int32) :
    UserRuntime :=
  runtime.modifyThread client fun thread =>
    (thread.setState .ready).prepareSyscallResume arch status

/-- The endpoint a channel points to. -/
def endpointOf (runtime : UserRuntime) (ref : ChannelRef) : RpcEndpoint :=
  runtime.endpoints (runtime.channel ref).endpoint

end UserRuntime

open UserRuntime

/-- Writing to user memory succeeds or faults. -/
theorem writeUserBytesLoop_status (addressSpaceInfo : AddressSpace) (fuel : Nat)
    (memory : ByteMemory) (address : UInt64) (buffer : List UInt8) :
    (writeUserBytesLoop addressSpaceInfo fuel memory address buffer).1 = Status.ok ∨
      (writeUserBytesLoop addressSpaceInfo fuel memory address buffer).1 = Status.fault := by
  induction fuel generalizing memory address buffer with
  | zero =>
    cases buffer with
    | nil => exact .inl rfl
    | cons => exact .inr rfl
  | succ fuel ih =>
    cases buffer with
    | nil => exact .inl rfl
    | cons byte rest =>
      simp only [writeUserBytesLoop]
      split
      · exact .inr rfl
      · split
        · exact .inr rfl
        · exact ih _ _ _

/-- Copying between user processes succeeds or faults. -/
theorem copyBetweenUserProcessesLoop_status (source destination : AddressSpace) (fuel : Nat)
    (memory : ByteMemory) (from_ to_ size : UInt64) :
    (copyBetweenUserProcessesLoop source destination fuel memory from_ to_ size).1 = Status.ok ∨
      (copyBetweenUserProcessesLoop source destination fuel memory from_ to_ size).1 =
        Status.fault := by
  induction fuel generalizing memory from_ to_ size with
  | zero =>
    simp only [copyBetweenUserProcessesLoop]
    split
    · exact .inl rfl
    · exact .inr rfl
  | succ fuel ih =>
    simp only [copyBetweenUserProcessesLoop]
    split
    · exact .inl rfl
    split
    · exact .inr rfl
    split
    · exact .inr rfl
    split
    · exact .inr rfl
    split
    · exact .inr rfl
    · exact ih _ _ _ _

/-- The status and state a syscall of `activeThread` can return with. -/
inductive SyscallOutcome (arch : Arch) (runtime : UserRuntime) (activeThread : ThreadRef)
    (context : UserSyscallContext) : Int32 × UserRuntime → Prop
  | kept (status : Int32) (memory : ByteMemory) (debugLog : List (List UInt8)) :
      (∀ syscall, Syscall.ofNumber context.syscallNumber = some syscall →
        syscall ≠ .threadExit ∧ (syscall ≠ .debugLog → status ≠ Status.ok)) →
      (Syscall.ofNumber context.syscallNumber = some .rpcComplete →
        runtime.findPendingChannelByServerThread activeThread = none) →
      (Syscall.ofNumber context.syscallNumber ≠ some .rpcCall → memory = runtime.memory) →
      SyscallOutcome arch runtime activeThread context
        (status, { runtime with memory := memory, debugLog := debugLog })
  | exited : Syscall.ofNumber context.syscallNumber = some .threadExit →
      SyscallOutcome arch runtime activeThread context (Status.ok,
        (runtime.terminateCurrentThread arch context.argument0 Status.peerClosed).2)
  | registered (ref : EndpointRef) (endpointName : List UInt8) :
      Syscall.ofNumber context.syscallNumber = some .rpcRegister →
      runtime.resolveRegistration activeThread context = .ok (ref, endpointName) →
      SyscallOutcome arch runtime activeThread context (Status.ok,
        runtime.registerEndpoint ref activeThread endpointName context.argument1
          context.argument2)
  | yielded (ref : EndpointRef) (endpointName : List UInt8) (nextThread : ThreadRef) :
      Syscall.ofNumber context.syscallNumber = some .rpcRegister →
      runtime.resolveRegistration activeThread context = .ok (ref, endpointName) →
      (runtime.thread nextThread).state = .ready →
      runtime.findPendingChannelByServerThread activeThread = none →
      SyscallOutcome arch runtime activeThread context (Status.ok,
        ((runtime.registerEndpoint ref activeThread endpointName context.argument1
          context.argument2).modifyThread activeThread
            (Thread.prepareSyscallResume arch Status.ok)).setCurrentThread (some nextThread))
  | opened (ref : ChannelRef) (endpoint : EndpointRef) (endpointName : List UInt8)
      (serverThread : ThreadRef) (channels : KernelObjectPool RpcChannel maxRpcChannels)
      (next : Handle) (memory : ByteMemory) :
      Syscall.ofNumber context.syscallNumber = some .rpcOpen →
      runtime.findEndpointByName endpointName = some endpoint →
      (runtime.endpoints endpoint).ownerThread = some serverThread →
      (runtime.thread serverThread).state ≠ .exited →
      runtime.channels.emplace runtime.nextHandleValue
        (RpcChannel.create (runtime.thread activeThread).process endpoint) =
          some (ref, channels, next) →
      SyscallOutcome arch runtime activeThread context (Status.ok,
        { runtime with channels := channels, nextHandleValue := next, memory := memory })
  | openFailed (status : Int32) (ref : ChannelRef) (endpoint : EndpointRef)
      (channels : KernelObjectPool RpcChannel maxRpcChannels) (next : Handle)
      (memory : ByteMemory) :
      Syscall.ofNumber context.syscallNumber = some .rpcOpen → status ≠ Status.ok →
      runtime.channels.emplace runtime.nextHandleValue
        (RpcChannel.create (runtime.thread activeThread).process endpoint) =
          some (ref, channels, next) →
      SyscallOutcome arch runtime activeThread context (status,
        { runtime with
          channels := (channels.eraseByHandle runtime.nextHandleValue).2
          nextHandleValue := next
          memory := memory })
  | called (ref : ChannelRef) (serverThread : ThreadRef) (memory : ByteMemory)
      (requestAddress stackPointer : UInt64) :
      Syscall.ofNumber context.syscallNumber = some .rpcCall →
      runtime.resolveCall activeThread context = .ok (ref, serverThread) →
      serverThread ≠ activeThread →
      SyscallOutcome arch runtime activeThread context (Status.ok,
        (((runtime.serverPrepared memory (runtime.endpointOf ref) serverThread requestAddress
          context.argument2 stackPointer).beginCall ref activeThread serverThread).modifyThread
            activeThread (Thread.setState .blocked)).setCurrentThread (some serverThread))
  | calledSelf (ref : ChannelRef) (memory : ByteMemory) (requestAddress stackPointer : UInt64) :
      Syscall.ofNumber context.syscallNumber = some .rpcCall →
      runtime.resolveCall activeThread context = .ok (ref, activeThread) →
      SyscallOutcome arch runtime activeThread context (Status.ok,
        (runtime.serverPrepared memory (runtime.endpointOf ref) activeThread requestAddress
          context.argument2 stackPointer).beginCall ref activeThread activeThread)
  | closed (ref : ChannelRef) :
      Syscall.ofNumber context.syscallNumber = some .rpcClose →
      runtime.channels.findByHandle context.argument0 = some ref →
      (runtime.channel ref).isBusy = false →
      SyscallOutcome arch runtime activeThread context (Status.ok,
        { runtime with channels := (runtime.channels.eraseByHandle context.argument0).2 })
  | completed (ref : ChannelRef) (call : PendingCall) :
      Syscall.ofNumber context.syscallNumber = some .rpcComplete →
      runtime.findPendingChannelByServerThread activeThread = some ref →
      (runtime.channel ref).pendingCall = some call → call.clientThread ≠ activeThread →
      SyscallOutcome arch runtime activeThread context (Status.ok,
        ((runtime.finishCall ref call).wakeClient arch call.clientThread
          (statusOfArgument context.argument0)).setCurrentThread (some call.clientThread))
  | completedSelf (ref : ChannelRef) (call : PendingCall) :
      Syscall.ofNumber context.syscallNumber = some .rpcComplete →
      runtime.findPendingChannelByServerThread activeThread = some ref →
      (runtime.channel ref).pendingCall = some call → call.clientThread = activeThread →
      SyscallOutcome arch runtime activeThread context
        (statusOfArgument context.argument0, runtime.finishCall ref call)

namespace UserRuntime

variable {arch : Arch} {runtime : UserRuntime} {activeThread : ThreadRef}
  {context : UserSyscallContext}

/-- A refused syscall keeps all but memory and the debug log. -/
theorem refused_outcome {syscall : Syscall} {status : Int32}
    (hsyscall : Syscall.ofNumber context.syscallNumber = some syscall)
    (hexit : syscall ≠ .threadExit) (hcomplete : syscall ≠ .rpcComplete)
    (hstatus : status ≠ Status.ok) {memory : ByteMemory}
    (hmemory : syscall ≠ .rpcCall → memory = runtime.memory) :
    SyscallOutcome arch runtime activeThread context (status, { runtime with memory := memory }) := by
  refine .kept status memory runtime.debugLog ?_ ?_ fun hcall => hmemory ?_
  · intro other hother
    rw [hsyscall, Option.some.injEq] at hother
    exact ⟨hother ▸ hexit, fun _ => hstatus⟩
  · intro hother
    rw [hsyscall, Option.some.injEq] at hother
    exact absurd hother hcomplete
  · rintro rfl
    exact hcall hsyscall

/-- A failed `copy_user_string` reports an error status, so the checks of a registration do. -/
theorem resolveRegistration_error {status : Int32}
    (h : runtime.resolveRegistration activeThread context = .error status) :
    status ≠ Status.ok := by
  unfold resolveRegistration at h
  dsimp only at h
  split at h
  · obtain rfl := Except.error.inj h
    decide
  split at h
  · obtain rfl := Except.error.inj h
    decide
  split at h
  · rename_i hname
    obtain rfl := Except.error.inj h
    exact hname
  split at h
  · obtain rfl := Except.error.inj h
    decide
  split at h
  · obtain rfl := Except.error.inj h
    decide
  · cases h

/-- An admitted registration takes the first free endpoint. -/
theorem resolveRegistration_ok {ref : EndpointRef} {endpointName : List UInt8}
    (h : runtime.resolveRegistration activeThread context = .ok (ref, endpointName)) :
    runtime.findFreeEndpoint = some ref := by
  unfold resolveRegistration at h
  dsimp only at h
  split at h
  · cases h
  split at h
  · cases h
  split at h
  · cases h
  split at h
  · cases h
  split at h
  · cases h
  · rename_i found hfree
    simp only [Except.ok.injEq, Prod.mk.injEq] at h
    rw [hfree, h.1]

theorem rpcRegister_outcome
    (hsyscall : Syscall.ofNumber context.syscallNumber = some .rpcRegister) :
    SyscallOutcome arch runtime activeThread context
      (runtime.rpcRegister arch activeThread context) := by
  unfold rpcRegister
  cases hresolve : runtime.resolveRegistration activeThread context with
  | error status =>
    exact refused_outcome hsyscall (by decide) (by decide) (resolveRegistration_error hresolve)
      fun _ => rfl
  | ok target =>
    obtain ⟨ref, endpointName⟩ := target
    dsimp only
    split
    · rename_i nextThread hnext hpending
      have hready := findNextReadyThread_ready hnext
      exact .yielded ref endpointName nextThread hsyscall hresolve hready hpending
    · exact .registered ref endpointName hsyscall hresolve

/-- A new channel carries the counter's value. -/
theorem emplaced_handle {channels : KernelObjectPool RpcChannel maxRpcChannels} {next : Handle}
    {clientProcess : ProcessRef} {endpoint : EndpointRef} {ref : ChannelRef}
    (h : runtime.channels.emplace runtime.nextHandleValue
      (RpcChannel.create clientProcess endpoint) = some (ref, channels, next)) :
    ({ runtime with channels := channels, nextHandleValue := next }.channel ref).handle =
      runtime.nextHandleValue := by
  obtain ⟨_, hitems, _⟩ := KernelObjectPool.emplace_eq_some h
  have hitem : channels.items ref = some (RpcChannel.create clientProcess endpoint
      runtime.channels.nextObjectId runtime.nextHandleValue) := by
    rw [hitems, Function.update_self]
  rw [channel, KernelObjectPool.get_of_items hitem]
  rfl

theorem rpcOpen_outcome (hsyscall : Syscall.ofNumber context.syscallNumber = some .rpcOpen) :
    SyscallOutcome arch runtime activeThread context (runtime.rpcOpen activeThread context) := by
  have hrefuse : ∀ status, status ≠ Status.ok → SyscallOutcome arch runtime activeThread context
      (status, runtime) := fun status hstatus =>
    refused_outcome hsyscall (by decide) (by decide) hstatus fun _ => rfl
  unfold rpcOpen
  dsimp only
  split
  · exact hrefuse _ (by decide)
  split
  · rename_i hname
    exact hrefuse _ hname
  split
  · exact hrefuse _ (by decide)
  rename_i endpoint hfound
  split
  · exact hrefuse _ (by decide)
  rename_i serverThread howner
  split
  · exact hrefuse _ (by decide)
  rename_i halive
  split
  · exact hrefuse _ (by decide)
  rename_i ref channels next hemplace
  rw [emplaced_handle hemplace]
  split
  · rename_i hwrite
    exact .openFailed _ ref endpoint channels next _ hsyscall hwrite hemplace
  · exact .opened ref endpoint _ serverThread channels next _ hsyscall hfound howner halive
      hemplace

/-- `prepare_server_thread` fails having written memory only, or prepares the callback. -/
theorem prepareServerThread_cases (arch : Arch) (runtime : UserRuntime) (endpoint : RpcEndpoint)
    (serverThread : ThreadRef) (clientProcess : ProcessRef)
    (clientRequestAddress requestSize : UInt64) :
    (∃ status memory, status ≠ Status.ok ∧
      runtime.prepareServerThread arch endpoint serverThread clientProcess clientRequestAddress
        requestSize = (status, { runtime with memory := memory })) ∨
    ∃ memory requestAddress stackPointer,
      runtime.prepareServerThread arch endpoint serverThread clientProcess clientRequestAddress
        requestSize = (Status.ok, runtime.serverPrepared memory endpoint serverThread
          requestAddress requestSize stackPointer) := by
  unfold prepareServerThread
  split
  · exact .inl ⟨_, runtime.memory, by decide, rfl⟩
  split
  · exact .inl ⟨_, runtime.memory, by decide, rfl⟩
  split
  · exact .inl ⟨_, runtime.memory, by decide, rfl⟩
  dsimp only
  split
  · exact .inl ⟨_, runtime.memory, by decide, rfl⟩
  split
  · rename_i hstatus
    exact .inl ⟨_, _, hstatus, rfl⟩
  · exact .inr ⟨_, _, _, rfl⟩

/-- Delivering a request succeeds or faults. -/
theorem deliverRequest_status (arch : Arch) (server client : AddressSpace) (memory : ByteMemory)
    (completionAddress savedStackPointer clientRequestAddress requestSize : UInt64) :
    (deliverRequest arch server client memory completionAddress savedStackPointer
        clientRequestAddress requestSize).1 = Status.ok ∨
      (deliverRequest arch server client memory completionAddress savedStackPointer
        clientRequestAddress requestSize).1 = Status.fault := by
  cases arch with
  | x64 =>
    simp only [deliverRequest]
    split
    · exact .inr rfl
    split
    · exact .inr rfl
    split
    · exact copyBetweenUserProcessesLoop_status _ _ _ _ _ _ _
    · exact writeUserBytesLoop_status _ _ _ _ _
  | arm64 =>
    simp only [deliverRequest]
    split
    · exact .inr rfl
    · exact copyBetweenUserProcessesLoop_status _ _ _ _ _ _ _

/-- A successful `prepare_server_thread` has delivered the request. -/
theorem prepareServerThread_ok {arch : Arch} {runtime : UserRuntime} {endpoint : RpcEndpoint}
    {serverThread : ThreadRef} {clientProcess : ProcessRef}
    {clientRequestAddress requestSize : UInt64}
    (h : (runtime.prepareServerThread arch endpoint serverThread clientProcess
      clientRequestAddress requestSize).1 = Status.ok) :
    ∃ serverProcess memory requestAddress stackPointer,
      endpoint.ownerProcess = some serverProcess ∧ requestSize ≠ 0 ∧
      deliverRequest arch (runtime.process serverProcess).addressSpaceInfo
        (runtime.process clientProcess).addressSpaceInfo runtime.memory
        endpoint.completionAddress (runtime.thread serverThread).userContext.stackPointer
        clientRequestAddress requestSize = (Status.ok, memory, requestAddress, stackPointer) ∧
      (runtime.prepareServerThread arch endpoint serverThread clientProcess
          clientRequestAddress requestSize).2 =
        runtime.serverPrepared memory endpoint serverThread requestAddress requestSize
          stackPointer := by
  revert h
  unfold prepareServerThread
  split
  · intro h
    cases h
  rename_i serverProcess howner
  split
  · intro h
    cases h
  rename_i harguments
  split
  · intro h
    cases h
  dsimp only
  split
  · intro h
    cases h
  split
  · rename_i hstatus
    intro h
    exact absurd h hstatus
  · rename_i hstatus
    intro _
    refine ⟨serverProcess, _, _, _, howner, fun hzero => harguments (.inr (.inl hzero)), ?_, rfl⟩
    ext1
    · exact not_not.mp hstatus
    · rfl

/-- Where the arm64 kernel puts a delivered request. -/
theorem deliverRequest_arm64_ok {server client : AddressSpace} {memory memory' : ByteMemory}
    {completionAddress savedStackPointer clientRequestAddress requestSize requestAddress
      stackPointer : UInt64}
    (h : deliverRequest .arm64 server client memory completionAddress savedStackPointer
      clientRequestAddress requestSize = (Status.ok, memory', requestAddress, stackPointer)) :
    requestAddress = alignDown (savedStackPointer - requestSize) 16 ∧
      stackPointer = requestAddress := by
  simp only [deliverRequest] at h
  split at h
  · simp [Status.fault, Status.ok] at h
  · simp only [Prod.mk.injEq] at h
    exact ⟨h.2.2.1.symm, h.2.2.2.symm.trans h.2.2.1⟩

/-- Where the x64 kernel puts a delivered request. -/
theorem deliverRequest_x64_ok {server client : AddressSpace} {memory memory' : ByteMemory}
    {completionAddress savedStackPointer clientRequestAddress requestSize requestAddress
      stackPointer : UInt64}
    (h : deliverRequest .x64 server client memory completionAddress savedStackPointer
      clientRequestAddress requestSize = (Status.ok, memory', requestAddress, stackPointer)) :
    requestAddress = alignDown (savedStackPointer - requestSize) 16 ∧
      stackPointer = requestAddress - 8 := by
  simp only [deliverRequest] at h
  split at h
  · simp [Status.fault, Status.ok] at h
  split at h
  · simp [Status.fault, Status.ok] at h
  split at h
  · rename_i hstatus
    exact absurd (congrArg Prod.fst h) hstatus
  · simp only [Prod.mk.injEq] at h
    refine ⟨h.2.2.1.symm, ?_⟩
    rw [← h.2.2.1]
    exact h.2.2.2.symm

/-- The handle checks fail only with an error status. -/
theorem resolveChannel_error {ownerProcess : ProcessRef} {channelHandle : Handle} {status : Int32}
    (h : runtime.resolveChannel ownerProcess channelHandle = .error status) :
    status ≠ Status.ok := by
  unfold resolveChannel at h
  split at h
  · obtain rfl := Except.error.inj h
    split <;> decide
  · split at h
    · cases h
    · obtain rfl := Except.error.inj h
      decide

/-- The checks of `SYSCALL_RPC_CALL` fail only with an error status. -/
theorem resolveCall_error {status : Int32}
    (h : runtime.resolveCall activeThread context = .error status) : status ≠ Status.ok := by
  unfold resolveCall at h
  split at h
  · obtain rfl := Except.error.inj h
    decide
  split at h
  · obtain rfl := Except.error.inj h
    decide
  split at h
  · rename_i hchannel
    obtain rfl := Except.error.inj h
    exact resolveChannel_error hchannel
  dsimp only at h
  split at h
  · obtain rfl := Except.error.inj h
    decide
  split at h
  · obtain rfl := Except.error.inj h
    decide
  split at h
  · obtain rfl := Except.error.inj h
    decide
  · cases h

theorem rpcCall_outcome (hsyscall : Syscall.ofNumber context.syscallNumber = some .rpcCall) :
    SyscallOutcome arch runtime activeThread context
      (runtime.rpcCall arch activeThread context) := by
  have hrefuse : ∀ status memory, status ≠ Status.ok →
      SyscallOutcome arch runtime activeThread context
        (status, { runtime with memory := memory }) := fun status memory hstatus =>
    refused_outcome hsyscall (by decide) (by decide) hstatus fun h => absurd rfl h
  unfold rpcCall
  cases hresolve : runtime.resolveCall activeThread context with
  | error status => exact hrefuse status runtime.memory (resolveCall_error hresolve)
  | ok target =>
    obtain ⟨ref, serverThread⟩ := target
    dsimp only
    rcases prepareServerThread_cases arch runtime
      (runtime.endpoints (runtime.channel ref).endpoint) serverThread
      (runtime.thread activeThread).process context.argument1 context.argument2 with
      ⟨status, memory, hstatus, hprepare⟩ | ⟨memory, requestAddress, stackPointer, hprepare⟩
    · rw [hprepare]
      dsimp only
      rw [if_pos hstatus]
      exact hrefuse status memory hstatus
    · rw [hprepare]
      dsimp only
      rw [if_neg (by decide)]
      by_cases hself : serverThread ≠ activeThread
      · rw [if_pos hself]
        exact .called ref serverThread memory requestAddress stackPointer hsyscall hresolve hself
      · rw [if_neg hself]
        obtain rfl := not_ne_iff.mp hself
        exact .calledSelf ref memory requestAddress stackPointer hsyscall hresolve

theorem rpcClose_outcome (hsyscall : Syscall.ofNumber context.syscallNumber = some .rpcClose) :
    SyscallOutcome arch runtime activeThread context (runtime.rpcClose activeThread context) := by
  have hrefuse : ∀ status, status ≠ Status.ok → SyscallOutcome arch runtime activeThread context
      (status, runtime) := fun status hstatus =>
    refused_outcome hsyscall (by decide) (by decide) hstatus fun _ => rfl
  unfold rpcClose resolveChannel
  dsimp only
  split
  · exact hrefuse _ (by decide)
  cases hfind : runtime.channels.findByHandle context.argument0 with
  | none =>
    refine hrefuse _ ?_
    split <;> decide
  | some ref =>
    dsimp only
    by_cases howner : (runtime.channel ref).clientProcess = (runtime.thread activeThread).process
    · rw [if_pos howner]
      dsimp only
      split
      · exact hrefuse _ (by decide)
      · rename_i hidle
        rw [Bool.not_eq_true] at hidle
        have hclosed : SyscallOutcome arch runtime activeThread context (Status.ok,
            { runtime with channels := (runtime.channels.eraseByHandle context.argument0).2 }) :=
          .closed ref hsyscall hfind hidle
        simpa only [KernelObjectPool.eraseByHandle, hfind, if_true] using hclosed
    · rw [if_neg howner]
      exact hrefuse _ (by decide)

theorem rpcComplete_outcome
    (hsyscall : Syscall.ofNumber context.syscallNumber = some .rpcComplete) :
    SyscallOutcome arch runtime activeThread context
      (runtime.rpcComplete arch activeThread context) := by
  unfold rpcComplete completeCall
  cases hfind : runtime.findPendingChannelByServerThread activeThread with
  | none =>
    refine .kept _ runtime.memory runtime.debugLog ?_ (fun _ => hfind) fun _ => rfl
    intro syscall hs
    rw [hsyscall, Option.some.injEq] at hs
    exact ⟨hs ▸ by decide, fun _ => by decide⟩
  | some ref =>
    dsimp only
    have hpending := firstIndex_some hfind
    cases hitem : runtime.channels.items ref with
    | none => simp [isPendingOn, hitem] at hpending
    | some channel =>
      have hchannel : runtime.channel ref = channel := KernelObjectPool.get_of_items hitem
      cases hcall : channel.pendingCall with
      | none => simp [isPendingOn, hitem, hcall] at hpending
      | some call =>
        rw [hchannel, hcall]
        dsimp only
        by_cases hself : call.clientThread = activeThread
        · rw [if_pos hself]
          exact .completedSelf ref call hsyscall hfind (hchannel ▸ hcall) hself
        · rw [if_neg hself]
          exact .completed ref call hsyscall hfind (hchannel ▸ hcall) hself

/-- Every syscall ends in one of the listed outcomes. -/
theorem dispatchActive_outcome (arch : Arch) (runtime : UserRuntime) (activeThread : ThreadRef)
    (context : UserSyscallContext) :
    SyscallOutcome arch runtime activeThread context
      (runtime.dispatchActive arch activeThread context) := by
  unfold dispatchActive
  split
  case h_1 hsyscall =>
    -- `SYSCALL_DEBUG_LOG` is the one syscall that succeeds without changing a table.
    have hkeep : ∀ status debugLog, SyscallOutcome arch runtime activeThread context
        (status, { runtime with debugLog := debugLog }) := by
      intro status debugLog
      refine .kept status runtime.memory debugLog ?_ ?_ fun _ => rfl
      · intro syscall hs
        rw [hsyscall, Option.some.injEq] at hs
        subst hs
        exact ⟨by decide, fun h => absurd rfl h⟩
      · intro hs
        rw [hsyscall] at hs
        cases hs
    unfold debugLogSyscall
    dsimp only
    split
    · exact hkeep _ runtime.debugLog
    split
    · exact hkeep _ runtime.debugLog
    · exact hkeep _ _
  case h_2 hsyscall => exact .exited hsyscall
  case h_3 hsyscall => exact rpcRegister_outcome hsyscall
  case h_4 hsyscall => exact rpcOpen_outcome hsyscall
  case h_5 hsyscall => exact rpcCall_outcome hsyscall
  case h_6 hsyscall => exact rpcClose_outcome hsyscall
  case h_7 hsyscall => exact rpcComplete_outcome hsyscall
  case h_8 hsyscall =>
    split
    · exact refused_outcome hsyscall (by decide) (by decide) (by decide) fun _ => rfl
    · exact refused_outcome hsyscall (by decide) (by decide) (by decide) fun _ => rfl
  case h_9 hsyscall =>
    refine .kept _ runtime.memory runtime.debugLog ?_ ?_ fun _ => rfl
    · intro syscall hs
      rw [hsyscall] at hs
      cases hs
    · intro hs
      rw [hsyscall] at hs
      cases hs

/-- What preparing a callback keeps of every thread. -/
theorem thread_serverPrepared_keeps {β : Type} {memory : ByteMemory} {endpoint : RpcEndpoint}
    {serverThread : ThreadRef} {requestAddress requestSize stackPointer : UInt64} (g : Thread → β)
    (hg : ∀ callback completion argument0 argument1 stack thread, g (Thread.prepareRpcResume
      callback completion argument0 argument1 stack thread) = g thread) (t : ThreadRef) :
    g ((runtime.serverPrepared memory endpoint serverThread requestAddress requestSize
      stackPointer).thread t) = g (runtime.thread t) :=
  (thread_modifyThread_keeps g (hg _ _ _ _ _) t).trans rfl

/-- What blocking a thread and switching to another keeps of every thread. -/
theorem switched_keeps {β : Type} {active next : ThreadRef} {state : UserThreadState}
    (g : Thread → β) (hg : ∀ state thread, g (Thread.setState state thread) = g thread)
    (t : ThreadRef) :
    g (((runtime.modifyThread active (Thread.setState state)).setCurrentThread
      (some next)).thread t) = g (runtime.thread t) := by
  rw [thread_setCurrentThread, hg]
  exact thread_modifyThread_keeps g (hg state) t

/-- What a call that passed its checks has resolved. -/
theorem resolveCall_ok {ref : ChannelRef} {serverThread : ThreadRef}
    (h : runtime.resolveCall activeThread context = .ok (ref, serverThread)) :
    runtime.channels.findByHandle context.argument0 = some ref ∧
      (runtime.channel ref).clientProcess = (runtime.thread activeThread).process ∧
      (runtime.endpointOf ref).ownerThread = some serverThread ∧
      (runtime.thread serverThread).state ≠ .exited ∧
      (runtime.endpointOf ref).isInUse = true ∧ (runtime.endpointOf ref).isBusy = false ∧
      (runtime.channel ref).pendingCall = none := by
  unfold resolveCall at h
  split at h
  · cases h
  split at h
  · cases h
  split at h
  · cases h
  rename_i found hfound
  dsimp only at h
  split at h
  · cases h
  rename_i server howner
  split at h
  · cases h
  rename_i halive
  split at h
  · cases h
  rename_i hfree
  simp only [Except.ok.injEq, Prod.mk.injEq] at h
  obtain ⟨rfl, rfl⟩ := h
  unfold resolveChannel at hfound
  split at hfound
  · cases hfound
  rename_i slot hslot
  split at hfound
  · rename_i hprocess
    obtain rfl : slot = found := Except.ok.inj hfound
    have hinUse : (runtime.endpointOf slot).isInUse = true := by
      by_contra hn
      exact hfree (.inl (by simpa [endpointOf] using hn))
    have hidle : (runtime.endpointOf slot).isBusy = false := by
      by_contra hn
      exact hfree (.inr (.inl (by simpa [endpointOf] using hn)))
    have hcall : (runtime.channel slot).pendingCall = none := by
      by_contra hn
      exact hfree (.inr (.inr (Option.isSome_iff_ne_none.mpr hn)))
    exact ⟨hslot, hprocess, howner, halive, hinUse, hidle, hcall⟩
  · cases hfound

end UserRuntime

end Ringos.Kernel
