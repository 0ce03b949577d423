import Ringos.Scheduler.Runs

/-!
# What a channel handle stands for

A history remembers, for each endpoint slot, the registration that filled it
last and, for each handle `RPC_OPEN` has returned, the registration it was
opened against and whether its server has exited since. As long as no
registration takes a slot that a live channel points to and no handle value is
handed out twice, every call on a handle goes to the registration the handle was
opened against, and to nobody once its server has exited.
-/

namespace Ringos.Kernel

open Ringos.Core

/-- What a thread passes to `RPC_REGISTER`. -/
structure Registration where
  server : ThreadRef
  callbackAddress : UInt64
  completionAddress : UInt64
  deriving DecidableEq

/-- The registrations that slots and handles stand for. -/
structure BindingLog where
  /-- The registration that filled an endpoint slot last. -/
  registered : EndpointRef → Option Registration
  /-- The registration a handle was opened against, and whether its server has exited since. -/
  opened : Handle → Option (Registration × Bool)

/-- Nothing has been registered or opened. -/
def BindingLog.empty : BindingLog := ⟨fun _ => none, fun _ => none⟩

namespace UserRuntime

variable {arch : Arch} {runtime : UserRuntime}

/-- The handle and the endpoint of the channel in a slot. -/
def channelKey (runtime : UserRuntime) (c : ChannelRef) : Option (Handle × EndpointRef) :=
  (runtime.channels.items c).map fun channel => (channel.handle, channel.endpoint)

/-- An endpoint without its busy flag, which only calls change. -/
def idleEndpoint (runtime : UserRuntime) (e : EndpointRef) : RpcEndpoint :=
  (runtime.endpoints e).setBusy false

/-- A registration has brought the endpoint into use. -/
def newlyInUse (before after : UserRuntime) (e : EndpointRef) : Bool :=
  !(before.endpoints e).isInUse && (after.endpoints e).isInUse

/-- The channel that a step has opened. -/
def newChannel (before after : UserRuntime) : Option (Handle × EndpointRef) :=
  (firstIndex fun c => (before.channelKey c).isNone && (after.channelKey c).isSome).bind
    after.channelKey

/-- The log after a syscall of `active` that is no exit. -/
def recordSyscall (before after : UserRuntime) (active : ThreadRef) (context : UserSyscallContext)
    (log : BindingLog) : BindingLog where
  registered e :=
    if newlyInUse before after e then some ⟨active, context.argument1, context.argument2⟩
    else log.registered e
  opened :=
    match newChannel before after with
    | none => log.opened
    | some (handle, e) =>
      Function.update log.opened handle ((log.registered e).map fun r => (r, false))

/-- The log after an exit. -/
def recordExit (thread : ThreadRef) (log : BindingLog) : BindingLog where
  registered := log.registered
  opened handle := (log.opened handle).map fun (registration, gone) =>
    (registration, gone || registration.server == thread)

/-- The log after a step. -/
def recordBindings (arch : Arch) (before : UserRuntime) (action : Action) (log : BindingLog) :
    BindingLog :=
  match before.exiting action, action, before.currentThread with
  | some thread, _, _ => recordExit thread log
  | none, .syscall context, some active =>
    recordSyscall before (before.act arch action) active context log
  | _, _, _ => log

/-- The runtime with its binding log. -/
def bindingSystem (arch : Arch) : TransitionSystem (UserRuntime × BindingLog) Action :=
  (runtimeSystem arch).withHistory (fun _ => .empty) (recordBindings arch)

/-- No registration takes an endpoint slot that a live channel points to. -/
def RegistersUnreferenced (runtime : UserRuntime) : Action → Prop
  | .syscall context =>
    Syscall.ofNumber context.syscallNumber = some .rpcRegister →
      ∀ active ∈ runtime.currentThread,
        ∀ target ∈ (runtime.resolveRegistration active context).toOption,
          ∀ c, ∀ key ∈ runtime.channelKey c, key.2 ≠ target.1
  | _ => True

/-- No `RPC_OPEN` is about to hand out a handle value that one has returned before. -/
def OpensUnseenHandle (s : UserRuntime × BindingLog) : Action → Prop
  | .syscall context =>
    Syscall.ofNumber context.syscallNumber = some .rpcOpen →
      (s.2.opened s.1.nextHandleValue).isNone = true
  | _ => True

/-- The conditions under which handles keep their meaning. -/
structure KeepsBindings (s : UserRuntime × BindingLog) (action : Action) : Prop where
  unreferenced : s.1.RegistersUnreferenced action
  unseen : OpensUnseenHandle s action

/-- What a step can do to channels and endpoints, apart from calls. -/
inductive BindingEffect (before : UserRuntime) (active : ThreadRef)
    (context : UserSyscallContext) (after : UserRuntime) : Prop
  | kept : after.channelKey = before.channelKey → after.idleEndpoint = before.idleEndpoint →
      BindingEffect before active context after
  | registered (ref : EndpointRef) (endpointName : List UInt8) :
      Syscall.ofNumber context.syscallNumber = some .rpcRegister →
      before.resolveRegistration active context = .ok (ref, endpointName) →
      after.channelKey = before.channelKey →
      after.idleEndpoint = Function.update before.idleEndpoint ref
        (RpcEndpoint.initialized (before.thread active).process active endpointName
          context.argument1 context.argument2) → BindingEffect before active context after
  | opened (c : ChannelRef) (e : EndpointRef) :
      Syscall.ofNumber context.syscallNumber = some .rpcOpen →
      before.channelKey c = none → (before.endpoints e).isInUse = true →
      after.channelKey = Function.update before.channelKey c (some (before.nextHandleValue, e)) →
      after.idleEndpoint = before.idleEndpoint → BindingEffect before active context after
  | closed (c : ChannelRef) (handle : Handle) (e : EndpointRef) :
      before.channelKey c = some (handle, e) →
      Syscall.ofNumber context.syscallNumber = some .rpcClose →
      after.channelKey = Function.update before.channelKey c none →
      after.idleEndpoint = before.idleEndpoint → BindingEffect before active context after
  | exited : Syscall.ofNumber context.syscallNumber = some .threadExit →
      after.channelKey = before.channelKey →
      after.idleEndpoint = (fun e =>
        if (before.idleEndpoint e).ownerThread = some active then RpcEndpoint.cleared
        else before.idleEndpoint e) → BindingEffect before active context after

/-- A write that keeps handle and endpoint keeps the key. -/
theorem channelKey_modifyChannel (ref : ChannelRef) {f : RpcChannel → RpcChannel}
    (hf : ∀ channel, (f channel).handle = channel.handle ∧
      (f channel).endpoint = channel.endpoint) :
    (runtime.modifyChannel ref f).channelKey = runtime.channelKey := by
  funext c
  unfold channelKey modifyChannel
  by_cases hc : c = ref
  · subst hc
    simp only [KernelObjectPool.modify_items_self, Option.map_map, Function.comp_def, hf]
  · rw [KernelObjectPool.modify_items_of_ne _ hc]

/-- The busy flag is not seen. -/
theorem idleEndpoint_setBusy (ref : EndpointRef) (isBusy : Bool) :
    (runtime.modifyEndpoint ref (RpcEndpoint.setBusy isBusy)).idleEndpoint =
      runtime.idleEndpoint := by
  funext e
  unfold idleEndpoint modifyEndpoint
  by_cases he : e = ref
  · subst he
    simp only [Function.update_self, RpcEndpoint.setBusy]
  · simp only [Function.update_of_ne he]

@[simp] theorem channelKey_beginCall (ref : ChannelRef) (client server : ThreadRef) :
    (runtime.beginCall ref client server).channelKey = runtime.channelKey :=
  channelKey_modifyChannel ref fun _ => ⟨rfl, rfl⟩

@[simp] theorem idleEndpoint_beginCall (ref : ChannelRef) (client server : ThreadRef) :
    (runtime.beginCall ref client server).idleEndpoint = runtime.idleEndpoint :=
  idleEndpoint_setBusy _ true

@[simp] theorem channelKey_cancelCall (ref : ChannelRef) :
    (runtime.cancelCall ref).channelKey = runtime.channelKey :=
  channelKey_modifyChannel ref fun _ => ⟨rfl, rfl⟩

@[simp] theorem idleEndpoint_cancelCall (ref : ChannelRef) :
    (runtime.cancelCall ref).idleEndpoint = runtime.idleEndpoint :=
  idleEndpoint_setBusy _ false

@[simp] theorem channelKey_setCurrentThread (next : Option ThreadRef) :
    (runtime.setCurrentThread next).channelKey = runtime.channelKey := by
  funext c
  simp only [channelKey, setCurrentThread_channels]

@[simp] theorem idleEndpoint_setCurrentThread (next : Option ThreadRef) :
    (runtime.setCurrentThread next).idleEndpoint = runtime.idleEndpoint := by
  funext e
  simp only [idleEndpoint, setCurrentThread_endpoints]

/-- A registration fills its slot. -/
theorem idleEndpoint_registerEndpoint (ref : EndpointRef) (active : ThreadRef)
    (endpointName : List UInt8) (callbackAddress completionAddress : UInt64) :
    (runtime.registerEndpoint ref active endpointName callbackAddress
      completionAddress).idleEndpoint = Function.update runtime.idleEndpoint ref
        (RpcEndpoint.initialized (runtime.thread active).process active endpointName
          callbackAddress completionAddress) := by
  funext e
  unfold idleEndpoint registerEndpoint modifyEndpoint
  by_cases he : e = ref
  · subst he
    simp only [Function.update_self]
    rfl
  · simp only [Function.update_of_ne he]

/-- A new channel occupies a free slot and carries the next handle. -/
theorem channelKey_emplace {channels : KernelObjectPool RpcChannel maxRpcChannels}
    {next nextHandle : Handle} (memory : ByteMemory) {clientProcess : ProcessRef}
    {endpoint : EndpointRef} {ref : ChannelRef}
    (h : runtime.channels.emplace next (RpcChannel.create clientProcess endpoint) =
      some (ref, channels, nextHandle)) :
    runtime.channelKey ref = none ∧
      UserRuntime.channelKey { runtime with
        channels := channels, nextHandleValue := nextHandle, memory := memory } =
          Function.update runtime.channelKey ref (some (next, endpoint)) := by
  obtain ⟨hfree, hitems, -⟩ := KernelObjectPool.emplace_eq_some h
  refine ⟨by simp only [channelKey, hfree, Option.map_none], funext fun c => ?_⟩
  unfold channelKey
  simp only [hitems]
  by_cases hc : c = ref
  · subst hc
    simp only [Function.update_self]
    rfl
  · simp only [Function.update_of_ne hc]

/-- Erasing by handle empties the slot found. -/
theorem channelKey_eraseByHandle (runtime : UserRuntime) {handleValue : Handle} {ref : ChannelRef}
    (h : runtime.channels.findByHandle handleValue = some ref) :
    UserRuntime.channelKey { runtime with
      channels := (runtime.channels.eraseByHandle handleValue).2 } =
        Function.update runtime.channelKey ref none := by
  funext c
  unfold channelKey KernelObjectPool.eraseByHandle
  simp only [h]
  by_cases hc : c = ref
  · subst hc
    simp only [Function.update_self, Option.map_none]
  · simp only [Function.update_of_ne hc]

/-- A resolved handle is the key of the slot found. -/
theorem channelKey_of_findByHandle {handleValue : Handle} {ref : ChannelRef}
    (h : runtime.channels.findByHandle handleValue = some ref) :
    runtime.channelKey ref = some (handleValue, (runtime.channel ref).endpoint) := by
  obtain ⟨channel, hitem, hhandle⟩ := KernelObjectPool.findByHandle_eq_some h
  have hchannel : runtime.channel ref = channel := KernelObjectPool.get_of_items hitem
  rw [channelKey, hitem, hchannel, Option.map_some, ← hhandle]
  rfl

/-- With a handle that no channel carries, undoing an open restores the table. -/
theorem channelKey_openFailed {channels : KernelObjectPool RpcChannel maxRpcChannels}
    {next : Handle} (memory : ByteMemory) {clientProcess : ProcessRef}
    {endpoint : EndpointRef} {ref : ChannelRef}
    (h : runtime.channels.emplace runtime.nextHandleValue
      (RpcChannel.create clientProcess endpoint) = some (ref, channels, next))
    (hfresh : ∀ c key, runtime.channelKey c = some key → key.1 ≠ runtime.nextHandleValue) :
    UserRuntime.channelKey { runtime with
      channels := (channels.eraseByHandle runtime.nextHandleValue).2
      nextHandleValue := next
      memory := memory } = runtime.channelKey := by
  obtain ⟨hfree, hopened⟩ := channelKey_emplace memory h
  obtain ⟨_, hitems, _⟩ := KernelObjectPool.emplace_eq_some h
  have hfind : channels.findByHandle runtime.nextHandleValue = some ref := by
    refine firstIndex_eq_some ?_ fun c hc => ?_
    · simp only [hitems, Function.update_self]
      exact beq_self_eq_true _
    · by_contra hne
      have hother : c ≠ ref := fun he => hne (he ▸ le_refl ref)
      rw [hitems, Function.update_of_ne hother] at hc
      split at hc
      · cases hc
      · rename_i channel hchannel
        refine hfresh c (channel.handle, channel.endpoint) ?_ (eq_of_beq hc)
        simp only [channelKey, hchannel, Option.map_some]
  refine (channelKey_eraseByHandle { runtime with
    channels := channels, nextHandleValue := next, memory := memory } hfind).trans ?_
  rw [hopened, Function.update_idem, ← hfree, Function.update_eq_self]

/-- An exit clears the endpoints of the exiting thread. -/
theorem terminateCurrentThread_bindings (arch : Arch) {active : ThreadRef}
    (hcurrent : runtime.currentThread = some active) (exitStatus : UInt64)
    (peerFailureStatus : Int32) :
    (runtime.terminateCurrentThread arch exitStatus peerFailureStatus).2.channelKey =
      runtime.channelKey ∧
    (runtime.terminateCurrentThread arch exitStatus peerFailureStatus).2.idleEndpoint =
      fun e => if (runtime.idleEndpoint e).ownerThread = some active then RpcEndpoint.cleared
        else runtime.idleEndpoint e := by
  simp only [terminateCurrentThread, hcurrent]
  have hchannels := failPendingCall_keeps channelKey arch runtime active peerFailureStatus
    channelKey_cancelCall fun _ _ => rfl
  have hendpoints := failPendingCall_keeps idleEndpoint arch runtime active peerFailureStatus
    idleEndpoint_cancelCall fun _ _ => rfl
  refine ⟨(scheduleNextReadyThread_keeps channelKey _ channelKey_setCurrentThread rfl).trans
      hchannels,
    (scheduleNextReadyThread_keeps idleEndpoint _ idleEndpoint_setCurrentThread rfl).trans ?_⟩
  rw [← hendpoints]
  funext e
  simp only [handleThreadExit, clearEndpointsOwnedBy, idleEndpoint, modifyThread,
    RpcEndpoint.setBusy]
  split
  · rename_i howner
    exact (if_pos howner).symm
  · rename_i howner
    exact (if_neg howner).symm

/-- What a step can do to the endpoint table, apart from the busy flags. -/
inductive EndpointEffect (before : UserRuntime) (active : ThreadRef)
    (context : UserSyscallContext) (after : UserRuntime) : Prop
  | kept : Syscall.ofNumber context.syscallNumber ≠ some .threadExit →
      after.idleEndpoint = before.idleEndpoint → EndpointEffect before active context after
  | registered (ref : EndpointRef) (endpointName : List UInt8) :
      Syscall.ofNumber context.syscallNumber = some .rpcRegister →
      before.resolveRegistration active context = .ok (ref, endpointName) →
      after.idleEndpoint = Function.update before.idleEndpoint ref
        (RpcEndpoint.initialized (before.thread active).process active endpointName
          context.argument1 context.argument2) → EndpointEffect before active context after
  | exited : Syscall.ofNumber context.syscallNumber = some .threadExit →
      after.idleEndpoint = (fun e =>
        if (before.idleEndpoint e).ownerThread = some active then RpcEndpoint.cleared
        else before.idleEndpoint e) → EndpointEffect before active context after

/-- What a syscall does to the endpoint table. -/
theorem outcome_endpoints {active : ThreadRef} {context : UserSyscallContext}
    {result : Int32 × UserRuntime} (hcurrent : runtime.currentThread = some active)
    (h : SyscallOutcome arch runtime active context result) :
    EndpointEffect runtime active context result.2 := by
  have hnot : ∀ {syscall}, Syscall.ofNumber context.syscallNumber = some syscall →
      syscall ≠ .threadExit → Syscall.ofNumber context.syscallNumber ≠ some .threadExit :=
    fun hsyscall hne hexit => hne (Option.some.inj (hsyscall.symm.trans hexit))
  cases h with
  | kept status memory debugLog hsyscall _ _ => exact .kept (fun h => (hsyscall _ h).1 rfl) rfl
  | exited hsyscall =>
    exact .exited hsyscall (terminateCurrentThread_bindings arch hcurrent context.argument0
      Status.peerClosed).2
  | registered ref endpointName hsyscall hresolve =>
    exact .registered ref endpointName hsyscall hresolve
      (idleEndpoint_registerEndpoint ref active endpointName _ _)
  | yielded ref endpointName nextThread hsyscall hresolve _ _ =>
    refine .registered ref endpointName hsyscall hresolve ?_
    rw [idleEndpoint_setCurrentThread]
    exact idleEndpoint_registerEndpoint ref active endpointName _ _
  | opened ref endpoint endpointName serverThread channels next memory hsyscall _ _ _ _ =>
    exact .kept (hnot hsyscall (by decide)) rfl
  | openFailed status ref endpoint channels next memory hsyscall _ _ =>
    exact .kept (hnot hsyscall (by decide)) rfl
  | called ref serverThread memory requestAddress stackPointer hsyscall _ _ =>
    refine .kept (hnot hsyscall (by decide)) ?_
    rw [idleEndpoint_setCurrentThread]
    exact idleEndpoint_beginCall ref active serverThread
  | calledSelf ref memory requestAddress stackPointer hsyscall _ =>
    exact .kept (hnot hsyscall (by decide)) (idleEndpoint_beginCall ref active active)
  | closed ref hsyscall _ _ => exact .kept (hnot hsyscall (by decide)) rfl
  | completed ref call hsyscall _ _ _ =>
    refine .kept (hnot hsyscall (by decide)) ?_
    rw [idleEndpoint_setCurrentThread]
    exact idleEndpoint_cancelCall ref
  | completedSelf ref call hsyscall _ _ _ =>
    exact .kept (hnot hsyscall (by decide)) (idleEndpoint_cancelCall ref)

/-- What a syscall does to channels and endpoints, when the next handle is unused. -/
theorem outcome_binding {active : ThreadRef} {context : UserSyscallContext}
    {result : Int32 × UserRuntime} (hcurrent : runtime.currentThread = some active)
    (hfresh : Syscall.ofNumber context.syscallNumber = some .rpcOpen →
      ∀ c key, runtime.channelKey c = some key → key.1 ≠ runtime.nextHandleValue)
    (h : SyscallOutcome arch runtime active context result) :
    BindingEffect runtime active context result.2 := by
  cases h with
  | kept status memory debugLog _ _ _ => exact .kept rfl rfl
  | exited hsyscall =>
    obtain ⟨hkeys, hendpoints⟩ := terminateCurrentThread_bindings arch hcurrent context.argument0
      Status.peerClosed
    exact .exited hsyscall hkeys hendpoints
  | registered ref endpointName hsyscall hresolve =>
    exact .registered ref endpointName hsyscall hresolve rfl
      (idleEndpoint_registerEndpoint ref active endpointName _ _)
  | yielded ref endpointName nextThread hsyscall hresolve _ _ =>
    refine .registered ref endpointName hsyscall hresolve ?_ ?_
    · rw [channelKey_setCurrentThread]
      rfl
    · rw [idleEndpoint_setCurrentThread]
      exact idleEndpoint_registerEndpoint ref active endpointName _ _
  | opened ref endpoint endpointName serverThread channels next memory hsyscall hfound _ _
      hemplace =>
    obtain ⟨hfree, hkeys⟩ := channelKey_emplace memory hemplace
    have hinUse : (runtime.endpoints endpoint).isInUse = true := by
      have hmatch := firstIndex_some hfound
      simp only [RpcEndpoint.matchesName, Bool.and_eq_true] at hmatch
      exact hmatch.1
    exact .opened ref endpoint hsyscall hfree hinUse hkeys rfl
  | openFailed status ref endpoint channels next memory hsyscall _ hemplace =>
    exact .kept (channelKey_openFailed memory hemplace (hfresh hsyscall)) rfl
  | called ref serverThread memory requestAddress stackPointer _ _ _ =>
    refine .kept ?_ ?_
    · rw [channelKey_setCurrentThread]
      exact channelKey_beginCall ref active serverThread
    · rw [idleEndpoint_setCurrentThread]
      exact idleEndpoint_beginCall ref active serverThread
  | calledSelf ref memory requestAddress stackPointer _ _ =>
    exact .kept (channelKey_beginCall ref active active) (idleEndpoint_beginCall ref active active)
  | closed ref hsyscall hfind _ =>
    exact .closed ref context.argument0 _ (channelKey_of_findByHandle hfind) hsyscall
      (channelKey_eraseByHandle _ hfind) rfl
  | completed ref call _ _ _ _ =>
    refine .kept ?_ ?_
    · rw [channelKey_setCurrentThread]
      exact channelKey_cancelCall ref
    · rw [idleEndpoint_setCurrentThread]
      exact idleEndpoint_cancelCall ref
  | completedSelf ref call _ _ _ _ =>
    exact .kept (channelKey_cancelCall ref) (idleEndpoint_cancelCall ref)

/-- The write of the trap context is not seen by the checks of a registration. -/
theorem resolveRegistration_enterSyscall (active : ThreadRef) (context : UserSyscallContext) :
    (runtime.enterSyscall active context).resolveRegistration active context =
      runtime.resolveRegistration active context := by
  have hprocess : ((runtime.enterSyscall active context).thread active).process =
      (runtime.thread active).process :=
    thread_enterSyscall_keeps Thread.process (fun _ _ => rfl) active
  simp only [resolveRegistration, hprocess]
  rfl

/-- The effect of a syscall, seen from before the trap. -/
theorem dispatchSyscall_binding (arch : Arch) {active : ThreadRef}
    {context : UserSyscallContext} (hcurrent : runtime.currentThread = some active)
    (hfresh : Syscall.ofNumber context.syscallNumber = some .rpcOpen →
      ∀ c key, runtime.channelKey c = some key → key.1 ≠ runtime.nextHandleValue) :
    BindingEffect runtime active context (runtime.dispatchSyscall arch context).2 := by
  have hentered : (runtime.enterSyscall active context).currentThread = some active := hcurrent
  have heffect := outcome_binding hentered hfresh
    (dispatchActive_outcome arch (runtime.enterSyscall active context) active context)
  simp only [dispatchSyscall, hcurrent]
  have hprocess : ((runtime.enterSyscall active context).thread active).process =
      (runtime.thread active).process :=
    thread_enterSyscall_keeps Thread.process (fun _ _ => rfl) active
  cases heffect with
  | kept hkeys hendpoints => exact .kept hkeys hendpoints
  | registered ref endpointName hsyscall hresolve hkeys hendpoints =>
    rw [resolveRegistration_enterSyscall] at hresolve
    rw [hprocess] at hendpoints
    exact .registered ref endpointName hsyscall hresolve hkeys hendpoints
  | opened c e hsyscall hfree hinUse hkeys hendpoints =>
    exact .opened c e hsyscall hfree hinUse hkeys hendpoints
  | closed c handle e hkey hsyscall hkeys hendpoints =>
    exact .closed c handle e hkey hsyscall hkeys hendpoints
  | exited hsyscall hkeys hendpoints => exact .exited hsyscall hkeys hendpoints

/-- The effect of a syscall on the endpoint table, seen from before the trap. -/
theorem dispatchSyscall_endpoints (arch : Arch) {active : ThreadRef}
    (context : UserSyscallContext) (hcurrent : runtime.currentThread = some active) :
    EndpointEffect runtime active context (runtime.dispatchSyscall arch context).2 := by
  have hentered : (runtime.enterSyscall active context).currentThread = some active := hcurrent
  have heffect := outcome_endpoints hentered
    (dispatchActive_outcome arch (runtime.enterSyscall active context) active context)
  have hprocess : ((runtime.enterSyscall active context).thread active).process =
      (runtime.thread active).process :=
    thread_enterSyscall_keeps Thread.process (fun _ _ => rfl) active
  simp only [dispatchSyscall, hcurrent]
  cases heffect with
  | kept hsyscall hendpoints => exact .kept hsyscall hendpoints
  | registered ref endpointName hsyscall hresolve hendpoints =>
    rw [resolveRegistration_enterSyscall] at hresolve
    rw [hprocess] at hendpoints
    exact .registered ref endpointName hsyscall hresolve hendpoints
  | exited hsyscall hendpoints => exact .exited hsyscall hendpoints

/-- The log describes the channels and endpoints. -/
structure Bound (s : UserRuntime × BindingLog) : Prop where
  /-- A live channel points to the slot of the registration its handle was opened against. -/
  channelBound : ∀ c handle e, s.1.channelKey c = some (handle, e) →
    ∃ registration gone, s.2.opened handle = some (registration, gone) ∧
      s.2.registered e = some registration ∧
      (gone = true → (s.1.idleEndpoint e).ownerThread = none)
  /-- An endpoint in use holds the registration that filled it last. -/
  endpointBound : ∀ e, (s.1.idleEndpoint e).isInUse = true →
    ∃ registration, s.2.registered e = some registration ∧
      (s.1.idleEndpoint e).ownerThread = some registration.server ∧
      (s.1.idleEndpoint e).callbackAddress = registration.callbackAddress ∧
      (s.1.idleEndpoint e).completionAddress = registration.completionAddress
  /-- A free endpoint has no owner. -/
  freeUnowned : ∀ e, (s.1.idleEndpoint e).isInUse = false →
    (s.1.idleEndpoint e).ownerThread = none

/-- A step that leaves channels, endpoints and log alone. -/
theorem Bound.kept {s : UserRuntime × BindingLog} {after : UserRuntime} (h : Bound s)
    (hkeys : after.channelKey = s.1.channelKey)
    (hendpoints : after.idleEndpoint = s.1.idleEndpoint) : Bound (after, s.2) := by
  constructor
  · simpa only [hkeys, hendpoints] using h.channelBound
  · simpa only [hendpoints] using h.endpointBound
  · simpa only [hendpoints] using h.freeUnowned

/-- No endpoint comes into use while the table stays as it is. -/
theorem newlyInUse_of_eq {before after : UserRuntime}
    (h : after.idleEndpoint = before.idleEndpoint) (e : EndpointRef) :
    newlyInUse before after e = false := by
  have hidle : (after.idleEndpoint e).isInUse = (before.idleEndpoint e).isInUse := by rw [h]
  have he : (after.endpoints e).isInUse = (before.endpoints e).isInUse := hidle
  simp only [newlyInUse, he, Bool.not_and_self]

/-- A registration brings its slot into use and no other. -/
theorem newlyInUse_of_register {before after : UserRuntime} {ref : EndpointRef}
    {endpoint : RpcEndpoint} (hfree : (before.endpoints ref).isInUse = false)
    (h : after.idleEndpoint = Function.update before.idleEndpoint ref endpoint)
    (hinUse : endpoint.isInUse = true) (e : EndpointRef) :
    newlyInUse before after e = decide (e = ref) := by
  by_cases he : e = ref
  · subst he
    have hnow : (after.idleEndpoint e).isInUse = true := by rw [h, Function.update_self, hinUse]
    have hnow' : (after.endpoints e).isInUse = true := hnow
    simp only [newlyInUse, hfree, hnow', Bool.not_false, Bool.and_self, decide_true]
  · have hsame : (after.idleEndpoint e).isInUse = (before.idleEndpoint e).isInUse := by
      rw [h, Function.update_of_ne he]
    have hsame' : (after.endpoints e).isInUse = (before.endpoints e).isInUse := hsame
    simp only [newlyInUse, hsame', Bool.not_and_self, he, decide_false]

/-- No channel is new when every channel was there before. -/
theorem newChannel_of_subset {before after : UserRuntime}
    (h : ∀ c, (after.channelKey c).isSome → (before.channelKey c).isSome) :
    newChannel before after = none := by
  have hnone : (firstIndex fun c => (before.channelKey c).isNone &&
      (after.channelKey c).isSome) = none := by
    refine firstIndex_eq_none.mpr fun c => ?_
    cases hafter : (after.channelKey c).isSome with
    | false => exact Bool.and_false _
    | true => simp [h c hafter]
  simp only [newChannel, hnone, Option.bind_none]

/-- The one new channel is reported. -/
theorem newChannel_of_update {before after : UserRuntime} {c : ChannelRef}
    {key : Handle × EndpointRef} (hfree : before.channelKey c = none)
    (h : after.channelKey = Function.update before.channelKey c (some key)) :
    newChannel before after = some key := by
  have hfirst : (firstIndex fun c => (before.channelKey c).isNone &&
      (after.channelKey c).isSome) = some c := by
    refine firstIndex_eq_some (by simp [h, hfree]) fun other ho => ?_
    by_contra hne
    have hother : other ≠ c := fun he => hne (he ▸ le_refl c)
    rw [h, Function.update_of_ne hother] at ho
    simp only [Bool.and_eq_true] at ho
    cases hb : before.channelKey other <;> simp [hb] at ho
  rw [newChannel, hfirst, Option.bind_some, h, Function.update_self]

/-- A syscall other than `THREAD_EXIT` keeps the log right. -/
theorem Bound.syscall {s : UserRuntime × BindingLog} (h : Bound s) (arch : Arch)
    {active : ThreadRef} {context : UserSyscallContext}
    (hcurrent : s.1.currentThread = some active)
    (hexit : Syscall.ofNumber context.syscallNumber ≠ some .threadExit)
    (hguard : KeepsBindings s (.syscall context)) :
    Bound (s.1.act arch (.syscall context),
      recordBindings arch s.1 (.syscall context) s.2) := by
  have hnotExiting : s.1.exiting (.syscall context) = none := by
    simp only [exiting, if_neg hexit]
  have hunseen : Syscall.ofNumber context.syscallNumber = some .rpcOpen →
      s.2.opened s.1.nextHandleValue = none := fun hopen =>
    Option.isNone_iff_eq_none.mp (hguard.unseen hopen)
  have hfresh : Syscall.ofNumber context.syscallNumber = some .rpcOpen →
      ∀ c key, s.1.channelKey c = some key → key.1 ≠ s.1.nextHandleValue := by
    rintro hopen c ⟨handle, e⟩ hkey rfl
    obtain ⟨registration, gone, hopened, _⟩ := h.channelBound c _ e hkey
    exact absurd ((hunseen hopen).symm.trans hopened) (by simp)
  have heffect := dispatchSyscall_binding arch hcurrent hfresh
  simp only [recordBindings, hnotExiting, hcurrent, act]
  generalize (s.1.dispatchSyscall arch context).2 = after at heffect
  unfold recordSyscall
  cases heffect with
  | kept hkeys hendpoints =>
    simp only [newlyInUse_of_eq hendpoints, newChannel_of_subset fun c hc => hkeys ▸ hc,
      Bool.false_eq_true, if_false]
    exact h.kept hkeys hendpoints
  | registered ref endpointName hsyscall hresolve hkeys hendpoints =>
    have hfree : (s.1.endpoints ref).isInUse = false := by
      simpa using firstIndex_some (resolveRegistration_ok hresolve)
    have hnew := newlyInUse_of_register hfree hendpoints rfl
    simp only [hnew, newChannel_of_subset fun c hc => hkeys ▸ hc, decide_eq_true_eq]
    have hunreferenced : ∀ c handle e, s.1.channelKey c = some (handle, e) → e ≠ ref :=
      fun c handle e hkey => hguard.unreferenced hsyscall active hcurrent (ref, endpointName)
        (by rw [hresolve]; rfl) c (handle, e) hkey
    constructor
    · intro c handle e hkey
      rw [hkeys] at hkey
      have hne := hunreferenced c handle e hkey
      obtain ⟨registration, gone, hopened, hregistered, hgone⟩ := h.channelBound c handle e hkey
      refine ⟨registration, gone, hopened, (if_neg hne).trans hregistered, fun hg => ?_⟩
      rw [hendpoints, Function.update_of_ne hne]
      exact hgone hg
    · intro e hinUse
      by_cases he : e = ref
      · subst he
        refine ⟨_, if_pos rfl, ?_⟩
        rw [hendpoints, Function.update_self]
        exact ⟨rfl, rfl, rfl⟩
      · simp only [hendpoints, Function.update_of_ne he, if_neg he] at hinUse ⊢
        exact h.endpointBound e hinUse
    · intro e hnotInUse
      by_cases he : e = ref
      · subst he
        rw [hendpoints, Function.update_self] at hnotInUse
        cases hnotInUse
      · simp only [hendpoints, Function.update_of_ne he] at hnotInUse ⊢
        exact h.freeUnowned e hnotInUse
  | opened c e hsyscall hfree hinUse hkeys hendpoints =>
    simp only [newlyInUse_of_eq hendpoints, newChannel_of_update hfree hkeys,
      Bool.false_eq_true, if_false]
    obtain ⟨opening, hopening, _⟩ := h.endpointBound e hinUse
    constructor
    · intro c' handle e' hkey
      rw [hkeys, Function.update_apply] at hkey
      split at hkey
      · obtain ⟨rfl, rfl⟩ := Prod.mk.inj (Option.some.inj hkey)
        refine ⟨opening, false, ?_, hopening, fun hg => by cases hg⟩
        simp only [Function.update_self, hopening, Option.map_some]
      · obtain ⟨registration, gone, hopened, hregistered, hgone⟩ :=
          h.channelBound c' handle e' hkey
        have hne : handle ≠ s.1.nextHandleValue := hfresh hsyscall c' _ hkey
        refine ⟨registration, gone, ?_, hregistered, fun hg => ?_⟩
        · simp only [Function.update_of_ne hne, hopened]
        · rw [hendpoints]
          exact hgone hg
    · simpa only [hendpoints] using h.endpointBound
    · simpa only [hendpoints] using h.freeUnowned
  | closed c handle e hkey hsyscall hkeys hendpoints =>
    have hsubset : ∀ c' key, after.channelKey c' = some key → s.1.channelKey c' = some key := by
      intro c' key hkey'
      rw [hkeys, Function.update_apply] at hkey'
      split at hkey'
      · cases hkey'
      · exact hkey'
    have hsome : ∀ c', (after.channelKey c').isSome → (s.1.channelKey c').isSome := by
      intro c' hc'
      obtain ⟨key, hkey'⟩ := Option.isSome_iff_exists.mp hc'
      exact Option.isSome_of_mem (hsubset c' key hkey')
    simp only [newlyInUse_of_eq hendpoints, newChannel_of_subset hsome, Bool.false_eq_true,
      if_false]
    constructor
    · intro c' handle' e' hkey'
      simpa only [hendpoints] using h.channelBound c' handle' e' (hsubset c' _ hkey')
    · simpa only [hendpoints] using h.endpointBound
    · simpa only [hendpoints] using h.freeUnowned
  | exited hsyscall hkeys hendpoints => exact absurd hsyscall hexit

/-- An exit keeps the log right: the handles of the exiting thread's endpoints go dead. -/
theorem Bound.exit {s : UserRuntime × BindingLog} {after : UserRuntime} (h : Bound s)
    {active : ThreadRef} (hkeys : after.channelKey = s.1.channelKey)
    (hendpoints : after.idleEndpoint = fun e =>
      if (s.1.idleEndpoint e).ownerThread = some active then RpcEndpoint.cleared
      else s.1.idleEndpoint e) :
    Bound (after, recordExit active s.2) := by
  constructor
  · intro c handle e hkey
    rw [hkeys] at hkey
    obtain ⟨registration, gone, hopened, hregistered, hgone⟩ := h.channelBound c handle e hkey
    refine ⟨registration, gone || registration.server == active, ?_, hregistered, fun hg => ?_⟩
    · simp only [recordExit, hopened, Option.map_some]
    rw [hendpoints]
    dsimp only
    split
    · rfl
    · rename_i hother
      rcases Bool.or_eq_true_iff.mp hg with hg | hserver
      · exact hgone hg
      · -- A slot still in use would be owned by the exiting thread.
        cases hinUse : (s.1.idleEndpoint e).isInUse with
        | false => exact h.freeUnowned e hinUse
        | true =>
          obtain ⟨found, hfound, howner, _⟩ := h.endpointBound e hinUse
          obtain rfl : registration = found := Option.some.inj (hregistered.symm.trans hfound)
          exact absurd (howner.trans (congrArg some (eq_of_beq hserver))) hother
  · intro e hinUse
    rw [hendpoints] at hinUse ⊢
    dsimp only at hinUse ⊢
    split at hinUse
    · cases hinUse
    · rename_i hother
      rw [if_neg hother]
      exact h.endpointBound e hinUse
  · intro e hnotInUse
    rw [hendpoints] at hnotInUse ⊢
    dsimp only at hnotInUse ⊢
    split at hnotInUse
    · rename_i howner
      rw [if_pos howner]
      rfl
    · rename_i hother
      rw [if_neg hother]
      exact h.freeUnowned e hnotInUse

/-- Every step that meets the conditions keeps the log right. -/
theorem Bound.act {s : UserRuntime × BindingLog} (h : Bound s) (arch : Arch) {action : Action}
    (hguard : KeepsBindings s action) :
    Bound (s.1.act arch action, recordBindings arch s.1 action s.2) := by
  cases action with
  | syscall context =>
    cases hcurrent : s.1.currentThread with
    | none =>
      simp only [UserRuntime.act, recordBindings, exiting, dispatchSyscall, hcurrent, ite_self]
      exact h
    | some active =>
      by_cases hexit : Syscall.ofNumber context.syscallNumber = some .threadExit
      · have hentered : (s.1.enterSyscall active context).currentThread = some active := hcurrent
        obtain ⟨hkeys, hendpoints⟩ := terminateCurrentThread_bindings arch hentered
          context.argument0 Status.peerClosed
        simp only [UserRuntime.act, recordBindings, exiting, dispatchSyscall, hcurrent,
          dispatchActive, hexit, if_true]
        exact h.exit hkeys hendpoints
      · exact h.syscall arch hcurrent hexit hguard
  | terminate exitStatus peerFailureStatus =>
    cases hcurrent : s.1.currentThread with
    | none =>
      simp only [UserRuntime.act, recordBindings, exiting, terminateCurrentThread, hcurrent]
      exact h
    | some active =>
      obtain ⟨hkeys, hendpoints⟩ := terminateCurrentThread_bindings arch hcurrent exitStatus
        peerFailureStatus
      simp only [UserRuntime.act, recordBindings, exiting, hcurrent]
      exact h.exit hkeys hendpoints
  | userStores memory => exact h.kept rfl rfl
  | saveRegisters registers simdQwords =>
    refine h.kept ?_ ?_ <;> simp only [UserRuntime.act, modifyCurrentThread] <;> split <;> rfl
  | prepareResume status =>
    refine h.kept ?_ ?_ <;> simp only [UserRuntime.act, modifyCurrentThread] <;> split <;> rfl

/-- The log is right in every state reached under the conditions. -/
theorem reachable_bound {s : UserRuntime × BindingLog}
    (h : (bindingSystem arch).Reachable KeepsBindings s) : Bound s := by
  refine h.invariant (P := Bound) ?_ fun s action _ hs _ hguard => hs.act arch hguard
  rintro ⟨runtime, log⟩ ⟨⟨created, active, hcreated, _, rfl⟩, hlog⟩
  obtain rfl : log = .empty := hlog
  have hfresh := hcreated.unstarted
  constructor
  · intro c handle e hkey
    simp [channelKey, hfresh.noChannel] at hkey
  · intro e hinUse
    simp [idleEndpoint, hfresh.noEndpoint, RpcEndpoint.setBusy, RpcEndpoint.cleared] at hinUse
  · intro e _
    simp [idleEndpoint, hfresh.noEndpoint, RpcEndpoint.setBusy, RpcEndpoint.cleared]

/-- The call is bound for a registration: its server is the pending server of the handle's
channel and is about to run the registration's callback. -/
def CallsRegistration (before after : UserRuntime) (client : ThreadRef) (handle : Handle)
    (registration : Registration) : Prop :=
  ∃ c call, (before.channel c).handle = handle ∧ after.pending c = some call ∧
    call.clientThread = client ∧ call.serverThread = registration.server ∧
    (after.thread registration.server).resumeState.kind = .rpc ∧
    (after.thread registration.server).resumeState.instructionPointer =
      registration.callbackAddress ∧
    (after.thread registration.server).resumeState.rpcCompletionAddress =
      registration.completionAddress

/-- The arguments of a call pass their checks and the handle names a channel of the caller's
process. -/
def CallAdmitted (runtime : UserRuntime) (active : ThreadRef) (context : UserSyscallContext) :
    Prop :=
  context.argument0 ≠ 0 ∧ context.argument1 ≠ 0 ∧ context.argument2 ≠ 0 ∧
    context.argument2 ≤ rpcMaxRequestSize ∧
    ∃ c, runtime.resolveChannel (runtime.thread active).process context.argument0 = .ok c

/-- A call that resolves is for the registration its handle was opened against. -/
theorem Bound.resolveCall {s : UserRuntime × BindingLog} (h : Bound s) {active : ThreadRef}
    {context : UserSyscallContext} {ref : ChannelRef} {server : ThreadRef}
    {registration : Registration} {gone : Bool}
    (hopened : s.2.opened context.argument0 = some (registration, gone))
    (hresolve : s.1.resolveCall active context = .ok (ref, server)) :
    gone = false ∧ server = registration.server ∧
      (s.1.channel ref).handle = context.argument0 ∧
      (s.1.endpointOf ref).callbackAddress = registration.callbackAddress ∧
      (s.1.endpointOf ref).completionAddress = registration.completionAddress := by
  obtain ⟨hfind, _, howner, _, hinUse, _, _⟩ := resolveCall_ok hresolve
  obtain ⟨found, foundGone, hfound, hregistered, hgone⟩ :=
    h.channelBound ref _ _ (channelKey_of_findByHandle hfind)
  obtain ⟨rfl, rfl⟩ := Prod.mk.inj (Option.some.inj (hopened.symm.trans hfound))
  obtain ⟨slot, hslot, hslotOwner, hcallback, hcompletion⟩ := h.endpointBound _ hinUse
  obtain rfl : registration = slot := Option.some.inj (hregistered.symm.trans hslot)
  have hserver : server = registration.server :=
    Option.some.inj (howner.symm.trans hslotOwner)
  have hstays : gone = false := by
    cases hg : gone with
    | false => rfl
    | true =>
      have hnone := hgone hg
      rw [hslotOwner] at hnone
      cases hnone
  obtain ⟨channel, hitem, hhandle⟩ := KernelObjectPool.findByHandle_eq_some hfind
  have hchannel : s.1.channel ref = channel := KernelObjectPool.get_of_items hitem
  exact ⟨hstays, hserver, hchannel ▸ hhandle, hcallback, hcompletion⟩

/-- An admitted call to a registration whose server has exited finds the peer closed. -/
theorem Bound.peerClosed {s : UserRuntime × BindingLog} (h : Bound s) {active : ThreadRef}
    {context : UserSyscallContext} {registration : Registration}
    (hopened : s.2.opened context.argument0 = some (registration, true))
    (hadmitted : s.1.CallAdmitted active context) :
    s.1.resolveCall active context = .error Status.peerClosed := by
  obtain ⟨h0, h1, h2, hsize, c, hchannel⟩ := hadmitted
  have hfind : s.1.channels.findByHandle context.argument0 = some c := by
    unfold resolveChannel at hchannel
    split at hchannel
    · cases hchannel
    · rename_i slot hslot
      split at hchannel
      · obtain rfl : slot = c := Except.ok.inj hchannel
        exact hslot
      · cases hchannel
  obtain ⟨found, foundGone, hfound, _, hgone⟩ :=
    h.channelBound c _ _ (channelKey_of_findByHandle hfind)
  obtain ⟨rfl, rfl⟩ := Prod.mk.inj (Option.some.inj (hopened.symm.trans hfound))
  have howner : (s.1.endpoints (s.1.channel c).endpoint).ownerThread = none := hgone rfl
  have hlarge : ¬ context.argument2 > rpcMaxRequestSize := UInt64.not_lt.mpr hsize
  simp only [UserRuntime.resolveCall, h0, h1, h2, or_self, if_false, hlarge, hchannel, howner]

/-- The server of a prepared call is about to run the callback. -/
theorem serverPrepared_resume (memory : ByteMemory) (endpoint : RpcEndpoint) {server : ThreadRef}
    (requestAddress requestSize stackPointer : UInt64) (hlive : runtime.LiveThread server) :
    ((runtime.serverPrepared memory endpoint server requestAddress requestSize
      stackPointer).thread server).resumeState.kind = .rpc ∧
    ((runtime.serverPrepared memory endpoint server requestAddress requestSize
      stackPointer).thread server).resumeState.instructionPointer = endpoint.callbackAddress ∧
    ((runtime.serverPrepared memory endpoint server requestAddress requestSize
      stackPointer).thread server).resumeState.rpcCompletionAddress =
        endpoint.completionAddress := by
  have hmemory : UserRuntime.LiveThread { runtime with memory := memory } server := hlive
  rw [serverPrepared, thread_modifyThread_self hmemory]
  exact ⟨rfl, rfl, rfl⟩

/-- A successful call, seen from after the trap. -/
theorem outcome_calls {active : ThreadRef} {context : UserSyscallContext}
    {result : Int32 × UserRuntime} (hw : WellFormed runtime)
    (hsyscall : Syscall.ofNumber context.syscallNumber = some .rpcCall)
    (h : SyscallOutcome arch runtime active context result) (hok : result.1 = Status.ok) :
    ∃ ref server, runtime.resolveCall active context = .ok (ref, server) ∧
      (∃ call, result.2.pending ref = some call ∧ call.clientThread = active ∧
        call.serverThread = server) ∧
      (result.2.thread server).resumeState.kind = .rpc ∧
      (result.2.thread server).resumeState.instructionPointer =
        (runtime.endpointOf ref).callbackAddress ∧
      (result.2.thread server).resumeState.rpcCompletionAddress =
        (runtime.endpointOf ref).completionAddress := by
  have hother : ∀ other, Syscall.ofNumber context.syscallNumber = some other →
      other ≠ .rpcCall → False := by
    intro other hother hne
    rw [hsyscall, Option.some.injEq] at hother
    exact hne hother.symm
  cases h with
  | kept status memory debugLog hstatus _ _ =>
    exact absurd hok ((hstatus .rpcCall hsyscall).2 (by decide))
  | exited hs => exact (hother _ hs (by decide)).elim
  | registered _ _ hs _ => exact (hother _ hs (by decide)).elim
  | yielded _ _ _ hs _ _ _ => exact (hother _ hs (by decide)).elim
  | opened _ _ _ _ _ _ _ hs _ _ _ _ => exact (hother _ hs (by decide)).elim
  | openFailed _ _ _ _ _ _ hs _ _ => exact (hother _ hs (by decide)).elim
  | closed _ hs _ _ => exact (hother _ hs (by decide)).elim
  | completed _ _ hs _ _ _ => exact (hother _ hs (by decide)).elim
  | completedSelf _ _ hs _ _ _ => exact (hother _ hs (by decide)).elim
  | called ref server memory requestAddress stackPointer _ hresolve hne =>
    obtain ⟨hfind, _, howner, _, _, _, _⟩ := resolveCall_ok hresolve
    obtain ⟨channel, hchannel, _⟩ := KernelObjectPool.findByHandle_eq_some hfind
    have hresume := serverPrepared_resume memory (runtime.endpointOf ref) requestAddress
      context.argument2 stackPointer (hw.ownerLive _ _ howner)
    have hitem : ((runtime.serverPrepared memory (runtime.endpointOf ref) server requestAddress
        context.argument2 stackPointer).channels.items ref).isSome :=
      Option.isSome_of_mem hchannel
    generalize runtime.serverPrepared memory (runtime.endpointOf ref) server requestAddress
      context.argument2 stackPointer = prepared at hresume hitem
    have hkeeps : ((((prepared.beginCall ref active server).modifyThread active
        (Thread.setState .blocked)).setCurrentThread (some server)).thread server).resumeState =
          (prepared.thread server).resumeState :=
      switched_keeps Thread.resumeState (fun _ _ => rfl) server
    refine ⟨ref, server, hresolve,
      ⟨PendingCall.save active server (prepared.thread server), ?_, rfl, rfl⟩, ?_⟩
    · rw [pending_setCurrentThread]
      exact (congrFun (pending_beginCall hitem) ref).trans (Function.update_self _ _ _)
    · dsimp only
      rw [hkeeps]
      exact hresume
  | calledSelf ref memory requestAddress stackPointer _ hresolve =>
    obtain ⟨hfind, _, howner, _, _, _, _⟩ := resolveCall_ok hresolve
    obtain ⟨channel, hchannel, _⟩ := KernelObjectPool.findByHandle_eq_some hfind
    have hresume := serverPrepared_resume memory (runtime.endpointOf ref) requestAddress
      context.argument2 stackPointer (hw.ownerLive _ _ howner)
    have hitem : ((runtime.serverPrepared memory (runtime.endpointOf ref) active requestAddress
        context.argument2 stackPointer).channels.items ref).isSome :=
      Option.isSome_of_mem hchannel
    generalize runtime.serverPrepared memory (runtime.endpointOf ref) active requestAddress
      context.argument2 stackPointer = prepared at hresume hitem
    refine ⟨ref, active, hresolve,
      ⟨PendingCall.save active active (prepared.thread active), ?_, rfl, rfl⟩, hresume⟩
    exact (congrFun (pending_beginCall hitem) ref).trans (Function.update_self _ _ _)

/-- Along every run in which no registration takes a slot that a live channel points to and no
handle value is returned twice, a call on a handle goes to the registration the handle was opened
against, and fails once its server has exited. -/
theorem reachable_call_bound (arch : Arch) {s : UserRuntime × BindingLog}
    (h : (bindingSystem arch).Reachable KeepsBindings s) {handle : Handle}
    {registration : Registration} {gone : Bool}
    (hopened : s.2.opened handle = some (registration, gone)) {active : ThreadRef}
    (hcurrent : s.1.currentThread = some active) {context : UserSyscallContext}
    (hsyscall : Syscall.ofNumber context.syscallNumber = some .rpcCall)
    (hhandle : context.argument0 = handle) :
    ((s.1.dispatchSyscall arch context).1 = Status.ok → gone = false ∧
      CallsRegistration s.1 (s.1.dispatchSyscall arch context).2 active handle registration) ∧
    (gone = true → (s.1.dispatchSyscall arch context).1 ≠ Status.ok ∧
      (s.1.CallAdmitted active context →
        (s.1.dispatchSyscall arch context).1 = Status.peerClosed)) := by
  subst hhandle
  have hbound := reachable_bound h
  have hw := reachable_wellFormed h.forget
  have hresult : s.1.dispatchSyscall arch context =
      (s.1.enterSyscall active context).dispatchActive arch active context := by
    simp only [dispatchSyscall, hcurrent]
  have hcalls : (s.1.dispatchSyscall arch context).1 = Status.ok → gone = false ∧
      CallsRegistration s.1 (s.1.dispatchSyscall arch context).2 active context.argument0
        registration := by
    intro hok
    rw [hresult] at hok ⊢
    obtain ⟨ref, server, hresolve, ⟨call, hcall, hclient, hserver⟩, hresume⟩ := outcome_calls
      (hw.enterSyscall active context) hsyscall
      (dispatchActive_outcome arch (s.1.enterSyscall active context) active context) hok
    rw [resolveCall_enterSyscall] at hresolve
    obtain ⟨hstays, rfl, hkey, hcallback, hcompletion⟩ := hbound.resolveCall hopened hresolve
    exact ⟨hstays, ref, call, hkey, hcall, hclient, hserver, hresume.1,
      hresume.2.1.trans hcallback, hresume.2.2.trans hcompletion⟩
  refine ⟨hcalls, fun hgone => ⟨fun hok => ?_, fun hadmitted => ?_⟩⟩
  · rw [(hcalls hok).1] at hgone
    cases hgone
  · subst hgone
    have hclosed := hbound.peerClosed hopened hadmitted
    rw [hresult]
    simp only [dispatchActive, hsyscall, rpcCall, resolveCall_enterSyscall, hclosed]

section Decidability

variable (s : UserRuntime × BindingLog) (action : Action)

-- The instances over `Option` are named, so that no search goes over all handle values.
instance : Decidable (s.1.RegistersUnreferenced action) :=
  match action with
  | .syscall context =>
    letI : ∀ (target : EndpointRef × List UInt8) (c : ChannelRef),
        Decidable (∀ key ∈ s.1.channelKey c, key.2 ≠ target.1) :=
      fun _ c => Option.decidableForallMem (s.1.channelKey c)
    letI : ∀ active, Decidable (∀ target ∈ (s.1.resolveRegistration active context).toOption,
        ∀ c, ∀ key ∈ s.1.channelKey c, key.2 ≠ target.1) :=
      fun active => Option.decidableForallMem (s.1.resolveRegistration active context).toOption
    inferInstanceAs (Decidable (
      Syscall.ofNumber context.syscallNumber = some .rpcRegister →
        ∀ active ∈ s.1.currentThread,
          ∀ target ∈ (s.1.resolveRegistration active context).toOption,
            ∀ c, ∀ key ∈ s.1.channelKey c, key.2 ≠ target.1))
  | .terminate _ _ | .userStores _ | .saveRegisters _ _ | .prepareResume _ => isTrue trivial

instance : Decidable (OpensUnseenHandle s action) :=
  match action with
  | .syscall context => inferInstanceAs (Decidable (
      Syscall.ofNumber context.syscallNumber = some .rpcOpen →
        (s.2.opened s.1.nextHandleValue).isNone = true))
  | .terminate _ _ | .userStores _ | .saveRegisters _ _ | .prepareResume _ => isTrue trivial

instance : Decidable (KeepsBindings s action) :=
  decidable_of_iff (s.1.RegistersUnreferenced action ∧ OpensUnseenHandle s action)
    ⟨fun h => ⟨h.1, h.2⟩, fun h => ⟨h.1, h.2⟩⟩

end Decidability

/-- The call that the second thread of the booted system makes on its handle. -/
def handleCall : UserSyscallContext := ⟨5, 0x1010, 0x1c00, 0x202, 4, 0x1400, 1, 0, 0, 0⟩

/-- A server exits and its client registers an endpoint of its own, in the slot left behind. -/
def reusedSlot : List Action :=
  [trap 3 0x1100 0x1200 0x1210 0x1800, trap 4 0x1100 0x1300 0 0x1c00,
    trap 3 0x1120 0x1240 0x1250 0x1c00, trap 2 0 0 0 0x1800, trap 3 0x1110 0x1220 0x1230 0x1c00]

/-- The handle then reaches the new registration, although its own server has exited. -/
theorem reusedSlot_misbound :
    ∃ s, (bindingSystem .x64).Reachable TransitionSystem.anyStep s ∧
      s.2.opened 4 = some (⟨0, 0x1200, 0x1210⟩, true) ∧ s.1.currentThread = some 1 ∧
      (s.1.dispatchSyscall .x64 handleCall).1 = Status.ok ∧
      ¬ CallsRegistration s.1 (s.1.dispatchSyscall .x64 handleCall).2 1 4
        ⟨0, 0x1200, 0x1210⟩ := by
  obtain ⟨s, hreach, hopened, hcurrent, hok, hserver⟩ := boot_reachable_history .x64
    (fun _ => .empty) (recordBindings .x64) TransitionSystem.anyStep 2 reusedSlot
    (fun s => s.2.opened 4 = some (⟨0, 0x1200, 0x1210⟩, true) ∧ s.1.currentThread = some 1 ∧
      (s.1.dispatchSyscall .x64 handleCall).1 = Status.ok ∧
      ∀ c, ∀ call ∈ (s.1.dispatchSyscall .x64 handleCall).2.pending c, call.serverThread = 1)
    rfl (by decide +kernel)
  refine ⟨s, hreach, hopened, hcurrent, hok, ?_⟩
  rintro ⟨c, call, _, hcall, _, hzero, _⟩
  have hone := hserver c call hcall
  rw [hzero] at hone
  exact absurd hone (by decide)

/-- The same history without the second registration: the handle finds its peer closed. -/
theorem exitedServer_peerClosed :
    ∃ s, (bindingSystem .x64).Reachable KeepsBindings s ∧
      s.2.opened 4 = some (⟨0, 0x1200, 0x1210⟩, true) ∧
      (s.1.dispatchSyscall .x64 handleCall).1 ≠ Status.ok := by
  obtain ⟨s, hreach, hopened, hcurrent⟩ := boot_reachable_history .x64
    (fun _ => .empty) (recordBindings .x64) KeepsBindings 2 reusedSlot.dropLast
    (fun s => s.2.opened 4 = some (⟨0, 0x1200, 0x1210⟩, true) ∧ s.1.currentThread = some 1)
    rfl (by decide +kernel)
  have hsyscall : Syscall.ofNumber handleCall.syscallNumber = some .rpcCall := rfl
  exact ⟨s, hreach, hopened,
    ((reachable_call_bound .x64 hreach hopened hcurrent hsyscall rfl).2 rfl).1⟩

end UserRuntime

end Ringos.Kernel
