import Mathlib.Tactic.FinCases
import Ringos.Arch.TrapReturn
import Ringos.Calls.Order
import Ringos.Calls.TornWrites

/-!
# Calls of a thread to itself

The runtime prepares a callback record for a thread that calls its own
endpoint, but every trap handler rebuilds the record as a syscall return when
the thread on the CPU has not changed. So the call returns at once and the
callback does not run. The x64 frame can still look like the callback's entry,
by chance; the arm64 frame cannot.
-/

namespace Ringos.Arch

open Ringos.Core Ringos.Kernel Ringos.Scheduler UserRuntime

/-- An `RPC_CALL` that is accepted on a channel to an endpoint of the caller's own. -/
structure AcceptsSelfCall (arch : Arch) (runtime : UserRuntime) (active : ThreadRef)
    (context : UserSyscallContext) (ref : ChannelRef) : Prop where
  current : runtime.currentThread = some active
  runnable : runtime.hasRunnableThread = true
  syscall : Syscall.ofNumber context.syscallNumber = some .rpcCall
  own : runtime.resolveCall active context = .ok (ref, active)
  accepted : (runtime.dispatchSyscall arch context).1 = Status.ok

/-- Where the request of a call to oneself is put: below the caller's own stack pointer. -/
def selfRequestAddress (context : UserSyscallContext) : UInt64 :=
  alignDown (context.stackPointer - context.argument2) 16

/-- What an accepted call to oneself leaves behind it. -/
structure SelfCallBegun (runtime after : UserRuntime) (active : ThreadRef)
    (context : UserSyscallContext) (ref : ChannelRef) : Prop where
  current : after.currentThread = some active
  state : (after.thread active).state = (runtime.thread active).state
  captured : (after.thread active).userContext = makeThreadContextFromSyscall context
  registers : (after.thread active).archPreservedRegisters =
    (runtime.thread active).archPreservedRegisters
  simdQwords : (after.thread active).archPreservedSimdQwords =
    (runtime.thread active).archPreservedSimdQwords
  pending : ∃ call, after.pending = Function.update runtime.pending ref (some call) ∧
    call.clientThread = active ∧ call.serverThread = active ∧
    call.savedServerContext = makeThreadContextFromSyscall context ∧
    call.savedServerRegisters = (runtime.thread active).archPreservedRegisters ∧
    call.savedServerSimdQwords = (runtime.thread active).archPreservedSimdQwords

/-- An accepted call to oneself, as the source computes it. -/
theorem rpcCall_self {arch : Arch} {runtime : UserRuntime} {active : ThreadRef}
    {context : UserSyscallContext} {ref : ChannelRef}
    (hown : runtime.resolveCall active context = .ok (ref, active))
    (hok : (runtime.rpcCall arch active context).1 = Status.ok) :
    ∃ memory requestAddress stackPointer, (runtime.rpcCall arch active context).2 =
      (runtime.serverPrepared memory (runtime.endpointOf ref) active requestAddress
        context.argument2 stackPointer).beginCall ref active active := by
  simp only [rpcCall, hown] at hok ⊢
  rcases prepareServerThread_cases arch runtime
    (runtime.endpoints (runtime.channel ref).endpoint) active (runtime.thread active).process
    context.argument1 context.argument2 with
    ⟨status, memory, hstatus, hprepare⟩ | ⟨memory, requestAddress, stackPointer, hprepare⟩
  · simp only [hprepare, if_pos hstatus] at hok
    exact absurd hok hstatus
  · refine ⟨memory, requestAddress, stackPointer, ?_⟩
    simp only [hprepare, ne_eq, not_true_eq_false, if_false]
    rfl

/-- The call is pending and the thread keeps its trap context, whatever record is prepared. -/
theorem AcceptsSelfCall.begun {arch : Arch} {runtime : UserRuntime} {active : ThreadRef}
    {context : UserSyscallContext} {ref : ChannelRef} (hw : WellFormed runtime)
    (h : AcceptsSelfCall arch runtime active context ref) :
    SelfCallBegun runtime (runtime.dispatchSyscall arch context).2 active context ref := by
  have hentered : (runtime.enterSyscall active context).LiveThread active :=
    liveThread_modifyThread.mpr (hw.currentLive active h.current)
  have hown : (runtime.enterSyscall active context).resolveCall active context =
      .ok (ref, active) := by
    rw [resolveCall_enterSyscall, h.own]
  have hok := h.accepted
  simp only [dispatchSyscall, h.current, dispatchActive, h.syscall] at hok ⊢
  obtain ⟨memory, requestAddress, stackPointer, hresult⟩ := rpcCall_self hown hok
  rw [hresult]
  have hcaller : (runtime.enterSyscall active context).thread active =
      (runtime.thread active).setUserContext (makeThreadContextFromSyscall context) :=
    thread_modifyThread_self (hw.currentLive active h.current) _
  have hthread : ((runtime.enterSyscall active context).serverPrepared memory
      ((runtime.enterSyscall active context).endpointOf ref) active requestAddress
      context.argument2 stackPointer).thread active =
        Thread.prepareRpcResume _ _ requestAddress context.argument2 stackPointer
          ((runtime.thread active).setUserContext (makeThreadContextFromSyscall context)) :=
    (thread_modifyThread_self hentered _).trans (congrArg _ hcaller)
  have hitem : (((runtime.enterSyscall active context).serverPrepared memory
      ((runtime.enterSyscall active context).endpointOf ref) active requestAddress
      context.argument2 stackPointer).channels.items ref).isSome := by
    obtain ⟨channel, hchannel, _⟩ := KernelObjectPool.findByHandle_eq_some (resolveCall_ok h.own).1
    exact Option.isSome_of_mem hchannel
  have hcurrent : ((runtime.enterSyscall active context).serverPrepared memory
      ((runtime.enterSyscall active context).endpointOf ref) active requestAddress
      context.argument2 stackPointer).currentThread = some active := h.current
  have hpending : ((runtime.enterSyscall active context).serverPrepared memory
      ((runtime.enterSyscall active context).endpointOf ref) active requestAddress
      context.argument2 stackPointer).pending = runtime.pending := rfl
  generalize (runtime.enterSyscall active context).serverPrepared memory
    ((runtime.enterSyscall active context).endpointOf ref) active requestAddress
    context.argument2 stackPointer = prepared at hthread hitem hcurrent hpending ⊢
  have hbegun : (prepared.beginCall ref active active).thread active = prepared.thread active :=
    rfl
  rw [hthread] at hbegun
  constructor
  · exact hcurrent
  · rw [hbegun]
    rfl
  · rw [hbegun]
    rfl
  · rw [hbegun]
    rfl
  · rw [hbegun]
    rfl
  · refine ⟨PendingCall.save active active (prepared.thread active), ?_, rfl, rfl, ?_, ?_, ?_⟩
    · rw [pending_beginCall hitem, hpending]
    · rw [hthread]
      rfl
    · rw [hthread]
      rfl
    · rw [hthread]
      rfl

section X64

variable {runtime : UserRuntime} {active : ThreadRef} {ref : ChannelRef} {frame : X64SyscallFrame}

/-- The callback of a call to oneself runs as a callback should: the next frame of the thread
enters it with the request and its size, and its `RPC_COMPLETE`, whatever memory and frame it
comes with, returns the status from the call. -/
def X64SelfCallRuns (runtime : UserRuntime) (active : ThreadRef) (ref : ChannelRef)
    (frame : X64SyscallFrame) : Prop :=
  ∃ entered after, x64HandleSyscall frame runtime = .ok (some entered, after) ∧
    entered.rcx = (runtime.endpointOf ref).callbackAddress ∧
    entered.rdi = selfRequestAddress frame.context ∧ entered.rsi = frame.rdx ∧
    ∀ (memory : ByteMemory) (complete : X64SyscallFrame),
      Syscall.ofNumber complete.rax = some .rpcComplete →
      ∃ later, x64HandleSyscall complete { after with memory := memory } =
          .ok (some (frame.returning (statusOfArgument complete.rdi)), later) ∧
        later.currentThread = some active

/-- A pending call has saved what the trap captured; writing the frame's registers over the saved
ones changes nothing. -/
structure X64SyscallFrame.SavedIn (frame : X64SyscallFrame) (call : PendingCall) : Prop where
  instructionPointer : call.savedServerContext.instructionPointer = frame.rcx
  stackPointer : call.savedServerContext.stackPointer = frame.userRsp
  flags : call.savedServerContext.flags = frame.r11
  registers : frame.preservedRegisters call.savedServerRegisters = call.savedServerRegisters
  simdQwords : call.savedServerSimdQwords = frame.preservedXmmQwords

/-- The frame of the call happens to be the one that enters the callback, and no earlier pending
call is answered in place of this one. -/
structure X64EntersByChance (runtime : UserRuntime) (active : ThreadRef) (ref : ChannelRef)
    (frame : X64SyscallFrame) : Prop where
  callback : frame.rcx = (runtime.endpointOf ref).callbackAddress
  request : frame.rdi = selfRequestAddress frame.context
  size : frame.rsi = frame.rdx
  earlier : ∀ c call, runtime.findPendingChannelByServerThread active = some c → c < ref →
    runtime.pending c = some call → call.clientThread = active ∧ frame.SavedIn call

/-- A restored server returns to the frame exactly when the call has saved it. -/
theorem loadUserThreadFrame_restore_iff {call : PendingCall} {thread : Thread} {status : Int32} :
    loadUserThreadFrame ((call.restore thread).prepareSyscallResume .x64 status) =
      frame.returning status ↔ frame.SavedIn call := by
  simp only [loadUserThreadFrame, Thread.prepareSyscallResume, Thread.syncResumeToUserContext,
    PendingCall.restore, Thread.setArchPreserved, Thread.setState, Thread.setUserContext,
    X64SyscallFrame.returning, X64SyscallFrame.mk.injEq, reduceCtorEq, if_false, true_and]
  constructor
  · rintro ⟨hrsi, hrdi, hrcx, hr11, hrsp, hr15, hr14, hr13, hr12, hrbp, hrbx, hsimd⟩
    refine ⟨hrcx, hrsp, hr11, ?_, hsimd⟩
    ext1 slot
    fin_cases slot
    · exact hrsi.symm
    · exact hrdi.symm
    · exact hrbx.symm
    · exact hrbp.symm
    · exact hr12.symm
    · exact hr13.symm
    · exact hr14.symm
    · exact hr15.symm
    all_goals rfl
  · rintro ⟨hrcx, hrsp, hr11, hregisters, hsimd⟩
    have hslot : ∀ slot, call.savedServerRegisters slot =
        frame.preservedRegisters call.savedServerRegisters slot :=
      fun slot => (congrFun hregisters slot).symm
    exact ⟨hslot 0, hslot 1, hrcx, hr11, hrsp, hslot 7, hslot 6, hslot 5, hslot 4, hslot 3,
      hslot 2, hsimd⟩

/-- The completion as the trap dispatches it. -/
theorem dispatchSyscall_completeOn (complete : X64SyscallFrame)
    (hcurrent : runtime.currentThread = some active)
    (hsyscall : Syscall.ofNumber complete.rax = some .rpcComplete) {c : ChannelRef}
    {call : PendingCall} (hfind : runtime.findPendingChannelByServerThread active = some c)
    (hcall : runtime.pending c = some call) :
    (runtime.modifyThread active complete.saveTo).dispatchSyscall .x64 complete.context =
      let finished := ((runtime.modifyThread active complete.saveTo).enterSyscall active
        complete.context).finishCall c call
      if call.clientThread = active then (statusOfArgument complete.rdi, finished)
      else (Status.ok, (finished.wakeClient .x64 call.clientThread
        (statusOfArgument complete.rdi)).setCurrentThread (some call.clientThread)) := by
  have hcurrent' : (runtime.modifyThread active complete.saveTo).currentThread = some active :=
    hcurrent
  have hnumber : Syscall.ofNumber complete.context.syscallNumber = some .rpcComplete := hsyscall
  exact dispatchSyscall_complete .x64 hcurrent' hnumber hfind hcall

/-- A completion of a call to oneself returns to what the call has saved. -/
theorem x64HandleSyscall_completeSelf {complete : X64SyscallFrame} (hw : WellFormed runtime)
    (htidy : Tidy runtime.picture) (hcurrent : runtime.currentThread = some active)
    (hsyscall : Syscall.ofNumber complete.rax = some .rpcComplete) {c : ChannelRef}
    {call : PendingCall} (hfind : runtime.findPendingChannelByServerThread active = some c)
    (hcall : runtime.pending c = some call) (hself : call.clientThread = active) :
    ∃ thread later, x64HandleSyscall complete runtime =
        .ok (some (loadUserThreadFrame ((call.restore thread).prepareSyscallResume .x64
          (statusOfArgument complete.rdi))), later) ∧ later.currentThread = some active := by
  obtain ⟨found, hfound, hserver⟩ := findPendingChannel_some hfind
  obtain rfl : call = found := Option.some.inj (hcall.symm.trans hfound)
  subst hserver
  have hrunning : call.savedServerState = .running :=
    htidy.savedSelf c call.toCall (congrArg (Option.map PendingCall.toCall) hcall) hself
  have hlive := hw.currentLive _ hcurrent
  have hentered : ((runtime.modifyThread call.serverThread complete.saveTo).enterSyscall
      call.serverThread complete.context).LiveThread call.serverThread :=
    liveThread_modifyThread.mpr (liveThread_modifyThread.mpr hlive)
  have hresult := dispatchSyscall_completeOn complete hcurrent hsyscall hfind hcall
  simp only [if_pos hself] at hresult
  have hentry : ((runtime.modifyThread call.serverThread complete.saveTo).enterSyscall
      call.serverThread complete.context).currentThread = some call.serverThread := hcurrent
  simp only [x64HandleSyscall, hcurrent, hresult]
  generalize (runtime.modifyThread call.serverThread complete.saveTo).enterSyscall
    call.serverThread complete.context = entered at hentered hentry
  have hthread : (entered.finishCall c call).thread call.serverThread =
      call.restore (entered.thread call.serverThread) :=
    (thread_finishCall c hentered _).trans (if_pos rfl)
  have hfinished : (entered.finishCall c call).currentThread = some call.serverThread := hentry
  have hrunnable : (entered.finishCall c call).hasRunnableThread = true := by
    have hstate : (call.restore (entered.thread call.serverThread)).state = .running := hrunning
    simp [hasRunnableThread, hfinished, hthread, hstate]
  rw [x64Resume_same hfinished (liveThread_modifyThread.mpr hentered) hrunnable, hthread]
  exact ⟨_, _, rfl, hfinished⟩

/-- A completion of another thread's call leaves the CPU to that thread. -/
theorem x64HandleSyscall_completeOther {complete : X64SyscallFrame}
    (hcurrent : runtime.currentThread = some active)
    (hsyscall : Syscall.ofNumber complete.rax = some .rpcComplete) {c : ChannelRef}
    {call : PendingCall} (hfind : runtime.findPendingChannelByServerThread active = some c)
    (hcall : runtime.pending c = some call) (hother : call.clientThread ≠ active)
    {loaded : Option X64SyscallFrame} {later : UserRuntime}
    (hok : x64HandleSyscall complete runtime = .ok (loaded, later)) :
    later.currentThread ≠ some active := by
  have hresult := dispatchSyscall_completeOn complete hcurrent hsyscall hfind hcall
  simp only [if_neg hother] at hresult
  simp only [x64HandleSyscall, hcurrent, hresult, Except.ok.injEq] at hok
  have hlater := congrArg Prod.snd hok
  dsimp only at hlater
  rw [← hlater, x64Resume_currentThread, setCurrentThread_currentThread]
  exact fun h => hother (Option.some.inj h)

/-- An accepted call to oneself returns from the trap at once. -/
theorem x64HandleSyscall_self
    (h : (runtimeSystem .x64).Reachable TransitionSystem.anyStep runtime)
    (hcall : AcceptsSelfCall .x64 (runtime.modifyThread active frame.saveTo) active frame.context
      ref) :
    ∃ after call, x64HandleSyscall frame runtime = .ok (some (frame.returning Status.ok), after) ∧
      (runtimeSystem .x64).Reachable TransitionSystem.anyStep after ∧
      after.currentThread = some active ∧
      after.pending = Function.update runtime.pending ref (some call) ∧
      call.clientThread = active ∧ call.serverThread = active ∧ frame.SavedIn call := by
  have hcurrent : runtime.currentThread = some active := hcall.current
  have hlive := (reachable_wellFormed h).currentLive _ hcurrent
  have hsave : ∀ thread, (frame.saveTo thread).state = thread.state := fun _ => rfl
  have hrunnable : runtime.hasRunnableThread = true :=
    (hasRunnableThread_saveTo hcurrent hsave).symm.trans hcall.runnable
  have hsaved : (runtimeSystem .x64).Reachable TransitionSystem.anyStep
      (runtime.modifyThread active frame.saveTo) := saveTo_reachable h (fun _ => trivial) hcurrent rfl
  have hbegun := hcall.begun (reachable_wellFormed hsaved)
  have hwell := (reachable_wellFormed hsaved).act .x64 (.syscall frame.context)
  change WellFormed ((runtime.modifyThread active frame.saveTo).dispatchSyscall .x64
    frame.context).2 at hwell
  have hthread : (runtime.modifyThread active frame.saveTo).thread active =
      frame.saveTo (runtime.thread active) := thread_modifyThread_self hlive _
  have hstatus := hcall.accepted
  have hreturns : x64HandleSyscall frame runtime = .ok (x64Resume active
      ((runtime.modifyThread active frame.saveTo).dispatchSyscall .x64 frame.context).1
      ((runtime.modifyThread active frame.saveTo).dispatchSyscall .x64 frame.context).2) := by
    simp only [x64HandleSyscall, hcurrent]
  rw [hstatus] at hreturns
  generalize ((runtime.modifyThread active frame.saveTo).dispatchSyscall .x64 frame.context).2 =
    after at hbegun hwell hreturns
  obtain ⟨call, hpending, hclient, hserver, hcontext, hregisters, hsimd⟩ := hbegun.pending
  have hafter : after.hasRunnableThread = true := by
    simp only [hasRunnableThread, hcurrent, hbegun.current, hbegun.state, hthread] at hrunnable ⊢
    exact hrunnable
  rw [x64Resume_same hbegun.current (hwell.currentLive _ hbegun.current) hafter,
    loadUserThreadFrame_returning hbegun.captured (hbegun.registers.trans (by rw [hthread]; rfl))
      (hbegun.simdQwords.trans (by rw [hthread]; rfl))] at hreturns
  refine ⟨_, call, hreturns, x64HandleSyscall_reachable h hrunnable hreturns, hbegun.current,
    hpending, hclient, hserver, ?_⟩
  rw [hthread] at hregisters hsimd
  refine ⟨?_, ?_, ?_, ?_, hsimd⟩
  · rw [hcontext]
    rfl
  · rw [hcontext]
    rfl
  · rw [hcontext]
    rfl
  · rw [hregisters]
    ext1 slot
    fin_cases slot <;> rfl

/-- The completion that follows a call to oneself answers that call or one on an earlier
channel. -/
theorem findPendingChannel_begun {after : UserRuntime} {call : PendingCall}
    (hpending : after.pending = Function.update runtime.pending ref (some call))
    (hserver : call.serverThread = active) :
    (∀ c, after.findPendingChannelByServerThread active = some c →
      c = ref ∨ (c < ref ∧ runtime.findPendingChannelByServerThread active = some c)) ∧
    (∀ c, c < ref → runtime.findPendingChannelByServerThread active = some c →
      after.findPendingChannelByServerThread active = some c) := by
  have hself : after.isPendingOn active ref = true :=
    isPendingOn_iff.mpr ⟨call, by rw [hpending, Function.update_self], hserver⟩
  have hother : ∀ c, c ≠ ref → after.isPendingOn active c = runtime.isPendingOn active c := by
    intro c hc
    rw [Bool.eq_iff_iff, isPendingOn_iff, isPendingOn_iff, hpending, Function.update_of_ne hc]
  exact ⟨fun c hc => firstIndex_of_added hself hother hc,
    fun c hlt hc => firstIndex_added_of_lt hother hlt hc⟩

/-- On x64 the callback of an accepted call to oneself runs exactly by chance. -/
theorem x64SelfCallRuns_iff
    (h : (runtimeSystem .x64).Reachable TransitionSystem.anyStep runtime)
    (hcall : AcceptsSelfCall .x64 (runtime.modifyThread active frame.saveTo) active frame.context
      ref) :
    X64SelfCallRuns runtime active ref frame ↔ X64EntersByChance runtime active ref frame := by
  obtain ⟨after, begun, hreturns, hafter, hcurrent, hpending, hclient, hserver, hsaved⟩ :=
    x64HandleSyscall_self h hcall
  obtain ⟨hfirst, hearlier⟩ := findPendingChannel_begun hpending hserver
  have hidle : runtime.pending ref = none := (resolveCall_ok hcall.own).2.2.2.2.2.2
  have hwell : ∀ memory, WellFormed { after with memory := memory } :=
    fun memory => (reachable_wellFormed hafter).withMemory memory after.debugLog
  have hpicture := reachable_tidy hafter
  have htidy : ∀ memory, Tidy { after with memory := memory }.picture := fun _ => hpicture
  constructor
  · rintro ⟨entered, left, hentered, hcallback, hrequest, hsize, hcompletes⟩
    rw [hreturns] at hentered
    obtain ⟨rfl, rfl⟩ : frame.returning Status.ok = entered ∧ after = left := by
      simpa using hentered
    refine ⟨hcallback, hrequest, hsize, fun c call hfind hlt hfound => ?_⟩
    have hfind' : after.findPendingChannelByServerThread active = some c := hearlier c hlt hfind
    have hfound' : after.pending c = some call := by
      rw [hpending, Function.update_of_ne hlt.ne, hfound]
    -- Any frame will do for the completion; we take the frame of the call.
    have hsyscall : Syscall.ofNumber { frame with rax := 8 }.rax = some .rpcComplete := rfl
    obtain ⟨later, hlater, hstays⟩ := hcompletes after.memory _ hsyscall
    have hself : call.clientThread = active := by
      by_contra hother
      exact x64HandleSyscall_completeOther hcurrent hsyscall hfind' hfound' hother hlater hstays
    obtain ⟨thread, left, hleft, _⟩ := x64HandleSyscall_completeSelf (hwell after.memory)
      (htidy after.memory) hcurrent hsyscall hfind' hfound' hself
    have hframe := Prod.mk.inj (Except.ok.inj (hleft.symm.trans hlater))
    exact ⟨hself, loadUserThreadFrame_restore_iff.mp (Option.some.inj hframe.1)⟩
  · intro hchance
    refine ⟨_, after, hreturns, hchance.callback, hchance.request, hchance.size,
      fun memory complete hsyscall => ?_⟩
    obtain ⟨c, hfind⟩ : ∃ c, after.findPendingChannelByServerThread active = some c :=
      firstIndex_isSome (isPendingOn_iff.mpr
        ⟨begun, by rw [hpending, Function.update_self], hserver⟩)
    -- The completion answers this call, or an earlier one that has saved the same frame.
    obtain ⟨call, hfound, hself, hcallSaved⟩ : ∃ call, after.pending c = some call ∧
        call.clientThread = active ∧ frame.SavedIn call := by
      rcases hfirst c hfind with rfl | ⟨hlt, hbefore⟩
      · exact ⟨begun, by rw [hpending, Function.update_self], hclient, hsaved⟩
      · obtain ⟨call, hfound, _⟩ := findPendingChannel_some hbefore
        obtain ⟨hself, hcallSaved⟩ := hchance.earlier c call hbefore hlt hfound
        exact ⟨call, by rw [hpending, Function.update_of_ne hlt.ne, hfound], hself, hcallSaved⟩
    obtain ⟨thread, later, hlater, hstays⟩ := x64HandleSyscall_completeSelf (hwell memory)
      (htidy memory) hcurrent hsyscall hfind hfound hself
    rw [loadUserThreadFrame_restore_iff.mpr hcallSaved] at hlater
    exact ⟨later, hlater, hstays⟩

end X64

section Arm64

variable {runtime : UserRuntime} {active : ThreadRef} {ref : ChannelRef}
  {frame : Arm64SyscallFrame}

/-- The same on arm64, where X0 and X1 carry the request and its size. -/
def Arm64SelfCallRuns (runtime : UserRuntime) (active : ThreadRef) (ref : ChannelRef)
    (frame : Arm64SyscallFrame) : Prop :=
  ∃ entered after, arm64HandleSyscall frame runtime = .ok (some entered, after) ∧
    entered.elr = (runtime.endpointOf ref).callbackAddress ∧
    entered.x0 = selfRequestAddress frame.context ∧ entered.x1 = frame.x2 ∧
    ∀ (memory : ByteMemory) (complete : Arm64SyscallFrame),
      (complete.esr >>> 26) &&& 0x3F = esrExceptionClassSvc64 →
      Syscall.ofNumber complete.x8 = some .rpcComplete →
      ∃ later, arm64HandleSyscall complete { after with memory := memory } =
          .ok (some (frame.returning (statusOfArgument complete.x0)), later) ∧
        later.currentThread = some active

/-- The frame of a syscall return has no size in X1, and a request is not empty. -/
theorem not_arm64SelfCallRuns (hw : WellFormed runtime)
    (hcall : AcceptsSelfCall .arm64 (runtime.modifyThread active frame.saveTo) active
      frame.context ref) :
    ¬ Arm64SelfCallRuns runtime active ref frame := by
  rintro ⟨entered, after, hentered, _, _, hsize, _⟩
  have hcurrent : runtime.currentThread = some active := hcall.current
  have hsaved : WellFormed (runtime.modifyThread active frame.saveTo) :=
    hw.modifyThread active fun _ h => h
  have hbegun := hcall.begun hsaved
  have hwell := hsaved.act .arm64 (.syscall frame.context)
  change WellFormed ((runtime.modifyThread active frame.saveTo).dispatchSyscall .arm64
    frame.context).2 at hwell
  have hresumed := arm64HandleSyscall_ok hcurrent hentered
  generalize (runtime.modifyThread active frame.saveTo).dispatchSyscall .arm64 frame.context =
    result at hbegun hwell hresumed
  obtain ⟨hloaded, _⟩ := arm64Resume_same hbegun.current (hwell.currentLive _ hbegun.current)
    hresumed
  have hempty : frame.x2 = 0 := by
    rw [← hsize, hloaded]
    rfl
  exact (resolveCall_arguments hcall.own).2.1 hempty

end Arm64

/-- The frame of a call through the handle in RDI. -/
def selfCallFrame (handle requestAddress trapAddress stackPointer : UInt64) : X64SyscallFrame where
  r9 := 0
  r8 := 0
  r10 := 0
  rdx := 1
  rsi := requestAddress
  rdi := handle
  rax := 5
  rcx := trapAddress
  r11 := 0x202
  userRsp := stackPointer
  r15 := 0
  r14 := 0
  r13 := 0
  r12 := 0
  rbp := 0
  rbx := 0
  preservedXmmQwords := fun _ => 0

/-- The checks of an accepted call to oneself, for evaluation. -/
def acceptsSelfCall (arch : Arch) (runtime : UserRuntime) (active : ThreadRef)
    (context : UserSyscallContext) (ref : ChannelRef) : Bool :=
  runtime.currentThread = some active && runtime.hasRunnableThread &&
    Syscall.ofNumber context.syscallNumber = some .rpcCall &&
    (runtime.resolveCall active context).toOption = some (ref, active) &&
    (runtime.dispatchSyscall arch context).1 = Status.ok

theorem acceptsSelfCall_sound {arch : Arch} {runtime : UserRuntime} {active : ThreadRef}
    {context : UserSyscallContext} {ref : ChannelRef}
    (h : acceptsSelfCall arch runtime active context ref = true) :
    AcceptsSelfCall arch runtime active context ref := by
  simp only [acceptsSelfCall, Bool.and_eq_true, decide_eq_true_eq] at h
  obtain ⟨⟨⟨⟨hcurrent, hrunnable⟩, hsyscall⟩, hown⟩, hok⟩ := h
  refine ⟨hcurrent, hrunnable, hsyscall, ?_, hok⟩
  cases hresolve : runtime.resolveCall active context with
  | error status =>
    rw [hresolve] at hown
    cases hown
  | ok target =>
    rw [hresolve] at hown
    exact congrArg Except.ok (Option.some.inj hown)

/-- A thread of the booted system calls the endpoint it has registered and goes on behind the
call. -/
theorem ownEndpoint_notEntered :
    ∃ runtime, (runtimeSystem .x64).Reachable TransitionSystem.anyStep runtime ∧
      AcceptsSelfCall .x64
        (runtime.modifyThread 0 (selfCallFrame 3 0x1400 0x1010 0x1800).saveTo) 0
        (selfCallFrame 3 0x1400 0x1010 0x1800).context 0 ∧
      ¬ X64SelfCallRuns runtime 0 0 (selfCallFrame 3 0x1400 0x1010 0x1800) := by
  obtain ⟨runtime, hreach, hcall, hcallback⟩ := boot_reachable .x64 TransitionSystem.anyStep 1
    [trap 3 0x1100 0x1200 0x1210 0x1800, trap 4 0x1100 0x1300 0 0x1800]
    (fun s => acceptsSelfCall .x64
        (s.modifyThread 0 (selfCallFrame 3 0x1400 0x1010 0x1800).saveTo) 0
        (selfCallFrame 3 0x1400 0x1010 0x1800).context 0 = true ∧
      (s.endpointOf 0).callbackAddress = 0x1200) rfl (by decide +kernel)
  have haccepts := acceptsSelfCall_sound hcall
  refine ⟨runtime, hreach, haccepts, fun hruns => ?_⟩
  have hchance := (x64SelfCallRuns_iff hreach haccepts).mp hruns
  have hentry : (0x1010 : UInt64) = 0x1200 := hchance.callback.trans hcallback
  exact absurd hentry (by decide)

end Ringos.Arch
