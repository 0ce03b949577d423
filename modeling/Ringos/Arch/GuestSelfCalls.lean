import Ringos.Arch.GuestRuns
import Ringos.Arch.SelfCalls

/-!
# Calls of an emulated thread to itself

The emulator lets a guest that has called its own endpoint continue behind the
call, and does the same behind the `RPC_COMPLETE`. The registers of the guest
stay as they are, whatever the runtime has saved and restored. So the callback
runs as it should only if it starts right behind the call and comes back to the
call's own instruction to complete, with everything as it was.
-/

namespace Ringos.Arch

open Ringos.Core Ringos.Kernel Ringos.Emulator Ringos.Scheduler UserRuntime

/-- The registers that a syscall of an emulated thread has to keep: RBX, RSP, RBP, RSI, RDI and
R12 to R15. -/
def keptRegisters : List (Fin 16) := [3, 4, 5, 6, 7, 12, 13, 14, 15]

/-- The flags and the kept registers of two guest states are the same. -/
structure SameKept (state other : EmulatorState) : Prop where
  flags : state.flags = other.flags
  registers : ∀ index ∈ keptRegisters,
    state.generalRegisters.get index = other.generalRegisters.get index
  simdRegisters : ∀ register : Fin 16, 6 ≤ register.val →
    state.simdRegisters.get register = other.simdRegisters.get register

/-- The next syscall of the guest is an `RPC_COMPLETE`. -/
structure ComesToComplete (entered complete : ExecutionContext UserRuntime)
    (completing : DecodedInstruction) : Prop extends RunsTo entered complete completing where
  quiet : complete.machine.world = entered.machine.world
  number : Syscall.ofNumber (complete.machine.state.generalRegisters.get 0) = some .rpcComplete

/-- The callback of a call of an emulated thread to itself runs as a callback should: the thread
next enters its guest at the callback with the request and its size, and the `RPC_COMPLETE` that
the guest then comes to takes it back behind the call, with the status and what it had there. -/
def EmulatedSelfCallRuns (storage : ProcessStorage) (active : ThreadRef) (ref : ChannelRef)
    (context : ExecutionContext UserRuntime) (instruction : DecodedInstruction) : Prop :=
  let call := trapped instruction context.machine.state
  ∃ entered, nextEntry storage active context = some entered ∧
    entered.machine.state.instructionPointer =
      (context.machine.world.endpointOf ref).callbackAddress ∧
    entered.machine.state.generalRegisters.get 7 = selfRequestAddress (x64SyscallContext call) ∧
    entered.machine.state.generalRegisters.get 6 = call.generalRegisters.get 2 ∧
    ∀ complete completing, ComesToComplete entered complete completing →
      ∃ later, nextEntry storage active complete = some later ∧
        later.machine.state.instructionPointer = call.instructionPointer ∧
        later.machine.state.generalRegisters.get 0 =
          signExtendStatus (statusOfArgument (complete.machine.state.generalRegisters.get 7)) ∧
        SameKept later.machine.state call

/-- The guest happens to be where its callback starts, with the request and its size, and it
completes with the instruction of the call and everything as it was, with no earlier call of
another thread pending. -/
structure EmulatedEntersByChance (storage : ProcessStorage) (active : ThreadRef) (ref : ChannelRef)
    (context : ExecutionContext UserRuntime) (instruction : DecodedInstruction) : Prop where
  callback : instruction.nextAddress + 1 = (context.machine.world.endpointOf ref).callbackAddress
  request : context.machine.state.generalRegisters.get 7 =
    selfRequestAddress (x64SyscallContext (trapped instruction context.machine.state))
  size : context.machine.state.generalRegisters.get 6 = context.machine.state.generalRegisters.get 2
  completes : ∀ entered complete completing, nextEntry storage active context = some entered →
    ComesToComplete entered complete completing →
      completing.nextAddress = instruction.nextAddress ∧
      SameKept complete.machine.state context.machine.state ∧
      ∀ c call, context.machine.world.findPendingChannelByServerThread active = some c → c < ref →
        context.machine.world.pending c = some call → call.clientThread = active

section Answers

variable {runtime : UserRuntime} {active : ThreadRef} {state : EmulatorState}

/-- An accepted call of the guest to itself lets it continue. -/
theorem dispatchX64Syscall_self {ref : ChannelRef} (hw : WellFormed runtime)
    (hcall : AcceptsSelfCall .arm64
      (runtime.modifyThread active (storeX64EmulatorPreservedState state)) active
      (x64SyscallContext state) ref) :
    ∃ after call, dispatchX64Syscall state runtime = (⟨Status.ok, .continueRun⟩, after) ∧
      after.LiveThread active ∧ after.currentThread = some active ∧
      after.pending = Function.update runtime.pending ref (some call) ∧
      call.clientThread = active ∧ call.serverThread = active := by
  have hcurrent : runtime.currentThread = some active := hcall.current
  have hsaved : WellFormed
      (runtime.modifyThread active (storeX64EmulatorPreservedState state)) :=
    hw.modifyThread active fun _ h => h
  have hbegun := hcall.begun hsaved
  have hwell := hsaved.act .arm64 (.syscall (x64SyscallContext state))
  change WellFormed ((runtime.modifyThread active
    (storeX64EmulatorPreservedState state)).dispatchSyscall .arm64 (x64SyscallContext state)).2
    at hwell
  have hstatus := hcall.accepted
  simp only [dispatchX64Syscall, hcurrent]
  generalize (runtime.modifyThread active
    (storeX64EmulatorPreservedState state)).dispatchSyscall .arm64 (x64SyscallContext state) =
      result at hbegun hwell hstatus
  obtain ⟨call, hpending, hclient, hserver, -⟩ := hbegun.pending
  have hlive := hwell.currentLive _ hbegun.current
  refine ⟨result.2.modifyThread active (Thread.prepareSyscallResume .arm64 Status.ok), call, ?_,
    liveThread_modifyThread.mpr hlive, hbegun.current, hpending, hclient, hserver⟩
  rw [if_pos hbegun.current, hstatus, thread_modifyThread_self hlive]
  rfl

/-- A completion of the guest lets it continue exactly if it answers a call of its own. -/
theorem dispatchX64Syscall_complete (hlive : runtime.LiveThread active)
    (hcurrent : runtime.currentThread = some active)
    (hsyscall : Syscall.ofNumber (state.generalRegisters.get 0) = some .rpcComplete)
    {c : ChannelRef} {call : PendingCall}
    (hfind : runtime.findPendingChannelByServerThread active = some c)
    (hcall : runtime.pending c = some call) :
    if call.clientThread = active then
      ∃ after, dispatchX64Syscall state runtime =
        (⟨statusOfArgument (state.generalRegisters.get 7), .continueRun⟩, after)
    else
      ∃ answer after, dispatchX64Syscall state runtime = (answer, after) ∧
        answer.action ≠ .continueRun ∧ after.currentThread ≠ some active := by
  have hsaved : (runtime.modifyThread active
      (storeX64EmulatorPreservedState state)).currentThread = some active := hcurrent
  have hnumber : Syscall.ofNumber (x64SyscallContext state).syscallNumber = some .rpcComplete :=
    hsyscall
  have hresult := dispatchSyscall_complete .arm64 hsaved hnumber hfind hcall
  simp only [dispatchX64Syscall, hcurrent, hresult]
  have hentered : ((runtime.modifyThread active
      (storeX64EmulatorPreservedState state)).enterSyscall active
        (x64SyscallContext state)).LiveThread active :=
    liveThread_modifyThread.mpr (liveThread_modifyThread.mpr hlive)
  have hentry : ((runtime.modifyThread active
      (storeX64EmulatorPreservedState state)).enterSyscall active
        (x64SyscallContext state)).currentThread = some active := hcurrent
  generalize (runtime.modifyThread active (storeX64EmulatorPreservedState state)).enterSyscall
    active (x64SyscallContext state) = entered at hentered hentry
  by_cases hself : call.clientThread = active
  · simp only [if_pos hself]
    have hfinished : (entered.finishCall c call).currentThread = some active := hentry
    have hkept : (entered.finishCall c call).LiveThread active :=
      liveThread_modifyThread.mpr hentered
    rw [if_pos hfinished, thread_modifyThread_self hkept]
    exact ⟨_, rfl⟩
  · have hother : ∀ left : UserRuntime,
        (left.setCurrentThread (some call.clientThread)).currentThread ≠ some active := by
      intro left hs
      rw [setCurrentThread_currentThread] at hs
      exact hself (Option.some.inj hs)
    simp only [if_neg hself, if_neg (hother _)]
    split
    · exact ⟨_, _, rfl, SyscallAction.noConfusion, hother _⟩
    · exact ⟨_, _, rfl, SyscallAction.noConfusion, hother _⟩

end Answers

section Entries

variable {machine : Machine UserRuntime} {address value : UInt64} {host : ByteMemory}
  {world : UserRuntime}

/-- What a syscall leaves keeps every register but RAX. -/
theorem get_setRax {index : Fin 16} (hindex : index ≠ 0) :
    ({ machine.jumpTo address with host := host, world := world }.setRegister rax
      value).state.generalRegisters.get index = machine.state.generalRegisters.get index := by
  have hne : rax.toNat ≠ index.val := fun h => hindex (Fin.ext h.symm)
  exact Vector.getElem_setIfInBounds_ne index.isLt hne

/-- The status is in RAX. -/
theorem get_setRax_zero :
    ({ machine.jumpTo address with host := host, world := world }.setRegister rax
      value).state.generalRegisters.get 0 = value :=
  Vector.getElem_setIfInBounds_self (by decide)

theorem sameKept_setRax {state : EmulatorState} :
    SameKept ({ machine.jumpTo address with host := host, world := world }.setRegister rax
      value).state state ↔ SameKept machine.state state := by
  have hregisters : ∀ index ∈ keptRegisters,
      ({ machine.jumpTo address with host := host, world := world }.setRegister rax
        value).state.generalRegisters.get index = machine.state.generalRegisters.get index := by
    intro index hindex
    refine get_setRax ?_
    rintro rfl
    revert hindex
    decide
  constructor
  · rintro ⟨hflags, hkept, hsimd⟩
    exact ⟨hflags, fun index hindex => (hregisters index hindex).symm.trans (hkept index hindex),
      hsimd⟩
  · rintro ⟨hflags, hkept, hsimd⟩
    exact ⟨hflags, fun index hindex => (hregisters index hindex).trans (hkept index hindex),
      hsimd⟩

end Entries

section Runs

variable {runtime after : UserRuntime} {storage : ProcessStorage} {active : ThreadRef}
  {ref : ChannelRef} {context entered complete : ExecutionContext UserRuntime}
  {instruction completing : DecodedInstruction}

/-- A completion enters the guest behind its own instruction, or not at all if it answers the call
of another thread. -/
theorem ComesToComplete.nextEntry (h : ComesToComplete entered complete completing)
    (storage : ProcessStorage) (hbytes : entered.machine.memory.bytes ≠ 0)
    (hlive : entered.machine.world.LiveThread active)
    (hcurrent : entered.machine.world.currentThread = some active)
    {c : ChannelRef} {call : PendingCall}
    (hfind : entered.machine.world.findPendingChannelByServerThread active = some c)
    (hcall : entered.machine.world.pending c = some call) :
    if call.clientThread = active then
      ∃ later, nextEntry storage active complete = some later ∧
        later.machine.state.instructionPointer = completing.nextAddress + 1 ∧
        later.machine.state.generalRegisters.get 0 =
          signExtendStatus (statusOfArgument (complete.machine.state.generalRegisters.get 7)) ∧
        ∀ state, SameKept later.machine.state state ↔ SameKept complete.machine.state state
    else nextEntry storage active complete = none := by
  obtain ⟨count, hretired⟩ := h.reached
  have hbytes' : complete.machine.memory.bytes ≠ 0 := by
    rw [(retire_progressed rfl hbytes hretired).memory]
    exact hbytes
  rw [← h.quiet] at hlive hcurrent hfind hcall
  have hanswer := @dispatchX64Syscall_complete
    (withMemory complete.machine.world complete.machine.host) active
    (trapped completing complete.machine.state) hlive hcurrent h.number _ _ hfind hcall
  by_cases hself : call.clientThread = active
  · rw [if_pos hself] at hanswer ⊢
    obtain ⟨left, hdispatch⟩ := hanswer
    obtain ⟨later, hlater, hmachine⟩ := nextEntry_continues storage active hbytes'
      h.fetched h.syscall hdispatch rfl
    refine ⟨later, hlater, ?_, ?_, fun state => ?_⟩
    · rw [hmachine]
      rfl
    · rw [hmachine]
      exact get_setRax_zero
    · rw [hmachine]
      exact sameKept_setRax
  · rw [if_neg hself] at hanswer ⊢
    obtain ⟨answer, left, hdispatch, hstops, hswitched⟩ := hanswer
    exact nextEntry_switches hbytes' h.fetched h.syscall hdispatch hstops hswitched

/-- The callback of an accepted call of an emulated thread to itself runs exactly by chance. -/
theorem emulatedSelfCallRuns_iff (h : MayRun runtime active)
    (hrun : RunsTo (ExecutionContext.start (guestMachine runtime storage active)) context
      instruction)
    (hcall : AcceptsSelfCall .arm64
      ((withMemory context.machine.world context.machine.host).modifyThread active
        (storeX64EmulatorPreservedState (trapped instruction context.machine.state)))
      active (x64SyscallContext (trapped instruction context.machine.state)) ref) :
    EmulatedSelfCallRuns storage active ref context instruction ↔
      EmulatedEntersByChance storage active ref context instruction := by
  obtain ⟨count, hretired⟩ := hrun.reached
  have hbytes : context.machine.memory.bytes ≠ 0 := by
    rw [(retire_progressed rfl (getUserRegion_ne_zero storage) hretired).memory]
    exact getUserRegion_ne_zero storage
  have hworld := (h.retire hretired).withMemory context.machine.host
  obtain ⟨after, begun, hdispatch, hlive, hcurrent, hpending, hclient, hserver⟩ :=
    dispatchX64Syscall_self (reachable_wellFormed hworld.reachable) hcall
  obtain ⟨entered, hentered, hmachine⟩ := nextEntry_continues storage active hbytes
    hrun.fetched hrun.syscall hdispatch rfl
  have hleft : entered.machine.world = after := by
    rw [hmachine]
    rfl
  have hpointer : entered.machine.state.instructionPointer = instruction.nextAddress + 1 := by
    rw [hmachine]
    rfl
  have hregister : ∀ index : Fin 16, index ≠ 0 → entered.machine.state.generalRegisters.get index =
      context.machine.state.generalRegisters.get index := by
    intro index hindex
    rw [hmachine]
    exact get_setRax hindex
  have hbytes' : entered.machine.memory.bytes ≠ 0 := by
    rw [hmachine]
    exact hbytes
  obtain ⟨hfirst, hearlier⟩ := findPendingChannel_begun hpending hserver
  -- What a completion answers is this call or an earlier one.
  obtain ⟨c, hfind⟩ : ∃ c, after.findPendingChannelByServerThread active = some c :=
    firstIndex_isSome (isPendingOn_iff.mpr
      ⟨begun, by rw [hpending, Function.update_self], hserver⟩)
  obtain ⟨call, hfound, -⟩ := findPendingChannel_some hfind
  have hown : call.clientThread = active ↔
      ∀ c call, context.machine.world.findPendingChannelByServerThread active = some c → c < ref →
        context.machine.world.pending c = some call → call.clientThread = active := by
    constructor
    · intro hself before earlier hbefore hlt hpended
      obtain rfl : c = before := Option.some.inj (hfind.symm.trans (hearlier before hlt hbefore))
      rw [hpending, Function.update_of_ne hlt.ne] at hfound
      obtain rfl : call = earlier := Option.some.inj (hfound.symm.trans hpended)
      exact hself
    · intro hearly
      rcases hfirst c hfind with rfl | ⟨hlt, hbefore⟩
      · rw [hpending, Function.update_self] at hfound
        obtain rfl : begun = call := Option.some.inj hfound
        exact hclient
      · rw [hpending, Function.update_of_ne hlt.ne] at hfound
        exact hearly c call hbefore hlt hfound
  have hcompletes := fun complete completing
      (hcomes : ComesToComplete entered complete completing) =>
    hcomes.nextEntry storage hbytes' (hleft ▸ hlive) (hleft ▸ hcurrent) (hleft ▸ hfind)
      (hleft ▸ hfound)
  constructor
  · rintro ⟨entry, hentry, hcallback, hrequest, hsize, hreturns⟩
    obtain rfl : entered = entry := Option.some.inj (hentered.symm.trans hentry)
    refine ⟨hpointer.symm.trans hcallback, (hregister 7 (by decide)).symm.trans hrequest,
      (hregister 6 (by decide)).symm.trans hsize, ?_⟩
    intro entry complete completing hentry hcomes
    obtain rfl : entered = entry := Option.some.inj (hentered.symm.trans hentry)
    obtain ⟨later, hlater, hbehind, -, hkept⟩ := hreturns complete completing hcomes
    have hanswer := hcompletes complete completing hcomes
    split at hanswer
    · rename_i hself
      obtain ⟨next, hnext, haddress, -, hsame⟩ := hanswer
      obtain rfl : later = next := Option.some.inj (hlater.symm.trans hnext)
      have hcomplete := (hsame _).mp hkept
      refine ⟨?_, ⟨hcomplete.flags, hcomplete.registers, hcomplete.simdRegisters⟩, hown.mp hself⟩
      exact (UInt64.add_left_inj 1).mp (haddress.symm.trans hbehind)
    · rw [hanswer] at hlater
      cases hlater
  · intro hchance
    refine ⟨entered, hentered, hpointer.trans hchance.callback,
      (hregister 7 (by decide)).trans hchance.request, (hregister 6 (by decide)).trans hchance.size,
      fun complete completing hcomes => ?_⟩
    obtain ⟨haddress, hkept, hearly⟩ := hchance.completes entered complete completing hentered hcomes
    have hanswer := hcompletes complete completing hcomes
    rw [if_pos (hown.mpr hearly)] at hanswer
    obtain ⟨later, hlater, hbehind, hstatus, hsame⟩ := hanswer
    refine ⟨later, hlater, hbehind.trans (congrArg (· + 1) haddress), hstatus, (hsame _).mpr ?_⟩
    exact ⟨hkept.flags, hkept.registers, hkept.simdRegisters⟩

end Runs

/-- The callback of a call of a thread to its own endpoint does not run on arm64, and runs on x64
and in the emulator exactly by chance: when the frame of the call happens to be the one that enters
the callback and no earlier pending call is answered in its place, or when the guest happens to be
where its callback starts and completes where it has called. -/
theorem selfCallRuns_iff (runtime : UserRuntime) (active : ThreadRef) (ref : ChannelRef) :
    (∀ frame : X64SyscallFrame, (runtimeSystem .x64).Reachable TransitionSystem.anyStep runtime →
      AcceptsSelfCall .x64 (runtime.modifyThread active frame.saveTo) active frame.context ref →
      (X64SelfCallRuns runtime active ref frame ↔ X64EntersByChance runtime active ref frame)) ∧
    (∀ frame : Arm64SyscallFrame,
      (runtimeSystem .arm64).Reachable TransitionSystem.anyStep runtime →
      AcceptsSelfCall .arm64 (runtime.modifyThread active frame.saveTo) active frame.context ref →
      ¬ Arm64SelfCallRuns runtime active ref frame) ∧
    (∀ (storage : ProcessStorage) (context : ExecutionContext UserRuntime)
      (instruction : DecodedInstruction), MayRun runtime active →
      RunsTo (ExecutionContext.start (guestMachine runtime storage active)) context instruction →
      AcceptsSelfCall .arm64
        ((withMemory context.machine.world context.machine.host).modifyThread active
          (storeX64EmulatorPreservedState (trapped instruction context.machine.state)))
        active (x64SyscallContext (trapped instruction context.machine.state)) ref →
      (EmulatedSelfCallRuns storage active ref context instruction ↔
        EmulatedEntersByChance storage active ref context instruction)) :=
  ⟨fun _ h hcall => x64SelfCallRuns_iff h hcall,
    fun _ h hcall => not_arm64SelfCallRuns (reachable_wellFormed h) hcall,
    fun _ _ _ h hrun hcall => emulatedSelfCallRuns_iff h hrun hcall⟩

/-- A process whose page is mapped at address zero, so that a handle can be an address in it. -/
def lowRuntime : UserRuntime :=
  (((reset bootMemory).createProcess ⟨.x64, .ringos, .native⟩
    (addAddressSpaceMapping ⟨0, []⟩ 0 0x1000 0x1000).2).2.createThread 0
      ⟨0x1f0, 0x800, 0x202, 0⟩).2

theorem lowRuntime_started : Started (lowRuntime.setCurrentThread (some 0)) :=
  ⟨lowRuntime, 0, .thread _ (.process _ _ (.reset bootMemory)) rfl, rfl, rfl⟩

/-- The thread registers `a` and opens and closes it until the next channel has handle 16. -/
def openSixteen : List Action :=
  [trap 3 0x100 0x200 0x210 0x800] ++
    (List.range 13).flatMap (fun n =>
      [trap 4 0x100 0x300 0 0x800, trap 7 (3 + n).toUInt64 0 0 0x800]) ++
    [trap 4 0x100 0x300 0 0x800]

/-- A guest that registers the name behind its code, opens it and calls it with one byte. -/
def selfCallingGuest : List UInt8 :=
  [0xB8, 3, 0, 0, 0, 0xBF, 0x33, 0, 0x40, 0, 0xBE, 0, 2, 0x40, 0, 0xBA, 0x10, 2, 0x40, 0, 0x0F, 0x05,
    0xB8, 4, 0, 0, 0, 0xBE, 0, 1, 0x40, 0, 0x0F, 0x05,
    0xB8, 5, 0, 0, 0, 0xBF, 3, 0, 0, 0, 0xBA, 1, 0, 0, 0, 0x0F, 0x05, 97]

/-- A runtime whose only thread is that guest. -/
def guestRuntime : UserRuntime :=
  (((reset (storeBytes (fun _ => 0) 0x80000000 selfCallingGuest)).createProcess
    ⟨.x64, .ringos, .x64Emulator⟩
    (addAddressSpaceMapping ⟨0, []⟩ x64UserImageVirtualAddress 0x80000000
      x64UserRegionSize).2).2.createThread 0 ⟨x64UserImageVirtualAddress, 0x409000, 0x202, 0⟩).2

theorem guestRuntime_started : Started (guestRuntime.setCurrentThread (some 0)) :=
  ⟨guestRuntime, 0, .thread _ (.process _ _ (.reset _)) rfl, rfl, rfl⟩

/-- The guest is at an accepted call to itself, and its callback lies elsewhere. -/
def callsItself (context : ExecutionContext UserRuntime) : Bool :=
  match context.machine.fetchInstruction with
  | none => false
  | some instruction =>
    let call := trapped instruction context.machine.state
    context.result.retiredInstructions < emulatorOptions.instructionBudget &&
      context.machine.isSyscall instruction &&
      acceptsSelfCall .arm64
        ((withMemory context.machine.world context.machine.host).modifyThread 0
          (storeX64EmulatorPreservedState call)) 0 (x64SyscallContext call) 0 &&
      call.instructionPointer ≠ (context.machine.world.endpointOf 0).callbackAddress

theorem callsItself_sound {start context : ExecutionContext UserRuntime} {count : Nat}
    (hretired : retire emulatorCallbacks count start = some context)
    (h : callsItself context = true) :
    ∃ instruction, RunsTo start context instruction ∧
      AcceptsSelfCall .arm64
        ((withMemory context.machine.world context.machine.host).modifyThread 0
          (storeX64EmulatorPreservedState (trapped instruction context.machine.state)))
        0 (x64SyscallContext (trapped instruction context.machine.state)) 0 ∧
      instruction.nextAddress + 1 ≠ (context.machine.world.endpointOf 0).callbackAddress := by
  unfold callsItself at h
  split at h
  · cases h
  · rename_i instruction hfetch
    simp only [Bool.and_eq_true, decide_eq_true_eq] at h
    obtain ⟨⟨⟨hwithin, hsyscall⟩, haccepts⟩, hcallback⟩ := h
    exact ⟨instruction, ⟨⟨count, hretired⟩, hwithin, hfetch, hsyscall⟩,
      acceptsSelfCall_sound haccepts, hcallback⟩

/-- A call whose frame is by chance the one that enters the callback, and the call of a guest that
goes on behind it instead. -/
theorem lowHandle_entered :
    (∃ runtime, (runtimeSystem .x64).Reachable TransitionSystem.anyStep runtime ∧
      X64SelfCallRuns runtime 0 0 (selfCallFrame 16 1 0x200 0x18)) ∧
    ∃ runtime context instruction, MayRun runtime 0 ∧
      RunsTo (ExecutionContext.start (guestMachine runtime sampleStorage 0)) context instruction ∧
      ¬ EmulatedSelfCallRuns sampleStorage 0 0 context instruction := by
  constructor
  · obtain ⟨runtime, hreach, hcall, hcallback, hnone⟩ :
        ∃ runtime, (runtimeSystem .x64).Reachable TransitionSystem.anyStep runtime ∧
          acceptsSelfCall .x64 (runtime.modifyThread 0 (selfCallFrame 16 1 0x200 0x18).saveTo) 0
            (selfCallFrame 16 1 0x200 0x18).context 0 = true ∧
          (runtime.endpointOf 0).callbackAddress = 0x200 ∧
          runtime.findPendingChannelByServerThread 0 = none := by
      have hok : ∀ (s : UserRuntime) (a : Action), s.mayAct a = true →
          (runtimeSystem .x64).enabled s a ∧ TransitionSystem.anyStep s a :=
        fun _ _ h => ⟨h, trivial⟩
      exact TransitionSystem.exists_reachable openSixteen hok lowRuntime_started (by decide +kernel)
    refine ⟨runtime, hreach, ((selfCallRuns_iff runtime 0 0).1 _ hreach
      (acceptsSelfCall_sound hcall)).mpr ⟨hcallback.symm, by decide, rfl, ?_⟩⟩
    intro c call hfind
    rw [hnone] at hfind
    cases hfind
  · have hmay : MayRun (guestRuntime.setCurrentThread (some 0)) 0 :=
      ⟨.init guestRuntime_started, rfl, by decide +kernel⟩
    have hguest : (retire emulatorCallbacks 11 (ExecutionContext.start
        (guestMachine (guestRuntime.setCurrentThread (some 0)) sampleStorage 0))).any
          callsItself = true := by
      decide +kernel
    obtain ⟨context, hretired, hcalls⟩ := (Option.any_eq_true _ _).mp hguest
    obtain ⟨instruction, hrun, hcall, hcallback⟩ := callsItself_sound hretired hcalls
    refine ⟨_, context, instruction, hmay, hrun, fun hruns => hcallback ?_⟩
    exact (((selfCallRuns_iff _ 0 0).2.2 _ _ _ hmay hrun hcall).mp hruns).callback

end Ringos.Arch
