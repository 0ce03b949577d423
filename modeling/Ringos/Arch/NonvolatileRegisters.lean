import Ringos.Core.Lanes
import Ringos.Emulator.ImportCalls
import Ringos.Arch.EmulatorThread
import Ringos.Arch.TrapReturn
import Ringos.Calls.Confinement
import Ringos.Calls.Switching

/-!
# Nonvolatile registers across calls of Windows imports

The stub of an import moves its first argument to RDI, which the calling
convention makes nonvolatile, and does not restore it. Everything else that the
convention makes nonvolatile survives the call, in the emulator and through the
trap handler of the x64 kernel. So a call keeps to the convention exactly when
RDI has the value of the first argument already.
-/

namespace Ringos.Arch

open Ringos.Core Ringos.Kernel Ringos.Image Ringos.Emulator UserRuntime

variable {σ : Type}

/-- RBX, RBP, RSI, RDI and R12 to R15. -/
def nonvolatileRegisters : List UInt32 := [rbx, rbp, rsi, rdi, 12, 13, 14, 15]

/-- A call has come back with the registers that the calling convention makes nonvolatile: the
general ones, RSP above the return address, and `XMM6` to `XMM15`. -/
structure KeepsNonvolatile (machine after : Machine σ) : Prop where
  registers : ∀ index ∈ nonvolatileRegisters, after.register index = machine.register index
  stack : after.register rsp = machine.register rsp + 8
  simd : ∀ index : Fin 16, 6 ≤ index.val →
    after.state.simdRegisters.get index = machine.state.simdRegisters.get index

/-- Where nothing else has changed, the call keeps to the convention exactly when RDI was the first
argument. -/
theorem keepsNonvolatile_iff {machine after : Machine σ}
    (hargument : after.register rdi = machine.register rcx)
    (hregisters : ∀ index ∈ nonvolatileRegisters, index ≠ rdi →
      after.register index = machine.register index)
    (hstack : after.register rsp = machine.register rsp + 8)
    (hsimd : ∀ index : Fin 16, 6 ≤ index.val →
      after.state.simdRegisters.get index = machine.state.simdRegisters.get index) :
    KeepsNonvolatile machine after ↔ machine.register rdi = machine.register rcx := by
  constructor
  · intro h
    exact (h.registers rdi (by decide)).symm.trans hargument
  · intro hsame
    refine ⟨fun index hindex => ?_, hstack, hsimd⟩
    by_cases hrdi : index = rdi
    · rw [hrdi, hargument, hsame]
    · exact hregisters index hindex hrdi

section SimdFile

/-- A byte of a number of eight bytes. -/
theorem byte_ofLittleEndian {bytes : List UInt8} (hlength : bytes.length = 8) {index : Nat}
    (hindex : index < 8) :
    (ofLittleEndian bytes >>> (8 * index).toUInt64).toUInt8 = bytes.getD index 0 := by
  have hencoded := toLittleEndian_ofLittleEndian hlength.le
  rw [hlength] at hencoded
  have hbyte := congrArg (fun encoded => encoded.getD index 0) hencoded
  simpa [toLittleEndian, hindex] using hbyte

/-- What the kernel saves of the SIMD registers is what it restores. -/
theorem restoredSimdRegisters_preserved (state : EmulatorState) :
    restoredSimdRegisters state (preservedSimdQword state) = state.simdRegisters := by
  refine Vector.ext fun register hregister => ?_
  rw [restoredSimdRegisters, Vector.getElem_ofFn]
  split
  · rename_i hsaved
    replace hsaved : 6 ≤ register := hsaved
    refine Vector.ext fun byte hbyte => ?_
    rw [Vector.getElem_ofFn]
    -- Quadword `2 * (register - 6) + byte / 8` is a half of the register, and the byte lies in it.
    have hregister' : 6 + (2 * (register - 6) + byte / 8) / 2 = register := by omega
    have hhalf : (2 * (register - 6) + byte / 8) % 2 = byte / 8 := by omega
    have hposition : 8 * (byte / 8) + byte % 8 = byte := Nat.div_add_mod byte 8
    have hwithin : byte % 8 < 8 := Nat.mod_lt _ (by decide)
    simp only [preservedSimdQword, hregister', hhalf]
    rw [byte_ofLittleEndian (by simp; omega) hwithin, List.getD_eq_getElem?_getD,
      List.getElem?_take_of_lt hwithin, List.getElem?_drop, hposition, Vector.getElem?_toList,
      Vector.getElem?_eq_getElem hbyte, Option.getD_some]
    rfl
  · rfl

end SimdFile

section Trap

/-- The frame that `x64_syscall_entry` pushes. The `syscall` instruction has left the instruction
pointer in RCX and the flags in R11. -/
def x64SyscallEntry (state : EmulatorState) : X64SyscallFrame where
  r9 := state.generalRegisters.get 9
  r8 := state.generalRegisters.get 8
  r10 := state.generalRegisters.get 10
  rdx := state.generalRegisters.get 2
  rsi := state.generalRegisters.get 6
  rdi := state.generalRegisters.get 7
  rax := state.generalRegisters.get 0
  rcx := state.instructionPointer
  r11 := state.flags
  userRsp := state.generalRegisters.get 4
  r15 := state.generalRegisters.get 15
  r14 := state.generalRegisters.get 14
  r13 := state.generalRegisters.get 13
  r12 := state.generalRegisters.get 12
  rbp := state.generalRegisters.get 5
  rbx := state.generalRegisters.get 3
  preservedXmmQwords := preservedSimdQword state

/-- The registers behind `sysretq`, which takes the instruction pointer from RCX and the flags from
R11. Of the SIMD registers only `XMM6` to `XMM15` are in the frame. -/
def x64SyscallExit (frame : X64SyscallFrame) (state : EmulatorState) : EmulatorState where
  generalRegisters := #v[frame.rax, frame.rcx, frame.rdx, frame.rbx, frame.userRsp, frame.rbp,
    frame.rsi, frame.rdi, frame.r8, frame.r9, frame.r10, frame.r11, frame.r12, frame.r13,
    frame.r14, frame.r15]
  simdRegisters := restoredSimdRegisters state frame.preservedXmmQwords
  instructionPointer := frame.rcx
  flags := frame.r11

/-- The processor behind the `ret` of a stub whose trap has come back with a frame. -/
def stubReturned (trapped : Machine σ) (frame : X64SyscallFrame) (returnAddress : UInt64) :
    Machine σ :=
  let resumed := trapped.mapState (x64SyscallExit frame)
  (resumed.setRegister rsp (resumed.register rsp + 8)).jumpTo returnAddress

/-- A trap that returns to its frame gives back the registers that are nonvolatile, and RSP. -/
theorem register_of_returning (trapped : Machine σ) (status : Int32) {index : UInt32}
    (hindex : index ∈ rsp :: nonvolatileRegisters) :
    (trapped.mapState (x64SyscallExit ((x64SyscallEntry trapped.state).returning
      status))).register index = trapped.register index := by
  simp only [nonvolatileRegisters, List.mem_cons, List.not_mem_nil, or_false] at hindex
  rcases hindex with rfl | rfl | rfl | rfl | rfl | rfl | rfl | rfl | rfl
  all_goals rfl

variable {runtime after : UserRuntime} {active : ThreadRef}

/-- Logging changes the log only. -/
theorem debugLogSyscall_eq (runtime : UserRuntime) (active : ThreadRef)
    (context : UserSyscallContext) :
    ∃ status debugLog, runtime.debugLogSyscall active context =
      (status, { runtime with debugLog := debugLog }) := by
  unfold debugLogSyscall
  split
  · exact ⟨_, runtime.debugLog, rfl⟩
  dsimp only
  split
  · exact ⟨_, runtime.debugLog, rfl⟩
  · exact ⟨_, _, rfl⟩

/-- A syscall of an import that comes back to its thread writes no memory, and the thread returns to
its trap. -/
theorem x64HandleSyscall_import {frame loaded : X64SyscallFrame}
    (h : (runtimeSystem .x64).Reachable TransitionSystem.anyStep runtime)
    (hrunnable : runtime.hasRunnableThread = true) (hcurrent : runtime.currentThread = some active)
    (hnumber : frame.rax = 1 ∨ frame.rax = 2)
    (hok : x64HandleSyscall frame runtime = .ok (some loaded, after))
    (hback : after.currentThread = some active) :
    after.memory = runtime.memory ∧ ∃ status, loaded = frame.returning status := by
  have hlive := (reachable_wellFormed h).currentLive active hcurrent
  let entered := (runtime.modifyThread active frame.saveTo).enterSyscall active frame.context
  have hdispatch : (runtime.modifyThread active frame.saveTo).dispatchSyscall .x64 frame.context =
      entered.dispatchActive .x64 active frame.context := by
    simp only [dispatchSyscall, modifyThread_currentThread, hcurrent]
    rfl
  simp only [x64HandleSyscall, hcurrent, hdispatch, Except.ok.injEq] at hok
  rcases hnumber with hnumber | hnumber
  · have hsyscall : Syscall.ofNumber frame.context.syscallNumber = some .debugLog := by
      show Syscall.ofNumber frame.rax = _
      rw [hnumber]
      rfl
    obtain ⟨status, debugLog, hlog⟩ := debugLogSyscall_eq entered active frame.context
    simp only [dispatchActive, hsyscall, hlog] at hok
    let logged : UserRuntime := { entered with debugLog := debugLog }
    have hthread : logged.thread active =
        (frame.saveTo (runtime.thread active)).setUserContext
          (makeThreadContextFromSyscall frame.context) := by
      change ((runtime.modifyThread active frame.saveTo).modifyThread active
        (Thread.setUserContext _)).thread active = _
      rw [thread_modifyThread_self (liveThread_modifyThread.mpr hlive),
        thread_modifyThread_self hlive]
    have hlive' : logged.LiveThread active :=
      liveThread_modifyThread.mpr (liveThread_modifyThread.mpr hlive)
    have hcurrent' : logged.currentThread = some active := hcurrent
    have hrunnable' : logged.hasRunnableThread = true := by
      simp only [hasRunnableThread, hcurrent, hcurrent', hthread] at hrunnable ⊢
      exact hrunnable
    rw [x64Resume_same hcurrent' hlive' hrunnable', Prod.mk.injEq,
      loadUserThreadFrame_returning (by rw [hthread]; rfl) (by rw [hthread]; rfl)
        (by rw [hthread]; rfl)] at hok
    obtain ⟨hloaded, rfl⟩ := hok
    exact ⟨rfl, status, (Option.some.inj hloaded).symm⟩
  · have hsyscall : Syscall.ofNumber frame.context.syscallNumber = some .threadExit := by
      show Syscall.ofNumber frame.rax = _
      rw [hnumber]
      rfl
    simp only [dispatchActive, hsyscall] at hok
    -- The thread has exited, and another one has the CPU.
    have hsaved : WellFormed (runtime.modifyThread active frame.saveTo) :=
      (reachable_wellFormed h).modifyThread active fun _ hs => hs
    have hentered : WellFormed entered := hsaved.enterSyscall active frame.context
    obtain ⟨woken, heffect⟩ := terminateCurrentThread_effect .x64 hentered
      (show entered.currentThread = some active from hcurrent) frame.context.argument0
      Status.peerClosed
    have hnext := congrArg (fun result => result.2.currentThread) hok
    simp only [x64Resume_currentThread] at hnext
    exact absurd rfl (heffect.current active (hnext.trans hback)).1

/-- The syscalls of imports write no memory when the arm64 kernel serves them for its emulator. -/
theorem dispatchX64Syscall_memory {state : EmulatorState}
    (hnumber : state.generalRegisters.get 0 = 1 ∨ state.generalRegisters.get 0 = 2)
    (runtime : UserRuntime) : (dispatchX64Syscall state runtime).2.memory = runtime.memory := by
  have hopen : Syscall.ofNumber (x64SyscallContext state).syscallNumber ≠ some .rpcOpen := by
    show Syscall.ofNumber (state.generalRegisters.get 0) ≠ _
    rcases hnumber with h | h <;> rw [h] <;> decide
  have hcall : Syscall.ofNumber (x64SyscallContext state).syscallNumber ≠ some .rpcCall := by
    show Syscall.ofNumber (state.generalRegisters.get 0) ≠ _
    rcases hnumber with h | h <;> rw [h] <;> decide
  unfold dispatchX64Syscall
  cases hcurrent : runtime.currentThread with
  | none => rfl
  | some active =>
    have hdispatch : ((runtime.modifyThread active
        (storeX64EmulatorPreservedState state)).dispatchSyscall .arm64
          (x64SyscallContext state)).2.memory = runtime.memory := by
      simp only [dispatchSyscall, modifyThread_currentThread, hcurrent]
      have hmemory := outcome_memory (dispatchActive_outcome .arm64
        ((runtime.modifyThread active (storeX64EmulatorPreservedState state)).enterSyscall active
          (x64SyscallContext state)) active (x64SyscallContext state)) hopen hcall
      exact hmemory
    dsimp only
    generalize (runtime.modifyThread active
      (storeX64EmulatorPreservedState state)).dispatchSyscall .arm64 (x64SyscallContext state) =
        result at hdispatch ⊢
    split
    · exact hdispatch
    split
    · exact hdispatch
    · exact hdispatch

end Trap

section Calls

/-- A call in the emulator comes back with its four instructions and keeps the nonvolatile
registers. -/
def EmulatedCallKeeps (machine : Machine σ) (options : Options) (returnAddress : UInt64)
    (handleSyscall : EmulatorState → ByteMemory → σ → SyscallResult × ByteMemory × σ) : Prop :=
  ∃ last, retire ⟨some handleSyscall⟩ 4 (ExecutionContext.start machine) = some last ∧
    runX64Emulator machine ⟨some handleSyscall⟩ options =
      interpretLoop ⟨some handleSyscall⟩ options.instructionBudget
        (options.instructionBudget.toNat - 4) last ∧
    last.machine.state.instructionPointer = returnAddress ∧ KeepsNonvolatile machine last.machine

/-- An import is the call that logs a string or the one that exits. -/
theorem resolvedExport_number {dllName symbolName : List UInt8} {dllExport : X64Win32DllExport}
    (h : resolvedExport dllName symbolName = some dllExport) :
    dllExport.syscallNumber = 1 ∨ dllExport.syscallNumber = 2 := by
  have hmem := List.mem_of_find?_eq_some h
  simp only [x64Win32DllExports, List.mem_cons, List.not_mem_nil, or_false] at hmem
  rcases hmem with rfl | rfl
  · exact .inl rfl
  · exact .inr rfl

/-- The nonvolatile registers at the trap of a stub, but for RDI. -/
theorem importTrapped_register (machine : Machine σ) (number : UInt32) {index : UInt32}
    (hindex : index ∈ rsp :: nonvolatileRegisters) (hrdi : index ≠ rdi) :
    (machine.importTrapped number).register index = machine.register index := by
  have hrax : index ≠ rax := by
    rintro rfl
    exact absurd hindex (by decide)
  show ((machine.setRegister rdi _).setRegister rax _).register index = _
  rw [Machine.register_setRegister_ne _ hrax, Machine.register_setRegister_ne _ hrdi]

/-- The registers behind the return of a stub through the trap handler. -/
theorem stubReturned_register (trapped : Machine σ) (status : Int32) (returnAddress : UInt64)
    {index : UInt32} (hindex : index ∈ nonvolatileRegisters) :
    (stubReturned trapped ((x64SyscallEntry trapped.state).returning status)
      returnAddress).register index = trapped.register index := by
  have hrsp : index ≠ rsp := by
    rintro rfl
    exact absurd hindex (by decide)
  refine (Machine.register_setRegister_ne _ hrsp _).trans ?_
  exact register_of_returning trapped status (List.mem_cons_of_mem _ hindex)

/-- RDI behind the return is what the frame has brought back. -/
theorem stubReturned_rdi (trapped : Machine σ) (frame : X64SyscallFrame) (returnAddress : UInt64) :
    (stubReturned trapped frame returnAddress).register rdi = frame.rdi := by
  refine (Machine.register_setRegister_ne _ (show rdi ≠ rsp by decide) _).trans ?_
  rfl

/-- A call that comes back through the trap handler of the x64 kernel. -/
theorem stubReturned_keeps_iff (machine : Machine σ) (number : UInt32) (status : Int32)
    (returnAddress : UInt64) :
    KeepsNonvolatile machine (stubReturned (machine.importTrapped number)
      ((x64SyscallEntry (machine.importTrapped number).state).returning status) returnAddress) ↔
      machine.register rdi = machine.register rcx := by
  refine keepsNonvolatile_iff ?_ (fun index hindex hrdi => ?_) ?_ fun index _ => ?_
  · rw [stubReturned_register _ _ _ (by decide)]
    exact importTrapped_rdi machine number
  · rw [stubReturned_register _ _ _ hindex]
    exact importTrapped_register machine number (List.mem_cons_of_mem _ hindex) hrdi
  · have hresumed := register_of_returning (machine.importTrapped number) status
      (List.mem_cons_self (a := rsp))
    refine (Machine.register_setRegister _ (by decide) _).trans ?_
    rw [hresumed, importTrapped_register machine number List.mem_cons_self (by decide)]
  · exact congrArg (fun registers => Vector.get registers index)
      (restoredSimdRegisters_preserved (machine.importTrapped number).state)

/-- A call of a bound import that comes back keeps the nonvolatile registers exactly when RDI is the
first argument already: in the emulator with any callback, and through the trap handler of the x64
kernel. -/
theorem boundImport_keepsNonvolatile_iff {imageBytes : List UInt8}
    {imageBase loadedImageSize : UInt64} {buffer : Nat → UInt8} {result : X64LoadResult}
    (hresult : result = loadX64Pe64Image imageBytes imageBase buffer loadedImageSize
      (some resolveX64Win32Import)) (hok : result.status = .ok)
    {later earlier : List BoundImport} {imported : BoundImport}
    (hbound : result.imports.bound = later ++ imported :: earlier)
    (hapart : ∀ other ∈ later, imported.Apart other)
    (hwraps : imported.address.toNat + x64Win32ImportStubSize ≤ 2 ^ 64)
    (hbase : imageBase ≤ imported.address)
    {machine : Machine σ} (hbytes : machine.memory.bytes ≠ 0)
    (hmachine : machine.AtImport imageBase loadedImageSize result.imports.loadedImage imported)
    {options : Options} (hengine : options.engine = .interpreter)
    (hbudget : 4 ≤ options.instructionBudget.toNat) (returnAddress : UInt64) :
    ∃ dllExport, resolvedExport imported.dllName imported.functionName = some dllExport ∧
      let number := dllExport.syscallNumber.toUInt32
      (∀ handleSyscall answer host world,
        handleSyscall ((ExecutionContext.start machine).machine.importTrapped number).state
          machine.host machine.world = (answer, host, world) →
        answer.action = .continueRun → machine.LeavesReturn host returnAddress →
          (EmulatedCallKeeps machine options returnAddress handleSyscall ↔
            machine.register rdi = machine.register rcx)) ∧
      (∀ runtime : UserRuntime,
        (dispatchX64Syscall ((ExecutionContext.start machine).machine.importTrapped number).state
          (withMemory runtime machine.host)).2.memory = machine.host) ∧
      ∀ (runtime : UserRuntime) (active : ThreadRef) (loaded : X64SyscallFrame)
        (after : UserRuntime),
        (runtimeSystem .x64).Reachable TransitionSystem.anyStep runtime →
        runtime.hasRunnableThread = true → runtime.currentThread = some active →
        x64HandleSyscall (x64SyscallEntry (machine.importTrapped number).state) runtime =
          .ok (some loaded, after) → after.currentThread = some active →
          after.memory = runtime.memory ∧
          loaded.rcx = (machine.importTrapped number).state.instructionPointer ∧
          (KeepsNonvolatile machine
              (stubReturned (machine.importTrapped number) loaded returnAddress) ↔
            machine.register rdi = machine.register rcx) := by
  obtain ⟨dllExport, hresolved, hzero, hstub⟩ :=
    boundImport_holdsStub hresult hok hbound hapart hwraps hbase hmachine
  -- The number of the syscall is in RAX when the stub traps.
  have hrax (caller : Machine σ) :
      (caller.importTrapped dllExport.syscallNumber.toUInt32).register rax = 1 ∨
        (caller.importTrapped dllExport.syscallNumber.toUInt32).register rax = 2 := by
    rw [importTrapped_rax, hzero]
    exact resolvedExport_number hresolved
  refine ⟨dllExport, hresolved, fun handleSyscall answer host world hcall haction hleaves => ?_,
    fun runtime => ?_, fun runtime active loaded after hreach hrunnable hcurrent hhandled hback => ?_⟩
  · obtain ⟨last, hlast, hrun, hmachine⟩ :=
      run_returns hbytes hstub hengine hbudget hcall haction hleaves
    -- Where the registers are concerned, the callback might have left memory alone.
    have hcame : machine.CameBack (last.machine.withHost machine.host last.machine.world)
        answer.status returnAddress := by
      rw [hmachine]
      exact importReturned_cameBack answer.status returnAddress fun _ _ => rfl
    have hkeeps : KeepsNonvolatile machine last.machine ↔
        machine.register rdi = machine.register rcx := by
      refine keepsNonvolatile_iff hcame.argument (fun index hindex hrdi => ?_) hcame.stack
        fun index _ => congrArg (fun registers => Vector.get registers index) hcame.simd
      refine hcame.registers index ?_ ?_ hrdi
      · rintro rfl
        exact absurd hindex (by decide)
      · rintro rfl
        exact absurd hindex (by decide)
    rw [← hkeeps]
    constructor
    · rintro ⟨other, hother, _, _, hsame⟩
      obtain rfl : last = other := Option.some.inj (hlast.symm.trans hother)
      exact hsame
    · exact fun hsame => ⟨last, hlast, hrun, hcame.instructionPointer, hsame⟩
  · exact dispatchX64Syscall_memory (hrax (ExecutionContext.start machine).machine)
      (withMemory runtime machine.host)
  · obtain ⟨hmemory, status, rfl⟩ :=
      x64HandleSyscall_import hreach hrunnable hcurrent (hrax machine) hhandled hback
    exact ⟨hmemory, rfl, stubReturned_keeps_iff machine _ status returnAddress⟩

/-- A file with its import tables in the headers: one descriptor whose table has one function. -/
def loggingImage : List UInt8 :=
  takeBytes (putBytes (putBytes (fun
    -- the DOS header
    | 0 => 0x4D | 1 => 0x5A | 60 => 0x40
    -- signature, machine, one section, size of the optional header
    | 64 => 0x50 | 65 => 0x45 | 68 => 0x64 | 69 => 0x86 | 70 => 1 | 84 => 0xF0
    -- magic, image base, alignments, size of the image, size of the headers
    | 88 => 0x0B | 89 => 0x02 | 114 => 0x40 | 121 => 0x10 | 125 => 0x10 | 145 => 0x10 | 149 => 0x02
    -- the number of directories and the import directory
    | 196 => 16 | 208 => 0x70 | 209 => 0x01 | 212 => 40
    -- virtual size and virtual address of the section
    | 336 => 1 | 341 => 0x04
    -- the descriptor: lookup table, name, address table
    | 368 => 0xB0 | 369 => 0x01 | 380 => 0xF4 | 381 => 0x01 | 384 => 0xC0 | 385 => 0x01
    -- the lookup table
    | 432 => 0xD8 | 433 => 0x01
    | _ => 0) 474 (nameBytes "OutputDebugStringA")) 500 (nameBytes "kernel32")) 0 512

/-- The image loaded into a region of two pages. -/
def loggingResult : X64LoadResult :=
  loadX64Pe64Image loggingImage 0x400000 (fun _ => 0) 0x2000 (some resolveX64Win32Import)

/-- Its import. -/
def loggingImport : BoundImport :=
  ⟨nameBytes "kernel32", nameBytes "OutputDebugStringA", 0x1C0, 0x401000⟩

/-- A guest that calls the import with the address of its headers and a value in RDI. -/
def loggingMachine (value : UInt64) : Machine Unit where
  memory := ⟨0x400000, 0x100000, 0x2000⟩
  state :=
    { generalRegisters := (((Vector.replicate 16 0).setIfInBounds 1 0x400000).setIfInBounds
        4 0x400000).setIfInBounds 7 value
      simdRegisters := Vector.replicate 16 (Vector.replicate 16 0)
      instructionPointer := ofLittleEndian (takeBytes loggingResult.imports.loadedImage 0x1C0 8)
      flags := 0x202 }
  host address := loggingResult.imports.loadedImage (address - 0x100000).toNat
  world := ()

/-- A callback that has logged the string. -/
def logged (_ : EmulatorState) (host : ByteMemory) (world : Unit) :
    SyscallResult × ByteMemory × Unit :=
  (⟨0, .continueRun⟩, host, world)

theorem loggingMachine_atImport (value : UInt64) :
    (loggingMachine value).AtImport 0x400000 0x2000 loggingResult.imports.loadedImage
      loggingImport := by
  have hbytes : (0x100000 : UInt64) ≠ 0 := by decide
  have hentry : loggingImport.addressEntryRva.toNat = 0x1C0 := by
    show (0x1C0 : UInt32).toNat = 0x1C0
    decide
  refine ⟨⟨_, ⟨rfl, rfl, hbytes, fun offset hlt => ?_⟩, fun _ _ _ => rfl⟩, by rw [hentry]; rfl⟩
  have hlt' : offset < 0x2000 := hlt
  have hoffset : (0x100000 + offset.toUInt64 - 0x100000 : UInt64).toNat = offset := by
    rw [UInt64.add_comm, UInt64.add_sub_cancel, Nat.toUInt64, UInt64.toNat_ofNat_of_lt']
    show offset < 2 ^ 64
    omega
  simp only [loggingMachine, hoffset]

theorem loggingMachine_return (value : UInt64) :
    (loggingMachine value).quadAt ((loggingMachine value).register rsp) = some 0x5A4D := by
  have hrsp : (loggingMachine value).register rsp = 0x400000 := rfl
  rw [hrsp]
  change (loggingMachine 0).quadAt 0x400000 = _
  decide +kernel

theorem loggingResult_bound :
    loggingResult.status = .ok ∧ loggingResult.imports.bound = [] ++ loggingImport :: [] := by
  decide +kernel

/-- A guest with the same address in RDI as in RCX gets its registers back. -/
theorem loggingCall_keepsNonvolatile :
    EmulatedCallKeeps (loggingMachine 0x400000) ⟨.interpreter, 4⟩ 0x5A4D logged := by
  have hapart : ∀ other ∈ ([] : List BoundImport), loggingImport.Apart other :=
    fun other hother => absurd hother List.not_mem_nil
  have hresult : loggingResult = loadX64Pe64Image loggingImage 0x400000 (fun _ => 0) 0x2000
      (some resolveX64Win32Import) := rfl
  obtain ⟨_, _, hemulated, _⟩ := boundImport_keepsNonvolatile_iff hresult loggingResult_bound.1
    loggingResult_bound.2 hapart (by decide) (by decide) (by decide)
    (loggingMachine_atImport 0x400000)
    (show (⟨.interpreter, 4⟩ : Options).engine = .interpreter from rfl) (by decide) 0x5A4D
  have hleaves : (loggingMachine 0x400000).LeavesReturn (loggingMachine 0x400000).host 0x5A4D := by
    refine ⟨by decide +kernel, ?_⟩
    rw [Machine.withHost_self]
    exact loggingMachine_return 0x400000
  exact (hemulated logged ⟨0, .continueRun⟩ _ () rfl rfl hleaves).mpr rfl

/-- A guest with another value in RDI loses it, in the emulator and on x64. -/
theorem loggingCall_losesRdi :
    (loggingResult.status = .ok ∧ loggingImport ∈ loggingResult.imports.bound) ∧
    (loggingMachine 9).AtImport 0x400000 0x2000 loggingResult.imports.loadedImage loggingImport ∧
    (loggingMachine 9).quadAt ((loggingMachine 9).register rsp) = some 0x5A4D ∧
    ¬ EmulatedCallKeeps (loggingMachine 9) ⟨.interpreter, 4⟩ 0x5A4D logged ∧
    ∃ loaded after, x64HandleSyscall (x64SyscallEntry ((loggingMachine 9).importTrapped 1).state)
        (bootStarted 1) = .ok (some loaded, after) ∧
      after.currentThread = some 0 ∧
      ¬ KeepsNonvolatile (loggingMachine 9)
        (stubReturned ((loggingMachine 9).importTrapped 1) loaded 0x5A4D) := by
  have hrdi : rdi ∈ nonvolatileRegisters := by decide
  refine ⟨⟨loggingResult_bound.1, by rw [loggingResult_bound.2]; exact List.mem_singleton_self _⟩,
    loggingMachine_atImport 9, loggingMachine_return 9, ?_, ?_⟩
  · rintro ⟨last, hlast, _, _, hkeeps⟩
    have hrun : (retire ⟨some logged⟩ 4 (ExecutionContext.start (loggingMachine 9))).any
        (fun last => last.machine.register rdi = 0x400000) = true := by decide +kernel
    rw [hlast] at hrun
    have hlost : last.machine.register rdi = 0x400000 := of_decide_eq_true hrun
    exact absurd (hlost.symm.trans (hkeeps.registers rdi hrdi)) (by decide)
  · have hruns : (x64HandleSyscall (x64SyscallEntry ((loggingMachine 9).importTrapped 1).state)
        (bootStarted 1)).toOption.any (fun result => result.1.any (fun loaded =>
          loaded.rdi = 0x400000) && result.2.currentThread = some 0) = true := by decide +kernel
    obtain ⟨result, hresult, hback⟩ := (Option.any_eq_true _ _).mp hruns
    simp only [Bool.and_eq_true, decide_eq_true_eq] at hback
    obtain ⟨loaded, hloaded, hlost⟩ := (Option.any_eq_true _ _).mp hback.1
    obtain ⟨first, after⟩ := result
    obtain rfl : first = some loaded := hloaded
    refine ⟨loaded, after, ?_, hback.2, fun hkeeps => ?_⟩
    · cases hok : x64HandleSyscall (x64SyscallEntry ((loggingMachine 9).importTrapped 1).state)
          (bootStarted 1) with
      | error message =>
        rw [hok] at hresult
        cases hresult
      | ok value =>
        rw [hok] at hresult
        exact congrArg Except.ok (Option.some.inj hresult)
    · have hreturned := stubReturned_rdi ((loggingMachine 9).importTrapped 1) loaded 0x5A4D
      rw [of_decide_eq_true hlost] at hreturned
      exact absurd (hreturned.symm.trans (hkeeps.registers rdi hrdi)) (by decide)

end Calls

end Ringos.Arch
