import Ringos.Core.Transfers
import Ringos.Arch.CalleeSaved

/-!
# The trap code of arm64

`arm64_enter_user_thread` saves the registers of its caller on the kernel stack
and goes to user code, which comes back through the exception vector: with a
frame as on x64, or, once the handler has answered false, with a return to that
caller. Whatever user code has done in between, and however many traps there
were, the caller finds its stack and its registers as they were.
-/

namespace Ringos.Arch

open Ringos.Core Ringos.Kernel

/-- The registers that the trap code moves; `sp` is the stack pointer of the kernel. -/
inductive Arm64Register where
  | x0 | x1 | x2 | x3 | x4 | x5 | x6 | x7 | x8 | x9 | x10 | x11 | x12 | x13 | x14 | x15
  | x16 | x17 | x18 | x19 | x20 | x21 | x22 | x23 | x24 | x25 | x26 | x27 | x28 | x29 | x30
  | sp | spEl0 | pc | pstate | elr | spsr | esr
  deriving DecidableEq

/-- Code of arm64, as the transfers that its instructions make. -/
abbrev Arm64Code := List (Transfer Arm64Register)

namespace Arm64Code

/-- `sub sp, sp, #amount`. -/
def subSp (amount : UInt64) : Arm64Code := [.compute .sp .sp (· - amount)]
/-- `add sp, sp, #amount`. -/
def addSp (amount : UInt64) : Arm64Code := [.compute .sp .sp (· + amount)]
/-- `mov target, source`, also `mrs` and `msr`. -/
def mov (target source : Arm64Register) : Arm64Code := [.compute target source id]
/-- `stp first, second, [sp, #offset]`. -/
def stp (first second : Arm64Register) (offset : UInt64) : Arm64Code :=
  [.store .sp offset first, .store .sp (offset + 8) second]
/-- `str source, [sp, #offset]`. -/
def str (source : Arm64Register) (offset : UInt64) : Arm64Code := [.store .sp offset source]
/-- `ldp first, second, [base, #offset]`. -/
def ldp (first second base : Arm64Register) (offset : UInt64) : Arm64Code :=
  [.load first base offset, .load second base (offset + 8)]
/-- `ldr target, [base, #offset]`. -/
def ldr (target base : Arm64Register) (offset : UInt64) : Arm64Code := [.load target base offset]
/-- `eret`. -/
def eret : Arm64Code := [.compute .pc .elr id, .compute .pstate .spsr id]
/-- `ret`. -/
def ret : Arm64Code := [.compute .pc .x30 id]
/-- An exception that user code takes. -/
def exception (vector syndrome : UInt64) : Arm64Code :=
  [.compute .elr .pc id, .compute .spsr .pstate id, .compute .esr .esr fun _ => syndrome,
    .compute .pstate .pstate fun _ => 0x3C5, .compute .pc .pc fun _ => vector]

end Arm64Code

open Arm64Code

/-- `arm64_enter_user_thread`. -/
def arm64EnterUserThreadCode : Arm64Code :=
  subSp 96 ++
  stp .x19 .x20 0 ++
  stp .x21 .x22 16 ++
  stp .x23 .x24 32 ++
  stp .x25 .x26 48 ++
  stp .x27 .x28 64 ++
  stp .x29 .x30 80 ++
  mov .x29 .sp ++
  mov .x9 .x0 ++
  ldr .x10 .x9 88 ++
  mov .spEl0 .x10 ++
  ldr .x10 .x9 72 ++
  mov .elr .x10 ++
  ldr .x10 .x9 80 ++
  mov .spsr .x10 ++
  ldp .x19 .x20 .x9 104 ++
  ldp .x21 .x22 .x9 120 ++
  ldp .x23 .x24 .x9 136 ++
  ldp .x25 .x26 .x9 152 ++
  ldp .x27 .x28 .x9 168 ++
  ldp .x29 .x30 .x9 184 ++
  ldp .x0 .x1 .x9 0 ++
  ldp .x2 .x3 .x9 16 ++
  ldp .x4 .x5 .x9 32 ++
  ldp .x6 .x7 .x9 48 ++
  ldr .x8 .x9 64 ++
  eret

/-- `arm64_lower_el_aarch64_sync` up to the call of the handler. -/
def arm64SyncEntryCode : Arm64Code :=
  subSp 208 ++
  stp .x0 .x1 0 ++
  stp .x2 .x3 16 ++
  stp .x4 .x5 32 ++
  stp .x6 .x7 48 ++
  str .x8 64 ++
  mov .x9 .elr ++
  str .x9 72 ++
  mov .x10 .spsr ++
  str .x10 80 ++
  mov .x11 .spEl0 ++
  str .x11 88 ++
  mov .x12 .esr ++
  str .x12 96 ++
  stp .x19 .x20 104 ++
  stp .x21 .x22 120 ++
  stp .x23 .x24 136 ++
  stp .x25 .x26 152 ++
  stp .x27 .x28 168 ++
  stp .x29 .x30 184 ++
  mov .x0 .sp

/-- The code behind the call of a handler that has answered true. -/
def arm64SyncReturnCode : Arm64Code :=
  ldr .x11 .sp 88 ++
  mov .spEl0 .x11 ++
  ldr .x9 .sp 72 ++
  mov .elr .x9 ++
  ldr .x10 .sp 80 ++
  mov .spsr .x10 ++
  ldp .x0 .x1 .sp 0 ++
  ldp .x2 .x3 .sp 16 ++
  ldp .x4 .x5 .sp 32 ++
  ldp .x6 .x7 .sp 48 ++
  ldr .x8 .sp 64 ++
  ldp .x19 .x20 .sp 104 ++
  ldp .x21 .x22 .sp 120 ++
  ldp .x23 .x24 .sp 136 ++
  ldp .x25 .x26 .sp 152 ++
  ldp .x27 .x28 .sp 168 ++
  ldp .x29 .x30 .sp 184 ++
  addSp 208 ++
  eret

/-- The code at `.Lthread_exit`, behind a handler that has answered false. -/
def arm64ThreadExitCode : Arm64Code :=
  addSp 208 ++
  ldp .x19 .x20 .sp 0 ++
  ldp .x21 .x22 .sp 16 ++
  ldp .x23 .x24 .sp 32 ++
  ldp .x25 .x26 .sp 48 ++
  ldp .x27 .x28 .sp 64 ++
  ldp .x29 .x30 .sp 80 ++
  addSp 96 ++
  ret

section Frames

/-- The registers of a frame by the words of memory that they lie in. -/
def arm64FrameAt (memory : ByteMemory) (address : UInt64) : Arm64SyscallFrame where
  x0 := wordAt memory (address + 0)
  x1 := wordAt memory (address + 8)
  x2 := wordAt memory (address + 16)
  x3 := wordAt memory (address + 24)
  x4 := wordAt memory (address + 32)
  x5 := wordAt memory (address + 40)
  x6 := wordAt memory (address + 48)
  x7 := wordAt memory (address + 56)
  x8 := wordAt memory (address + 64)
  elr := wordAt memory (address + 72)
  spsr := wordAt memory (address + 80)
  spEl0 := wordAt memory (address + 88)
  esr := wordAt memory (address + 96)
  x19 := wordAt memory (address + 104)
  x20 := wordAt memory (address + 112)
  x21 := wordAt memory (address + 120)
  x22 := wordAt memory (address + 128)
  x23 := wordAt memory (address + 136)
  x24 := wordAt memory (address + 144)
  x25 := wordAt memory (address + 152)
  x26 := wordAt memory (address + 160)
  x27 := wordAt memory (address + 168)
  x28 := wordAt memory (address + 176)
  x29 := wordAt memory (address + 184)
  x30 := wordAt memory (address + 192)

/-- The frame of user code, with the syndrome of an exception that it takes. -/
def arm64UserFrame (registers : Arm64Register → UInt64) (syndrome : UInt64) :
    Arm64SyscallFrame where
  x0 := registers .x0
  x1 := registers .x1
  x2 := registers .x2
  x3 := registers .x3
  x4 := registers .x4
  x5 := registers .x5
  x6 := registers .x6
  x7 := registers .x7
  x8 := registers .x8
  elr := registers .pc
  spsr := registers .pstate
  spEl0 := registers .spEl0
  esr := syndrome
  x19 := registers .x19
  x20 := registers .x20
  x21 := registers .x21
  x22 := registers .x22
  x23 := registers .x23
  x24 := registers .x24
  x25 := registers .x25
  x26 := registers .x26
  x27 := registers .x27
  x28 := registers .x28
  x29 := registers .x29
  x30 := registers .x30

/-- `sizeof(arm64_syscall_frame)` as the code reserves it. -/
def arm64FrameSize : UInt64 := 208

/-- The registers that a function keeps for its caller, with its return address. -/
def arm64CalleeSaved : List Arm64Register :=
  [.x19, .x20, .x21, .x22, .x23, .x24, .x25, .x26, .x27, .x28, .x29, .x30]

end Frames

section Entry

/-- The words of a frame in memory order. -/
def arm64FrameWords (frame : Arm64SyscallFrame) : List UInt64 :=
  [frame.x0, frame.x1, frame.x2, frame.x3, frame.x4, frame.x5, frame.x6, frame.x7, frame.x8,
    frame.elr, frame.spsr, frame.spEl0, frame.esr, frame.x19, frame.x20, frame.x21, frame.x22,
    frame.x23, frame.x24, frame.x25, frame.x26, frame.x27, frame.x28, frame.x29, frame.x30]

/-- The frame is what its words make up. -/
theorem arm64FrameAt_of_wordsAt {memory : ByteMemory} {address : UInt64}
    {frame : Arm64SyscallFrame} (h : WordsAt memory address (arm64FrameWords frame)) :
    arm64FrameAt memory address = frame := by
  unfold arm64FrameAt
  congr 1
  · exact h.wordAt 0 rfl rfl
  · exact h.wordAt 1 rfl rfl
  · exact h.wordAt 2 rfl rfl
  · exact h.wordAt 3 rfl rfl
  · exact h.wordAt 4 rfl rfl
  · exact h.wordAt 5 rfl rfl
  · exact h.wordAt 6 rfl rfl
  · exact h.wordAt 7 rfl rfl
  · exact h.wordAt 8 rfl rfl
  · exact h.wordAt 9 rfl rfl
  · exact h.wordAt 10 rfl rfl
  · exact h.wordAt 11 rfl rfl
  · exact h.wordAt 12 rfl rfl
  · exact h.wordAt 13 rfl rfl
  · exact h.wordAt 14 rfl rfl
  · exact h.wordAt 15 rfl rfl
  · exact h.wordAt 16 rfl rfl
  · exact h.wordAt 17 rfl rfl
  · exact h.wordAt 18 rfl rfl
  · exact h.wordAt 19 rfl rfl
  · exact h.wordAt 20 rfl rfl
  · exact h.wordAt 21 rfl rfl
  · exact h.wordAt 22 rfl rfl
  · exact h.wordAt 23 rfl rfl
  · exact h.wordAt 24 rfl rfl

/-- The saves lay the registers out as the frame of the handler. -/
theorem arm64Saves_run (start : Cpu Arm64Register) :
    Saving start [.x9, .x10, .x11, .x12] .sp
      (([Arm64Register.x0, .x1, .x2, .x3, .x4, .x5, .x6, .x7, .x8, .elr, .spsr, .spEl0, .esr] ++
        arm64CalleeSaved).map start.registers) (start.registers .sp)
      (start.run (saves .sp 0 [.x0, .x1, .x2, .x3, .x4, .x5, .x6, .x7, .x8] ++
        (mov .x9 .elr ++ (saves .sp 72 [.x9] ++ (mov .x10 .spsr ++ (saves .sp 80 [.x10] ++
          (mov .x11 .spEl0 ++ (saves .sp 88 [.x11] ++ (mov .x12 .esr ++ (saves .sp 96 [.x12] ++
            saves .sp 104 arm64CalleeSaved)))))))))) := by
  simp only [Cpu.run_append]
  have hcall := (saving_nil start [.x9, .x10, .x11, .x12] .sp).saves
    [.x0, .x1, .x2, .x3, .x4, .x5, .x6, .x7, .x8]
    (show (0 : UInt64) = UInt64.ofNat (8 * 0) from rfl) (by decide)
  have helr := hcall.saveThrough .x9 .elr (by decide) (by decide) (by decide)
    (show (72 : UInt64) = UInt64.ofNat (8 * 9) from rfl) (by simp)
  have hspsr := helr.saveThrough .x10 .spsr (by decide) (by decide) (by decide)
    (show (80 : UInt64) = UInt64.ofNat (8 * 10) from rfl) (by simp)
  have hspEl0 := hspsr.saveThrough .x11 .spEl0 (by decide) (by decide) (by decide)
    (show (88 : UInt64) = UInt64.ofNat (8 * 11) from rfl) (by simp)
  have hesr := hspEl0.saveThrough .x12 .esr (by decide) (by decide) (by decide)
    (show (96 : UInt64) = UInt64.ofNat (8 * 12) from rfl) (by simp)
  have hlast := hesr.saves arm64CalleeSaved
    (show (104 : UInt64) = UInt64.ofNat (8 * 13) from rfl) (by simp [arm64CalleeSaved])
  rw [List.map_congr_left fun register hregister => hesr.registers register (by
    revert register
    decide)] at hlast
  exact hlast

/-- The frame of the registers that an exception has left. -/
def arm64TrapFrame (registers : Arm64Register → UInt64) : Arm64SyscallFrame :=
  { arm64UserFrame registers (registers .esr) with
    elr := registers .elr
    spsr := registers .spsr }

/-- The handler is called with the frame of an exception, which lies below the stack of it. -/
structure Arm64HandlerCalled (cpu entered : Cpu Arm64Register) : Prop where
  frame : arm64FrameAt entered.memory (entered.registers .x0) = arm64TrapFrame cpu.registers
  argument : entered.registers .x0 = cpu.registers .sp - arm64FrameSize
  stack : entered.registers .sp = cpu.registers .sp - arm64FrameSize
  memory : ∀ target, ¬ InRange (cpu.registers .sp - arm64FrameSize) 200 target →
    entered.memory target = cpu.memory target

theorem arm64SyncEntry_run (cpu : Cpu Arm64Register) :
    Arm64HandlerCalled cpu (cpu.run arm64SyncEntryCode) := by
  have hcode : arm64SyncEntryCode = subSp 208 ++
      ((saves .sp 0 [.x0, .x1, .x2, .x3, .x4, .x5, .x6, .x7, .x8] ++
        (mov .x9 .elr ++ (saves .sp 72 [.x9] ++ (mov .x10 .spsr ++ (saves .sp 80 [.x10] ++
          (mov .x11 .spEl0 ++ (saves .sp 88 [.x11] ++ (mov .x12 .esr ++ (saves .sp 96 [.x12] ++
            saves .sp 104 arm64CalleeSaved))))))))) ++ mov .x0 .sp) := rfl
  have hsub : cpu.run (subSp 208) = cpu.set .sp (cpu.registers .sp - arm64FrameSize) := rfl
  rw [hcode, Cpu.run_append, Cpu.run_append, hsub]
  generalize hreserved : cpu.set Arm64Register.sp (cpu.registers .sp - arm64FrameSize) = reserved
  have hpointer : reserved.registers .sp = cpu.registers .sp - arm64FrameSize := by
    rw [← hreserved, Cpu.set_registers, Function.update_self]
  have hframe : arm64TrapFrame reserved.registers = arm64TrapFrame cpu.registers := by
    rw [← hreserved]
    rfl
  have hmemory : reserved.memory = cpu.memory := by
    rw [← hreserved]
    rfl
  have hsaving := arm64Saves_run reserved
  rw [hpointer] at hsaving
  generalize reserved.run _ = saved at hsaving ⊢
  have hmoved : saved.run (mov .x0 .sp) = saved.set .x0 (saved.registers .sp) := rfl
  have hargument : (saved.set .x0 (saved.registers .sp)).registers .x0 =
      cpu.registers .sp - arm64FrameSize := by
    rw [Cpu.set_registers, Function.update_self, hsaving.pointer]
  rw [hmoved]
  refine ⟨?_, hargument, ?_, fun target hout => ?_⟩
  · rw [hargument, ← hframe]
    exact @arm64FrameAt_of_wordsAt _ _ (arm64TrapFrame reserved.registers) hsaving.stored.held
  · rw [Cpu.set_registers, Function.update_of_ne (by decide), hsaving.pointer]
  · rw [Cpu.set_memory, hsaving.stored.outside target hout, hmemory]

end Entry

section Return

/-- The general registers of a frame, by their offsets. -/
def arm64FrameEntries : List (Arm64Register × UInt64) :=
  [(.x0, 0), (.x1, 8), (.x2, 16), (.x3, 24), (.x4, 32), (.x5, 40), (.x6, 48), (.x7, 56), (.x8, 64),
    (.x19, 104), (.x20, 112), (.x21, 120), (.x22, 128), (.x23, 136), (.x24, 144), (.x25, 152),
    (.x26, 160), (.x27, 168), (.x28, 176), (.x29, 184), (.x30, 192)]

/-- User code has the registers of the frame at an address. -/
structure Arm64Loaded (registers : Arm64Register → UInt64) (memory : ByteMemory)
    (address : UInt64) : Prop where
  general : ∀ entry ∈ arm64FrameEntries, registers entry.1 = wordAt memory (address + entry.2)
  elr : registers .pc = wordAt memory (address + 72)
  spsr : registers .pstate = wordAt memory (address + 80)
  spEl0 : registers .spEl0 = wordAt memory (address + 88)

theorem Arm64Loaded.userFrame {registers : Arm64Register → UInt64} {memory : ByteMemory}
    {address : UInt64} (h : Arm64Loaded registers memory address) :
    arm64UserFrame registers (arm64FrameAt memory address).esr = arm64FrameAt memory address := by
  have hword {register : Arm64Register} {offset : UInt64}
      (hentry : (register, offset) ∈ arm64FrameEntries) :
      registers register = wordAt memory (address + offset) := h.general _ hentry
  simp only [arm64UserFrame, arm64FrameAt, h.elr, h.spsr, h.spEl0,
    @hword .x0 0 (by decide), @hword .x1 8 (by decide), @hword .x2 16 (by decide),
    @hword .x3 24 (by decide), @hword .x4 32 (by decide), @hword .x5 40 (by decide),
    @hword .x6 48 (by decide), @hword .x7 56 (by decide), @hword .x8 64 (by decide),
    @hword .x19 104 (by decide), @hword .x20 112 (by decide), @hword .x21 120 (by decide),
    @hword .x22 128 (by decide), @hword .x23 136 (by decide), @hword .x24 144 (by decide),
    @hword .x25 152 (by decide), @hword .x26 160 (by decide), @hword .x27 168 (by decide),
    @hword .x28 176 (by decide), @hword .x29 184 (by decide), @hword .x30 192 (by decide)]

/-- The loads of the special registers of a frame, each by way of a scratch register. -/
def arm64SpecialLoads (base first second third : Arm64Register) : Arm64Code :=
  ldr first base 88 ++ mov .spEl0 first ++ ldr second base 72 ++ mov .elr second ++
    ldr third base 80 ++ mov .spsr third

/-- The registers of the frame at `base` have been loaded, by way of scratch registers. -/
structure Arm64FrameLoaded (cpu : Cpu Arm64Register) (base : Arm64Register)
    (scratch : List Arm64Register) (loaded : Cpu Arm64Register) : Prop where
  general : ∀ entry ∈ arm64FrameEntries,
    loaded.registers entry.1 = wordAt cpu.memory (cpu.registers base + entry.2)
  elr : loaded.registers .elr = wordAt cpu.memory (cpu.registers base + 72)
  spsr : loaded.registers .spsr = wordAt cpu.memory (cpu.registers base + 80)
  spEl0 : loaded.registers .spEl0 = wordAt cpu.memory (cpu.registers base + 88)
  others : ∀ register ∉ arm64FrameEntries.map Prod.fst,
    register ∉ scratch ++ [.spEl0, .elr, .spsr] →
      loaded.registers register = cpu.registers register
  memory : loaded.memory = cpu.memory

theorem arm64FrameLoads_run (cpu : Cpu Arm64Register)
    {base first second third : Arm64Register} {entries : List (Arm64Register × UInt64)}
    (hentries : entries.Perm arm64FrameEntries)
    (hbase : base ∉ [first, second, third, .spEl0, .elr, .spsr])
    (hscratch : ∀ register ∈ [first, second, third], register ∉ [.spEl0, .elr, .spsr])
    (hloads : base ∉ arm64FrameEntries.map Prod.fst) :
    Arm64FrameLoaded cpu base [first, second, third]
      ((cpu.run (arm64SpecialLoads base first second third)).run (loads base entries)) := by
  have hspecial : cpu.run (arm64SpecialLoads base first second third) =
      { registers := Function.update (Function.update (Function.update (Function.update
          (Function.update (Function.update cpu.registers
            first (wordAt cpu.memory (cpu.registers base + 88)))
            .spEl0 (wordAt cpu.memory (cpu.registers base + 88)))
            second (wordAt cpu.memory (cpu.registers base + 72)))
            .elr (wordAt cpu.memory (cpu.registers base + 72)))
            third (wordAt cpu.memory (cpu.registers base + 80)))
            .spsr (wordAt cpu.memory (cpu.registers base + 80))
        memory := cpu.memory } := by
    simp only [List.mem_cons, List.not_mem_nil, or_false, not_or] at hbase
    simp [arm64SpecialLoads, ldr, mov, Cpu.run, Transfer.apply, Cpu.set, hbase]
  rw [hspecial]
  generalize hregisters : Function.update _ Arm64Register.spsr _ = registers
  have hkept {register : Arm64Register}
      (hregister : register ∉ [first, second, third] ++ [.spEl0, .elr, .spsr]) :
      registers register = cpu.registers register := by
    simp only [List.mem_append, List.mem_cons, List.not_mem_nil, or_false, not_or] at hregister
    simp [← hregisters, hregister]
  have hothers {register : Arm64Register}
      (hregister : register ∉ arm64FrameEntries.map Prod.fst) :
      (Cpu.run ⟨registers, cpu.memory⟩ (loads base entries)).registers register =
        registers register :=
    Cpu.run_register _ (loads_writes fun hmem =>
      hregister ((hentries.map Prod.fst).mem_iff.mp hmem))
  simp only [List.mem_cons, List.not_mem_nil, or_false, not_or, forall_eq_or_imp, forall_eq]
    at hscratch
  refine ⟨fun entry hentry => ?_, ?_, ?_, ?_, fun register hregister hother => ?_, ?_⟩
  · rw [run_loads ((hentries.map Prod.fst).nodup_iff.mpr (by decide))
      (fun hmem => hloads ((hentries.map Prod.fst).mem_iff.mp hmem))
      (hentries.mem_iff.mpr hentry)]
    exact congrArg (fun address => wordAt cpu.memory (address + entry.2)) (hkept hbase)
  · rw [hothers (by decide), ← hregisters]
    simp [hscratch, Ne.symm]
  · rw [hothers (by decide), ← hregisters]
    simp
  · rw [hothers (by decide), ← hregisters]
    simp [hscratch, Ne.symm]
  · rw [hothers hregister, hkept hother]
  · exact run_loads_memory _

/-- User code goes on with the frame at the stack pointer, which is given back. -/
theorem arm64SyncReturn_run (cpu : Cpu Arm64Register) :
    Arm64Loaded (cpu.run arm64SyncReturnCode).registers cpu.memory (cpu.registers .sp) ∧
      (cpu.run arm64SyncReturnCode).registers .sp = cpu.registers .sp + arm64FrameSize ∧
      (cpu.run arm64SyncReturnCode).memory = cpu.memory := by
  have hcode : arm64SyncReturnCode =
      (arm64SpecialLoads .sp .x11 .x9 .x10 ++ loads .sp arm64FrameEntries) ++
        (addSp 208 ++ eret) := rfl
  have hloaded := @arm64FrameLoads_run cpu .sp .x11 .x9 .x10 _ (.refl _) (by decide) (by decide)
    (by decide)
  rw [hcode, Cpu.run_append, Cpu.run_append _ (arm64SpecialLoads _ _ _ _)]
  generalize (cpu.run _).run (loads _ _) = loaded at hloaded ⊢
  have hpointer : loaded.registers .sp = cpu.registers .sp :=
    hloaded.others .sp (by decide) (by decide)
  have hrun : loaded.run (addSp 208 ++ eret) =
      { registers := Function.update (Function.update (Function.update loaded.registers
          .sp (cpu.registers .sp + arm64FrameSize)) .pc (loaded.registers .elr))
          .pstate (loaded.registers .spsr)
        memory := cpu.memory } := by
    simp [addSp, eret, Cpu.run, Transfer.apply, Cpu.set, hpointer, hloaded.memory, arm64FrameSize]
  rw [hrun]
  refine ⟨⟨fun entry hentry => ?_, ?_, ?_, ?_⟩, ?_, rfl⟩
  · rw [← hloaded.general entry hentry]
    have hapart : entry.1 ≠ .sp ∧ entry.1 ≠ .pc ∧ entry.1 ≠ .pstate := by
      revert entry
      decide
    simp [hapart]
  · simp [hloaded.elr]
  · simp [hloaded.spsr]
  · simp [hloaded.spEl0]
  · simp

/-- User code starts with the frame that is passed, with the registers of the caller on the kernel
stack. -/
theorem arm64EnterUserThread_run {cpu : Cpu Arm64Register}
    (hapart : ∀ target, InRange (cpu.registers .x0) 200 target →
      ¬ InRange (cpu.registers .sp - 96) 96 target) :
    Arm64Loaded (cpu.run arm64EnterUserThreadCode).registers cpu.memory (cpu.registers .x0) ∧
      (cpu.run arm64EnterUserThreadCode).registers .sp = cpu.registers .sp - 96 ∧
      Stored cpu.memory (cpu.run arm64EnterUserThreadCode).memory (cpu.registers .sp - 96)
        (arm64CalleeSaved.map cpu.registers) := by
  have hcode : arm64EnterUserThreadCode = subSp 96 ++ (saves .sp 0 arm64CalleeSaved ++
      (mov .x29 .sp ++ mov .x9 .x0 ++ (arm64SpecialLoads .x9 .x10 .x10 .x10 ++
        (loads .x9 (arm64FrameEntries.drop 9 ++ arm64FrameEntries.take 9) ++ eret)))) := rfl
  have hsub : cpu.run (subSp 96) = cpu.set .sp (cpu.registers .sp - 96) := rfl
  rw [hcode, Cpu.run_append, Cpu.run_append, Cpu.run_append, Cpu.run_append, Cpu.run_append, hsub]
  generalize hreserved : cpu.set Arm64Register.sp (cpu.registers .sp - 96) = reserved
  have hpointer : reserved.registers .sp = cpu.registers .sp - 96 := by
    rw [← hreserved, Cpu.set_registers, Function.update_self]
  have hmemory : reserved.memory = cpu.memory := by
    rw [← hreserved]
    rfl
  have hargument : reserved.registers .x0 = cpu.registers .x0 := by
    rw [← hreserved]
    rfl
  have hwords : arm64CalleeSaved.map reserved.registers = arm64CalleeSaved.map cpu.registers := by
    rw [← hreserved]
    rfl
  have hsaves := (saving_nil reserved [.x9, .x29] .sp).saves arm64CalleeSaved
    (show (0 : UInt64) = UInt64.ofNat (8 * 0) from rfl) (by decide)
  have hframe : ((reserved.run (saves .sp 0 arm64CalleeSaved)).run
      (mov .x29 .sp ++ mov .x9 .x0)).registers .x9 = cpu.registers .x0 := by
    rw [← hargument, ← hsaves.registers .x0 (by decide)]
    simp [mov, Cpu.run, Transfer.apply]
  have hsaved := hsaves.clobber (mov .x29 .sp ++ mov .x9 .x0) (by decide) (by decide)
  rw [List.nil_append, hwords, hpointer] at hsaved
  generalize (reserved.run _).run (mov .x29 .sp ++ mov .x9 .x0) = saved at hframe hsaved ⊢
  have hloaded := @arm64FrameLoads_run saved .x9 .x10 .x10 .x10
    (arm64FrameEntries.drop 9 ++ arm64FrameEntries.take 9) (by decide) (by decide) (by decide)
    (by decide)
  generalize (saved.run _).run (loads _ _) = loaded at hloaded ⊢
  have hrun : loaded.run eret =
      { registers := Function.update (Function.update loaded.registers .pc (loaded.registers .elr))
          .pstate (loaded.registers .spsr)
        memory := saved.memory } := by
    simp [eret, Cpu.run, Transfer.apply, Cpu.set, hloaded.memory]
  have hword {offset : UInt64} (hoffset : offset.toNat + 8 ≤ 200) :
      wordAt saved.memory (saved.registers .x9 + offset) =
        wordAt cpu.memory (cpu.registers .x0 + offset) := by
    rw [hframe, ← hmemory]
    exact wordAt_congr fun target hin => hsaved.stored.outside target
      (hapart target (hin.within hoffset (by decide)))
  rw [hrun]
  refine ⟨⟨fun entry hentry => ?_, ?_, ?_, ?_⟩, ?_, ?_⟩
  · have hoffset : entry.1 ≠ .pc ∧ entry.1 ≠ .pstate ∧ entry.2.toNat + 8 ≤ 200 := by
      revert entry
      decide
    rw [← hword hoffset.2.2, ← hloaded.general entry hentry]
    simp [hoffset]
  · simp [hloaded.elr, @hword 72 (by decide)]
  · simp [hloaded.spsr, @hword 80 (by decide)]
  · simp [hloaded.spEl0, @hword 88 (by decide)]
  · have hstack := hloaded.others .sp (by decide) (by decide)
    simp [hstack, hsaved.pointer]
  · rw [← hmemory]
    exact hsaved.stored

/-- Where `arm64_enter_user_thread` has saved the registers of its caller. -/
def arm64SavedEntries : List (Arm64Register × UInt64) :=
  arm64CalleeSaved.zipIdx.map fun entry => (entry.1, UInt64.ofNat (8 * entry.2))

/-- The caller of `arm64_enter_user_thread` goes on as if the call had returned. -/
theorem arm64ThreadExit_run {cpu : Cpu Arm64Register} {registers : Arm64Register → UInt64}
    (hsaved : WordsAt cpu.memory (cpu.registers .sp + arm64FrameSize)
      (arm64CalleeSaved.map registers)) :
    (∀ register ∈ arm64CalleeSaved,
        (cpu.run arm64ThreadExitCode).registers register = registers register) ∧
      (cpu.run arm64ThreadExitCode).registers .pc = registers .x30 ∧
      (cpu.run arm64ThreadExitCode).registers .sp = cpu.registers .sp + arm64FrameSize + 96 ∧
      (cpu.run arm64ThreadExitCode).memory = cpu.memory := by
  have hcode : arm64ThreadExitCode =
      addSp 208 ++ (loads .sp arm64SavedEntries ++ (addSp 96 ++ ret)) := rfl
  have hadd : cpu.run (addSp 208) = cpu.set .sp (cpu.registers .sp + arm64FrameSize) := rfl
  rw [hcode, Cpu.run_append, Cpu.run_append, hadd]
  generalize hreleased : cpu.set Arm64Register.sp (cpu.registers .sp + arm64FrameSize) = released
  have hpointer : released.registers .sp = cpu.registers .sp + arm64FrameSize := by
    rw [← hreleased, Cpu.set_registers, Function.update_self]
  have hmemory : released.memory = cpu.memory := by
    rw [← hreleased]
    rfl
  have hloaded : ∀ register ∈ arm64CalleeSaved,
      (released.run (loads .sp arm64SavedEntries)).registers register = registers register := by
    intro register hregister
    obtain ⟨i, hi⟩ := List.mem_iff_getElem?.mp hregister
    have hentry : (register, UInt64.ofNat (8 * i)) ∈ arm64SavedEntries :=
      List.mem_map.mpr ⟨(register, i), List.mk_mem_zipIdx_iff_getElem?.mpr hi, rfl⟩
    rw [run_loads (by decide) (by decide) hentry, hpointer, hmemory]
    exact hsaved.wordAt i rfl (by rw [List.getElem?_map, hi]; rfl)
  have hstack : (released.run (loads .sp arm64SavedEntries)).registers .sp =
      cpu.registers .sp + arm64FrameSize :=
    (Cpu.run_register _ (loads_writes (by decide))).trans hpointer
  have hkept := (@run_loads_memory _ _ released .sp arm64SavedEntries).trans hmemory
  generalize released.run (loads .sp arm64SavedEntries) = loaded at hloaded hstack hkept ⊢
  have hrun : loaded.run (addSp 96 ++ ret) =
      { registers := Function.update (Function.update loaded.registers
          .sp (cpu.registers .sp + arm64FrameSize + 96)) .pc (loaded.registers .x30)
        memory := cpu.memory } := by
    simp [addSp, ret, Cpu.run, Transfer.apply, Cpu.set, hstack, hkept]
  rw [hrun]
  refine ⟨fun register hregister => ?_, ?_, ?_, rfl⟩
  · have hapart : register ≠ .sp ∧ register ≠ .pc := by
      revert register
      decide
    simp [hapart, hloaded register hregister]
  · simp [hloaded .x30 (by decide)]
  · simp

end Return

section Machine

/-- What the CPU runs. -/
inductive Arm64Phase where
  /-- The loop of `enter_user_thread`, between its calls of `arm64_enter_user_thread`. -/
  | kernel
  | user
  | halted
  deriving DecidableEq

/-- The CPU with the memory, the runtime of the kernel, and the CPU as it was at the last call of
`arm64_enter_user_thread`. -/
structure Arm64TrapMachine where
  cpu : Cpu Arm64Register
  runtime : UserRuntime
  phase : Arm64Phase
  caller : Cpu Arm64Register

/-- What happens to the machine. -/
inductive Arm64TrapEvent where
  /-- A call of `arm64_enter_user_thread`, with whatever the loop has done to the runtime. -/
  | enter (caller : Cpu Arm64Register) (runtime : UserRuntime)
  /-- User code runs. -/
  | user (cpu : Cpu Arm64Register)
  /-- User code takes an exception; the handler leaves registers and memory. -/
  | trap (syndrome : UInt64) (returned : Cpu Arm64Register)

variable (vectors : UInt64)

namespace Arm64TrapMachine

/-- The CPU when `arm64_handle_syscall` is called. A synchronous exception of user code has the
vector at 0x400. -/
def entered (machine : Arm64TrapMachine) (syndrome : UInt64) : Cpu Arm64Register :=
  machine.cpu.run (exception (vectors + 0x400) syndrome ++ arm64SyncEntryCode)

/-- What `arm64_handle_syscall` does with the frame that it is given. -/
def handled (machine : Arm64TrapMachine) (syndrome : UInt64) :
    Except String (Option Arm64SyscallFrame × UserRuntime) :=
  let entered := machine.entered vectors syndrome
  arm64HandleSyscall (arm64FrameAt entered.memory (entered.registers .x0))
    { machine.runtime with memory := entered.memory }

/-- The effect of an event. The answer of the handler is tested by `cbz w0`. -/
def next (machine : Arm64TrapMachine) : Arm64TrapEvent → Arm64TrapMachine
  | .enter caller runtime =>
    { cpu := caller.run arm64EnterUserThreadCode
      runtime := runtime
      phase := .user
      caller := caller }
  | .user cpu => { machine with cpu := cpu }
  | .trap syndrome returned =>
    match machine.handled vectors syndrome with
    | .error _ => { machine with phase := .halted }
    | .ok (_, after) =>
      if returned.registers .x0 &&& 0xFFFFFFFF = 0 then
        { machine with
          cpu := returned.run arm64ThreadExitCode
          runtime := after
          phase := .kernel }
      else
        { machine with
          cpu := returned.run arm64SyncReturnCode
          runtime := after }

/-- What the compiled handler leaves: its answer, the frame that it has loaded, and above that
frame the registers that `arm64_enter_user_thread` has saved. -/
structure Returns (machine : Arm64TrapMachine) (syndrome : UInt64) (returned : Cpu Arm64Register)
    (loaded : Option Arm64SyscallFrame) : Prop where
  answer : returned.registers .x0 &&& 0xFFFFFFFF = 0 ↔ loaded = none
  frame : ∀ frame, loaded = some frame →
    arm64FrameAt returned.memory ((machine.entered vectors syndrome).registers .x0) = frame
  stack : returned.registers .sp = (machine.entered vectors syndrome).registers .sp
  kept : ∀ target,
    InRange ((machine.entered vectors syndrome).registers .sp + arm64FrameSize) 96 target →
      returned.memory target = (machine.entered vectors syndrome).memory target

/-- The current thread is entered with its frame, a variable of the caller. -/
structure Enters (caller : Cpu Arm64Register) (runtime : UserRuntime) (t : ThreadRef) : Prop where
  current : runtime.currentThread = some t
  frame : arm64FrameAt caller.memory (caller.registers .x0) =
    loadArm64SyscallFrame (runtime.thread t)
  apart : ∀ target, InRange (caller.registers .x0) 200 target →
    ¬ InRange (caller.registers .sp - 96) 96 target

end Arm64TrapMachine

/-- The machine from the loop of `enter_user_thread` on. User code changes neither the stack pointer
of the kernel nor what lies behind it. -/
def arm64TrapSystem : TransitionSystem Arm64TrapMachine Arm64TrapEvent where
  init machine := machine.phase = .kernel
  enabled machine event :=
    match event with
    | .enter caller runtime =>
      machine.phase = .kernel ∧ ∃ t, Arm64TrapMachine.Enters caller runtime t
    | .user cpu => machine.phase = .user ∧ cpu.registers .sp = machine.cpu.registers .sp ∧
        ∀ target, InRange (machine.cpu.registers .sp) 96 target →
          cpu.memory target = machine.cpu.memory target
    | .trap syndrome returned => machine.phase = .user ∧
        ∀ loaded after, machine.handled vectors syndrome = .ok (loaded, after) →
          machine.Returns vectors syndrome returned loaded
  next := Arm64TrapMachine.next vectors

end Machine

section Runs

variable {vectors : UInt64} {machine : Arm64TrapMachine}

/-- What an exception leaves for the vector. -/
theorem arm64TrapFrame_exception (cpu : Cpu Arm64Register) (vector syndrome : UInt64) :
    arm64TrapFrame (cpu.run (exception vector syndrome)).registers =
        arm64UserFrame cpu.registers syndrome ∧
      (cpu.run (exception vector syndrome)).registers .sp = cpu.registers .sp ∧
      (cpu.run (exception vector syndrome)).memory = cpu.memory := by
  refine ⟨?_, Cpu.run_register _ (by simp [exception, Transfer.writes]), rfl⟩
  simp only [exception, Cpu.run, List.foldl_cons, List.foldl_nil, Transfer.apply, Cpu.set,
    arm64TrapFrame, arm64UserFrame, Function.update_of_ne, Function.update_self, ne_eq,
    reduceCtorEq, not_false_eq_true, id]

namespace Arm64TrapMachine

/-- Whenever user code runs, the registers of the caller lie at the stack pointer of the kernel. -/
structure Ready (machine : Arm64TrapMachine) : Prop where
  stack : machine.cpu.registers .sp = machine.caller.registers .sp - 96
  saved : WordsAt machine.cpu.memory (machine.caller.registers .sp - 96)
    (arm64CalleeSaved.map machine.caller.registers)

/-- The kernel code between user code and user code, or the caller. -/
structure Traps (vectors : UInt64) (machine : Arm64TrapMachine) : Prop where
  /-- The handler is given the registers of user code, over a memory that differs in its frame
  only. -/
  handled : ∀ syndrome, ∃ stacked,
    (∀ target, ¬ InRange (machine.caller.registers .sp - 96 - arm64FrameSize) 200 target →
      stacked target = machine.cpu.memory target) ∧
    machine.handled vectors syndrome =
      arm64HandleSyscall (arm64UserFrame machine.cpu.registers syndrome)
        { machine.runtime with memory := stacked }
  /-- User code goes on with the frame that the handler has loaded. -/
  resumed : ∀ syndrome returned,
    (arm64TrapSystem vectors).enabled machine (.trap syndrome returned) →
    ∀ loaded after, machine.handled vectors syndrome = .ok (some loaded, after) →
      let next := machine.next vectors (.trap syndrome returned)
      next.phase = .user ∧ arm64UserFrame next.cpu.registers loaded.esr = loaded ∧
        next.cpu.memory = returned.memory
  /-- Without one, `arm64_enter_user_thread` returns: its caller finds the stack pointer and the
  registers of the call. -/
  left : ∀ syndrome returned,
    (arm64TrapSystem vectors).enabled machine (.trap syndrome returned) →
    ∀ after, machine.handled vectors syndrome = .ok (none, after) →
      let next := machine.next vectors (.trap syndrome returned)
      next.phase = .kernel ∧ next.cpu.registers .pc = machine.caller.registers .x30 ∧
        next.cpu.registers .sp = machine.caller.registers .sp ∧
        (∀ register ∈ arm64CalleeSaved,
          next.cpu.registers register = machine.caller.registers register) ∧
        next.cpu.memory = returned.memory
  /-- The thread that the loop enters next begins with its own frame. -/
  enters : ∀ caller runtime t, Enters caller runtime t →
    arm64UserFrame (machine.next vectors (.enter caller runtime)).cpu.registers 0 =
      loadArm64SyscallFrame (runtime.thread t)

/-- The entry code of a machine that is ready. -/
theorem Ready.called (h : machine.Ready) (vectors syndrome : UInt64) :
    ∃ trapped : Cpu Arm64Register,
      arm64TrapFrame trapped.registers = arm64UserFrame machine.cpu.registers syndrome ∧
      trapped.registers .sp = machine.caller.registers .sp - 96 ∧
      trapped.memory = machine.cpu.memory ∧
      Arm64HandlerCalled trapped (machine.entered vectors syndrome) := by
  obtain ⟨hframe, hstack, hmemory⟩ :=
    arm64TrapFrame_exception machine.cpu (vectors + 0x400) syndrome
  refine ⟨_, hframe, hstack.trans h.stack, hmemory, ?_⟩
  rw [entered, Cpu.run_append]
  exact arm64SyncEntry_run _

/-- The registers of the caller are where the handler has returned to. -/
theorem Ready.returned (h : machine.Ready) {syndrome : UInt64} {returned : Cpu Arm64Register}
    {loaded : Option Arm64SyscallFrame}
    (hreturns : machine.Returns vectors syndrome returned loaded) :
    returned.registers .sp + arm64FrameSize = machine.caller.registers .sp - 96 ∧
      WordsAt returned.memory (machine.caller.registers .sp - 96)
        (arm64CalleeSaved.map machine.caller.registers) := by
  obtain ⟨trapped, -, hstack, hmemory, hcalled⟩ := h.called vectors syndrome
  have hpointer : (machine.entered vectors syndrome).registers .sp + arm64FrameSize =
      machine.caller.registers .sp - 96 := by
    rw [hcalled.stack, hstack, UInt64.sub_add_cancel]
  refine ⟨by rw [hreturns.stack, hpointer], h.saved.congr (show 8 * 12 < 2 ^ 64 by decide)
    fun target hin => ?_⟩
  rw [hreturns.kept target (hpointer ▸ hin), hcalled.memory target, hmemory]
  intro hframe
  -- The frame lies directly below the saved registers, with eight bytes between them.
  rw [hstack] at hframe
  refine @not_inRange_behind (machine.caller.registers .sp - 96 - arm64FrameSize) 208 96 target
    (by decide) ?_ (Nat.lt_of_lt_of_le hframe (by decide))
  have hbehind : machine.caller.registers .sp - 96 - arm64FrameSize + UInt64.ofNat 208 =
      machine.caller.registers .sp - 96 := UInt64.sub_add_cancel ..
  rw [hbehind]
  exact hin

/-- User code that is entered has the frame of the current thread. -/
theorem next_enter {caller : Cpu Arm64Register} {runtime : UserRuntime} {t : ThreadRef}
    (h : Enters caller runtime t) :
    arm64UserFrame (machine.next vectors (.enter caller runtime)).cpu.registers 0 =
      loadArm64SyscallFrame (runtime.thread t) := by
  have hframe := (arm64EnterUserThread_run h.apart).1.userFrame
  rw [h.frame] at hframe
  exact hframe

theorem Ready.traps (h : machine.Ready) : machine.Traps vectors := by
  refine ⟨fun syndrome => ?_, fun syndrome returned henabled loaded after hhandled => ?_,
    fun syndrome returned henabled after hhandled => ?_, fun _ _ _ henters => next_enter henters⟩
  · obtain ⟨trapped, hframe, hstack, hmemory, hcalled⟩ := h.called vectors syndrome
    refine ⟨(machine.entered vectors syndrome).memory, fun target hout => ?_, ?_⟩
    · rw [hcalled.memory target (by rwa [hstack]), hmemory]
    · rw [Arm64TrapMachine.handled, hcalled.frame, hframe]
  · have hreturns := henabled.2 (some loaded) after hhandled
    obtain ⟨trapped, -, -, -, hcalled⟩ := h.called vectors syndrome
    have hanswer : ¬ returned.registers .x0 &&& 0xFFFFFFFF = 0 := fun hzero =>
      Option.some_ne_none _ (hreturns.answer.mp hzero)
    have hnext : machine.next vectors (.trap syndrome returned) =
        { machine with
          cpu := returned.run arm64SyncReturnCode
          runtime := after } := by
      simp only [Arm64TrapMachine.next, hhandled, if_neg hanswer]
    obtain ⟨hloaded, -, hkept⟩ := arm64SyncReturn_run returned
    have hframe := hloaded.userFrame
    rw [hreturns.stack, hcalled.stack, ← hcalled.argument, hreturns.frame loaded rfl] at hframe
    rw [hnext]
    exact ⟨henabled.1, hframe, hkept⟩
  · have hreturns := henabled.2 none after hhandled
    obtain ⟨hpointer, hsaved⟩ := h.returned hreturns
    have hnext : machine.next vectors (.trap syndrome returned) =
        { machine with
          cpu := returned.run arm64ThreadExitCode
          runtime := after
          phase := .kernel } := by
      simp only [Arm64TrapMachine.next, hhandled, if_pos (hreturns.answer.mpr rfl)]
    obtain ⟨hregisters, hpc, hstack, hkept⟩ := arm64ThreadExit_run (by rwa [hpointer])
    rw [hnext]
    refine ⟨rfl, hpc, ?_, hregisters, hkept⟩
    rw [hstack, hpointer, UInt64.sub_add_cancel]

/-- Every event leaves the machine ready while it is in user code. -/
theorem Ready.next (h : machine.phase = .user → machine.Ready) {event : Arm64TrapEvent}
    (henabled : (arm64TrapSystem vectors).enabled machine event)
    (huser : (machine.next vectors event).phase = .user) : (machine.next vectors event).Ready := by
  cases event with
  | enter caller runtime =>
    obtain ⟨-, t, henters⟩ := henabled
    obtain ⟨-, hstack, hstored⟩ := arm64EnterUserThread_run henters.apart
    exact ⟨hstack, hstored.held⟩
  | user cpu =>
    obtain ⟨hphase, hstack, hkept⟩ := henabled
    obtain ⟨hpointer, hsaved⟩ := h hphase
    refine ⟨hstack.trans hpointer, hsaved.congr (show 8 * 12 < 2 ^ 64 by decide)
      fun target hin => hkept target ?_⟩
    rw [hpointer]
    exact hin
  | trap syndrome returned =>
    obtain ⟨hphase, hreturned⟩ := henabled
    have hready := h hphase
    cases hhandled : machine.handled vectors syndrome with
    | error text =>
      simp only [Arm64TrapMachine.next, hhandled] at huser
      cases huser
    | ok result =>
      obtain ⟨loaded, after⟩ := result
      obtain ⟨hpointer, hsaved⟩ := hready.returned (hreturned loaded after hhandled)
      by_cases hanswer : returned.registers .x0 &&& 0xFFFFFFFF = 0
      · simp only [Arm64TrapMachine.next, hhandled, if_pos hanswer] at huser
        cases huser
      · obtain ⟨-, hstack, hkept⟩ := arm64SyncReturn_run returned
        simp only [Arm64TrapMachine.next, hhandled, if_neg hanswer]
        exact ⟨hstack.trans hpointer, hkept ▸ hsaved⟩

theorem reachable_ready
    (h : (arm64TrapSystem vectors).Reachable TransitionSystem.anyStep machine) :
    machine.phase = .user → machine.Ready := by
  refine h.invariant (P := fun s => s.phase = .user → s.Ready) (fun s hinit huser => ?_)
    fun s event _ hs henabled _ huser => Ready.next hs henabled huser
  cases hinit.symm.trans huser

/-- In every run, whatever user code does: the handler gets the registers of user code, user code
goes on with the frame that the handler has loaded, and without one the loop of the platform goes on
as if its call had returned. -/
theorem reachable_arm64Traps
    (h : (arm64TrapSystem vectors).Reachable TransitionSystem.anyStep machine)
    (huser : machine.phase = .user) : machine.Traps vectors :=
  (reachable_ready h huser).traps

/-- The first of two threads is entered. -/
theorem reachable_arm64Traps_twoStarted :
    ∃ machine, (arm64TrapSystem 0x80000).Reachable TransitionSystem.anyStep machine ∧
      machine.phase = .user ∧ machine.Traps 0x80000 := by
  let runtime := Arm64Machine.twoStarted.runtime
  let framed : Cpu Arm64Register :=
    { registers := fun
        | .sp => 0x300000
        | .elr => 0x1000
        | .spEl0 => 0x1800
        | _ => 0
      memory := fun _ => 0 }
  let caller : Cpu Arm64Register :=
    { registers := fun
        | .sp => 0x200000
        | .x0 => (framed.run arm64SyncEntryCode).registers .x0
        | _ => 0
      memory := (framed.run arm64SyncEntryCode).memory }
  have hcalled := arm64SyncEntry_run framed
  have hloaded : arm64TrapFrame framed.registers = loadArm64SyscallFrame (runtime.thread 0) := by
    decide +kernel
  have henters : Enters caller runtime 0 := by
    refine ⟨by decide +kernel, hcalled.frame.trans hloaded, fun target hframe hsaved => ?_⟩
    change InRange ((framed.run arm64SyncEntryCode).registers .x0) 200 target at hframe
    rw [hcalled.argument] at hframe
    obtain ⟨first, hfirst, htarget⟩ := hframe.toNat_eq (by decide)
    obtain ⟨second, hsecond, hother⟩ := hsaved.toNat_eq (by decide)
    have hleft : (framed.registers .sp - arm64FrameSize).toNat = 0x300000 - 208 := by decide
    have hright : (caller.registers .sp - 96).toNat = 0x200000 - 96 := by decide
    omega
  let waiting : Arm64TrapMachine := ⟨caller, runtime, .kernel, caller⟩
  have hwaiting : (arm64TrapSystem 0x80000).Reachable TransitionSystem.anyStep waiting := .init rfl
  have henabled : (arm64TrapSystem 0x80000).enabled waiting (.enter caller runtime) :=
    ⟨rfl, 0, henters⟩
  have hreachable := hwaiting.step henabled trivial
  exact ⟨_, hreachable, rfl, reachable_arm64Traps hreachable rfl⟩

end Arm64TrapMachine

end Runs

end Ringos.Arch
