import Ringos.Core.Transfers
import Ringos.Arch.X64Isolation

/-!
# The trap code of x64

`x64_syscall_entry` switches to the kernel stack of the current thread, lays the
registers of user code out as the frame of the handler, and loads them back from
that frame. In every run the handler sees the registers of the trap, and user
code goes on with those of the frame that the handler has left.
-/

namespace Ringos.Arch

open Ringos.Core Ringos.Kernel

/-- A quadword of an XMM register. -/
inductive XmmHalf where
  | low
  | high
  deriving DecidableEq

/-- The registers that trap code moves; `latch` holds what a push reads from memory. -/
inductive X64Register where
  | rax | rcx | rdx | rbx | rsp | rbp | rsi | rdi
  | r8 | r9 | r10 | r11 | r12 | r13 | r14 | r15
  | xmm (index : Fin 16) (half : XmmHalf)
  | rip | rflags | cs | ss | gsBase | kernelGsBase | latch
  deriving DecidableEq

/-- Code of x64, as the transfers that its instructions make. -/
abbrev X64Code := List (Transfer X64Register)

namespace X64Code

/-- `swapgs`. -/
def swapgs : X64Code := [.swap .gsBase .kernelGsBase]
/-- `movq source, %gs:offset`. -/
def storeGs (offset : UInt64) (source : X64Register) : X64Code := [.store .gsBase offset source]
/-- `movq %gs:offset, target`. -/
def loadGs (target : X64Register) (offset : UInt64) : X64Code := [.load target .gsBase offset]
/-- `subq $amount, target`. -/
def sub (target : X64Register) (amount : UInt64) : X64Code := [.compute target target (· - amount)]
/-- `movq source, target`. -/
def mov (target source : X64Register) : X64Code := [.compute target source id]
/-- `movq $value, target`. -/
def movImmediate (target : X64Register) (value : UInt64) : X64Code :=
  [.compute target target fun _ => value]
/-- `movq offset(%rsp), target`. -/
def load (target : X64Register) (offset : UInt64) : X64Code := [.load target .rsp offset]
/-- `movdqu %xmm, offset(%rsp)`. -/
def storeXmm (index : Fin 16) (offset : UInt64) : X64Code :=
  [.store .rsp offset (.xmm index .low), .store .rsp (offset + 8) (.xmm index .high)]
/-- `movdqu offset(%rsp), %xmm`. -/
def loadXmm (index : Fin 16) (offset : UInt64) : X64Code :=
  [.load (.xmm index .low) .rsp offset, .load (.xmm index .high) .rsp (offset + 8)]
/-- `pushq source`. -/
def pushq (source : X64Register) : X64Code := push .rsp source
/-- `pushq %gs:offset`. -/
def pushGs (offset : UInt64) : X64Code := .load .latch .gsBase offset :: push .rsp .latch

/-- `pushq $value`. -/
def pushImmediate (value : UInt64) : X64Code :=
  .compute .latch .latch (fun _ => value) :: push .rsp .latch

/-- The `syscall` instruction. RIP is the address behind it. -/
def syscall (star lstar fmask : UInt64) : X64Code :=
  [.compute .rcx .rip id, .compute .r11 .rflags id, .compute .rip .rip fun _ => lstar,
    .compute .rflags .rflags (· &&& ~~~fmask), .compute .cs .cs fun _ => star >>> 32 &&& 0xFFFC,
    .compute .ss .ss fun _ => (star >>> 32 &&& 0xFFFF) + 8]
/-- The flags that `sysretq` loads. -/
def sysretFlags (r11 : UInt64) : UInt64 := (r11 &&& 0x3C7FD7) ||| 2
/-- `sysretq`. -/
def sysretq (star : UInt64) : X64Code :=
  [.compute .rip .rcx id, .compute .rflags .r11 sysretFlags,
    .compute .cs .cs fun _ => ((star >>> 48) + 16) ||| 3,
    .compute .ss .ss fun _ => ((star >>> 48) + 8) ||| 3]
/-- `iretq`. -/
def iretq : X64Code :=
  [.load .rip .rsp 0, .load .cs .rsp 8, .load .rflags .rsp 16, .load .ss .rsp 32, .load .rsp .rsp 24]

end X64Code

open X64Code in
/-- `x64_syscall_entry` up to the call of the handler. -/
def x64SyscallEntryCode : X64Code :=
  swapgs ++
  storeGs 0 .rsp ++
  loadGs .rsp 8 ++
  sub .rsp 160 ++
  storeXmm 6 0 ++
  storeXmm 7 16 ++
  storeXmm 8 32 ++
  storeXmm 9 48 ++
  storeXmm 10 64 ++
  storeXmm 11 80 ++
  storeXmm 12 96 ++
  storeXmm 13 112 ++
  storeXmm 14 128 ++
  storeXmm 15 144 ++
  pushq .rbx ++
  pushq .rbp ++
  pushq .r12 ++
  pushq .r13 ++
  pushq .r14 ++
  pushq .r15 ++
  pushGs 0 ++
  pushq .r11 ++
  pushq .rcx ++
  pushq .rax ++
  pushq .rdi ++
  pushq .rsi ++
  pushq .rdx ++
  pushq .r10 ++
  pushq .r8 ++
  pushq .r9 ++
  mov .rdi .rsp

open X64Code in
/-- `x64_syscall_entry` behind the call of a handler that has answered true. -/
def x64SyscallReturnCode : X64Code :=
  load .r9 0 ++
  load .r8 8 ++
  load .r10 16 ++
  load .rdx 24 ++
  load .rsi 32 ++
  load .rdi 40 ++
  load .rax 48 ++
  load .rcx 56 ++
  load .r11 64 ++
  load .r15 80 ++
  load .r14 88 ++
  load .r13 96 ++
  load .r12 104 ++
  load .rbp 112 ++
  load .rbx 120 ++
  loadXmm 6 128 ++
  loadXmm 7 144 ++
  loadXmm 8 160 ++
  loadXmm 9 176 ++
  loadXmm 10 192 ++
  loadXmm 11 208 ++
  loadXmm 12 224 ++
  loadXmm 13 240 ++
  loadXmm 14 256 ++
  loadXmm 15 272 ++
  load .rsp 72 ++
  swapgs

open X64Code in
/-- `x64_enter_user_thread`: the instruction pointer is in RDI, the stack pointer in RSI, the flags
in RDX. Loading the selector of GS clears its base. -/
def x64EnterUserThreadCode : X64Code :=
  [.compute .rax .rax fun value => (value &&& ~~~0xFFFF) ||| 0x23,
    .compute .gsBase .gsBase fun _ => 0] ++
  pushImmediate 0x23 ++
  pushq .rsi ++
  pushq .rdx ++
  pushImmediate 0x2B ++
  pushq .rdi ++
  iretq

section Frames

theorem preservedXmm_lt (index : Fin archPreservedSimdQwordCount) : 6 + index.val / 2 < 16 := by
  have hcount : archPreservedSimdQwordCount = 20 := rfl
  have hindex := index.isLt
  omega

/-- The register of a preserved quadword. -/
def preservedXmm (index : Fin archPreservedSimdQwordCount) : X64Register :=
  .xmm ⟨6 + index.val / 2, preservedXmm_lt index⟩ (if index.val % 2 = 0 then .low else .high)

/-- The frame with the registers that `syscall` has left. -/
def frameOf (registers : X64Register → UInt64) : X64SyscallFrame where
  r9 := registers .r9
  r8 := registers .r8
  r10 := registers .r10
  rdx := registers .rdx
  rsi := registers .rsi
  rdi := registers .rdi
  rax := registers .rax
  rcx := registers .rcx
  r11 := registers .r11
  userRsp := registers .rsp
  r15 := registers .r15
  r14 := registers .r14
  r13 := registers .r13
  r12 := registers .r12
  rbp := registers .rbp
  rbx := registers .rbx
  preservedXmmQwords := fun index => registers (preservedXmm index)

/-- The frame that lies at an address. -/
def frameAt (memory : ByteMemory) (address : UInt64) : X64SyscallFrame where
  r9 := wordAt memory address
  r8 := wordAt memory (address + 8)
  r10 := wordAt memory (address + 16)
  rdx := wordAt memory (address + 24)
  rsi := wordAt memory (address + 32)
  rdi := wordAt memory (address + 40)
  rax := wordAt memory (address + 48)
  rcx := wordAt memory (address + 56)
  r11 := wordAt memory (address + 64)
  userRsp := wordAt memory (address + 72)
  r15 := wordAt memory (address + 80)
  r14 := wordAt memory (address + 88)
  r13 := wordAt memory (address + 96)
  r12 := wordAt memory (address + 104)
  rbp := wordAt memory (address + 112)
  rbx := wordAt memory (address + 120)
  preservedXmmQwords := fun index => wordAt memory (address + UInt64.ofNat (128 + 8 * index.val))

/-- The words of a frame in memory order. -/
def X64SyscallFrame.words (frame : X64SyscallFrame) : List UInt64 :=
  [frame.r9, frame.r8, frame.r10, frame.rdx, frame.rsi, frame.rdi, frame.rax, frame.rcx, frame.r11,
    frame.userRsp, frame.r15, frame.r14, frame.r13, frame.r12, frame.rbp, frame.rbx] ++
    List.ofFn frame.preservedXmmQwords

/-- `sizeof(x64_syscall_frame)`. -/
def sizeofX64SyscallFrame : Nat := 288

theorem X64SyscallFrame.length_words (frame : X64SyscallFrame) :
    8 * frame.words.length = sizeofX64SyscallFrame := by
  simp [X64SyscallFrame.words, sizeofX64SyscallFrame]

/-- The frame is what its words make up. -/
theorem frameAt_of_wordsAt {memory : ByteMemory} {address : UInt64} {frame : X64SyscallFrame}
    (h : WordsAt memory address frame.words) : frameAt memory address = frame := by
  have hxmm (index : Fin archPreservedSimdQwordCount) :
      frame.words[16 + index.val]? = some (frame.preservedXmmQwords index) := by
    have hindex : 16 + index.val - 16 = index.val := Nat.add_sub_cancel_left ..
    refine (List.getElem?_append_right (Nat.le_add_right 16 _)).trans ?_
    change (List.ofFn frame.preservedXmmQwords)[16 + index.val - 16]? = _
    rw [hindex, List.getElem?_ofFn, dif_pos index.isLt]
  have hfirst : wordAt memory address = frame.r9 := by
    rw [← UInt64.add_zero address]
    exact h.wordAt 0 rfl rfl
  unfold frameAt
  rw [hfirst]
  congr 1
  · exact h.wordAt 1 rfl rfl
  · exact h.wordAt 2 rfl rfl
  · exact h.wordAt 3 rfl rfl
  · exact h.wordAt 4 rfl rfl
  · exact h.wordAt 5 rfl rfl
  · exact h.wordAt 6 rfl rfl
  · exact h.wordAt 7 rfl rfl
  · exact h.wordAt 8 rfl rfl
  · exact h.wordAt 9 rfl rfl
  · exact h.wordAt 10 rfl rfl
  · exact h.wordAt 11 rfl rfl
  · exact h.wordAt 12 rfl rfl
  · exact h.wordAt 13 rfl rfl
  · exact h.wordAt 14 rfl rfl
  · exact h.wordAt 15 rfl rfl
  · funext index
    refine h.wordAt (16 + index.val) ?_ (hxmm index)
    rw [Nat.mul_add]

end Frames

section Entry

variable {cpu : Cpu X64Register} {cpuLocal stackTop : UInt64}

/-- The code in front of the saves: it finds the kernel stack and leaves the user stack pointer in
the block of the CPU. -/
def x64StackSwitch : X64Code :=
  X64Code.swapgs ++ X64Code.storeGs 0 .rsp ++ X64Code.loadGs .rsp 8 ++ X64Code.sub .rsp 160

/-- User code can be left: the block of the CPU has the top of the kernel stack, and a frame below
it does not run over the block. -/
structure TrapReady (cpuLocal stackTop : UInt64) (cpu : Cpu X64Register) : Prop where
  base : cpu.registers .kernelGsBase = cpuLocal
  top : wordAt cpu.memory (cpuLocal + 8) = stackTop
  apart : ∀ target, InRange cpuLocal 16 target →
    ¬ InRange (stackTop - UInt64.ofNat sizeofX64SyscallFrame) sizeofX64SyscallFrame target

theorem x64StackSwitch_run (h : TrapReady cpuLocal stackTop cpu) :
    cpu.run x64StackSwitch =
      { registers := Function.update (Function.update (Function.update cpu.registers .gsBase
          cpuLocal) .kernelGsBase (cpu.registers .gsBase)) .rsp (stackTop - 160)
        memory := storeWord cpu.memory cpuLocal (cpu.registers .rsp) } := by
  have hslots : WordsAt (storeWord cpu.memory cpuLocal (cpu.registers .rsp)) (cpuLocal + 8)
      [stackTop] := by
    have htop : WordsAt cpu.memory (cpuLocal + 8) [stackTop] := fun i hi => by
      obtain rfl : i = 0 := Nat.lt_one_iff.mp hi
      exact (congrArg _ (UInt64.add_zero _)).trans h.top
    refine htop.congr (show 8 * 1 < 2 ^ 64 by decide) fun target hin =>
      (stored_storeWord cpu.memory cpuLocal _).outside target ?_
    exact @not_inRange_behind cpuLocal 8 8 target (by decide) hin
  have hpointer : wordAt (storeWord cpu.memory cpuLocal (cpu.registers .rsp)) (cpuLocal + 8) =
      stackTop := (congrArg _ (UInt64.add_zero _).symm).trans (hslots 0 Nat.zero_lt_one)
  simp [x64StackSwitch, Cpu.run, X64Code.swapgs, X64Code.storeGs, X64Code.loadGs, X64Code.sub,
    Transfer.apply, Cpu.set, h.base, hpointer]

/-- The saves lay the registers out as the frame of the handler. -/
theorem x64Saves_run {frame : UInt64} (hpointer : cpu.registers .rsp = frame + 128)
    (hapart : ∀ target, InRange (cpu.registers .gsBase) 8 target →
      ¬ InRange frame sizeofX64SyscallFrame target) :
    Saving cpu [.rsp, .latch] .rsp ({ frameOf cpu.registers with
        userRsp := wordAt cpu.memory (cpu.registers .gsBase) } : X64SyscallFrame).words frame
      (cpu.run (saves .rsp 0 (List.ofFn preservedXmm) ++
        ([X64Register.rbx, .rbp, .r12, .r13, .r14, .r15].flatMap (push .rsp) ++
          ([Transfer.load .latch .gsBase 0] ++ (push .rsp .latch ++
            [X64Register.r11, .rcx, .rax, .rdi, .rsi, .rdx, .r10, .r8, .r9].flatMap
              (push .rsp)))))) := by
  have hstack : X64Register.rsp ∈ [X64Register.rsp, .latch] := List.mem_cons_self
  have hxmm : (List.ofFn preservedXmm).map cpu.registers =
      List.ofFn (frameOf cpu.registers).preservedXmmQwords := List.map_ofFn ..
  have hlength : (List.ofFn (frameOf cpu.registers).preservedXmmQwords).length = 20 :=
    List.length_ofFn
  rw [Cpu.run_append, Cpu.run_append, Cpu.run_append, Cpu.run_append]
  have hfirst := (saving_nil cpu [.rsp, .latch] .rsp).saves (List.ofFn preservedXmm)
    (show (0 : UInt64) = UInt64.ofNat (8 * 0) from rfl) (by decide)
  rw [hxmm, hpointer, List.nil_append] at hfirst
  have hsecond := hfirst.pushes hstack [.rbx, .rbp, .r12, .r13, .r14, .r15] (by decide) (by
    rw [hlength]
    decide)
  generalize Cpu.run (cpu.run _) ([X64Register.rbx, .rbp, .r12, .r13, .r14, .r15].flatMap
    (push .rsp)) = second at hsecond ⊢
  have hsix : frame + 128 - UInt64.ofNat (8 * 6) = frame + 80 := by
    rw [show UInt64.ofNat (8 * 6) = 48 from rfl]
    grind
  change Saving cpu [.rsp, .latch] .rsp _ (frame + 128 - UInt64.ofNat (8 * 6)) second at hsecond
  rw [hsix] at hsecond
  -- The block of the CPU is apart from the frame, so the user stack pointer is still in it.
  have hlatch : wordAt second.memory (second.registers .gsBase + 0) =
      wordAt cpu.memory (cpu.registers .gsBase) := by
    rw [hsecond.registers _ (by decide), UInt64.add_zero]
    refine wordAt_congr fun target hin => hsecond.stored.outside target fun hblock =>
      hapart target hin (hblock.within ?_ (by decide))
    rw [List.length_append, hlength]
    show 80 + 8 * (6 + 20) ≤ 288
    decide
  have hthird := (hsecond.clobber [.load .latch .gsBase 0] (by decide) (by decide)).push hstack
    .latch (by decide) (by
      rw [List.length_append, hlength]
      show 8 + 8 * (6 + 20) < 2 ^ 64
      decide)
  have hvalue : (second.run [.load .latch .gsBase 0]).registers .latch =
      wordAt cpu.memory (cpu.registers .gsBase) := by
    rw [← hlatch]
    exact @Function.update_self X64Register (fun _ => UInt64) _ .latch _ second.registers
  rw [hvalue] at hthird
  have hlast := hthird.pushes hstack [.r11, .rcx, .rax, .rdi, .rsi, .rdx, .r10, .r8, .r9]
    (by decide) (by
      simp only [List.length_cons, List.length_nil, List.length_append, List.length_map,
        List.length_reverse, hlength]
      decide)
  have hbottom : frame + 80 - 8 - UInt64.ofNat (8 * 9) = frame := by
    rw [show UInt64.ofNat (8 * 9) = 72 from rfl]
    grind
  change Saving cpu [.rsp, .latch] .rsp _ (frame + 80 - 8 - UInt64.ofNat (8 * 9)) _ at hlast
  rw [hbottom] at hlast
  exact hlast

/-- The handler is called with the frame of the registers, which lies below the top of the kernel
stack. -/
structure HandlerCalled (cpuLocal stackTop : UInt64) (cpu entered : Cpu X64Register) : Prop where
  frame : frameAt entered.memory (entered.registers .rdi) = frameOf cpu.registers
  argument : entered.registers .rdi = stackTop - UInt64.ofNat sizeofX64SyscallFrame
  stack : entered.registers .rsp = entered.registers .rdi
  gsBase : entered.registers .gsBase = cpuLocal
  userGsBase : entered.registers .kernelGsBase = cpu.registers .gsBase
  memory : ∀ target, ¬ InRange cpuLocal 8 target →
    ¬ InRange (stackTop - UInt64.ofNat sizeofX64SyscallFrame) sizeofX64SyscallFrame target →
      entered.memory target = cpu.memory target

theorem x64SyscallEntry_run (h : TrapReady cpuLocal stackTop cpu) :
    HandlerCalled cpuLocal stackTop cpu (cpu.run x64SyscallEntryCode) := by
  have hcode : x64SyscallEntryCode = x64StackSwitch ++
      ((saves .rsp 0 (List.ofFn preservedXmm) ++
        ([X64Register.rbx, .rbp, .r12, .r13, .r14, .r15].flatMap (push .rsp) ++
          ([Transfer.load .latch .gsBase 0] ++ (push .rsp .latch ++
            [X64Register.r11, .rcx, .rax, .rdi, .rsi, .rdx, .r10, .r8, .r9].flatMap
              (push .rsp))))) ++ X64Code.mov .rdi .rsp) := rfl
  rw [hcode, Cpu.run_append, Cpu.run_append, x64StackSwitch_run h]
  generalize hswitched : ({ registers := _, memory := _ } : Cpu X64Register) = switched
  have hregisters : switched.registers = Function.update (Function.update (Function.update
      cpu.registers .gsBase cpuLocal) .kernelGsBase (cpu.registers .gsBase)) .rsp
      (stackTop - 160) := by rw [← hswitched]
  have hmemory : switched.memory = storeWord cpu.memory cpuLocal (cpu.registers .rsp) := by
    rw [← hswitched]
  have hgs : switched.registers .gsBase = cpuLocal := by
    rw [hregisters, Function.update_of_ne (by decide), Function.update_of_ne (by decide),
      Function.update_self]
  have hpointer : switched.registers .rsp = stackTop - UInt64.ofNat sizeofX64SyscallFrame + 128 := by
    rw [hregisters, Function.update_self, show UInt64.ofNat sizeofX64SyscallFrame = 288 from rfl]
    grind
  have hword : wordAt switched.memory (switched.registers .gsBase) = cpu.registers .rsp := by
    rw [hmemory, hgs, wordAt_storeWord]
  have hframe : ({ frameOf switched.registers with
      userRsp := wordAt switched.memory (switched.registers .gsBase) } : X64SyscallFrame) =
      frameOf cpu.registers := by
    have hxmm : (fun index => switched.registers (preservedXmm index)) =
        fun index => cpu.registers (preservedXmm index) := by
      funext index
      simp only [hregisters, preservedXmm, Function.update_of_ne, ne_eq, reduceCtorEq,
        not_false_eq_true]
    rw [hword]
    simp only [frameOf, hxmm]
    simp only [hregisters, Function.update_of_ne, ne_eq, reduceCtorEq, not_false_eq_true]
  have hsaving := x64Saves_run hpointer fun target hin => h.apart target <|
    Nat.lt_of_lt_of_le (hgs ▸ hin) (by decide)
  rw [hframe] at hsaving
  generalize switched.run _ = saved at hsaving ⊢
  have hmoved : saved.run (X64Code.mov .rdi .rsp) = saved.set .rdi (saved.registers .rsp) := rfl
  have hkept (register : X64Register) (hscratch : register ∉ [X64Register.rsp, .latch])
      (hargument : register ≠ .rdi) : (saved.set .rdi (saved.registers .rsp)).registers register =
        switched.registers register :=
    (Function.update_of_ne hargument _ _).trans (hsaving.registers register hscratch)
  rw [hmoved]
  refine ⟨?_, ?_, ?_, (hkept _ (by decide) (by decide)).trans hgs, ?_, fun target hslot hblock => ?_⟩
  · rw [Cpu.set_registers, Function.update_self, hsaving.pointer]
    exact frameAt_of_wordsAt hsaving.stored.held
  · rw [Cpu.set_registers, Function.update_self, hsaving.pointer]
  · rw [Cpu.set_registers, Function.update_self, Function.update_of_ne (by decide)]
  · rw [hkept _ (by decide) (by decide), hregisters, Function.update_of_ne (by decide),
      Function.update_self]
  · rw [Cpu.set_memory, hsaving.stored.outside target (by rwa [X64SyscallFrame.length_words]),
      hmemory]
    exact (stored_storeWord cpu.memory cpuLocal _).outside target hslot

end Entry

section Return

/-- What the return code loads over the stack pointer of the handler. -/
def frameEntries : List (X64Register × UInt64) :=
  [(.r9, 0), (.r8, 8), (.r10, 16), (.rdx, 24), (.rsi, 32), (.rdi, 40), (.rax, 48), (.rcx, 56),
    (.r11, 64), (.r15, 80), (.r14, 88), (.r13, 96), (.r12, 104), (.rbp, 112), (.rbx, 120)] ++
    List.ofFn fun index => (preservedXmm index, UInt64.ofNat (128 + 8 * index.val))

theorem frameEntries_nodup : (frameEntries.map Prod.fst).Nodup := by decide +kernel

theorem frameEntries_xmm (index : Fin archPreservedSimdQwordCount) :
    (preservedXmm index, UInt64.ofNat (128 + 8 * index.val)) ∈ frameEntries :=
  List.mem_append_right _ (List.mem_ofFn.mpr ⟨index, rfl⟩)

/-- The registers of user code are those of the frame at the stack pointer. -/
theorem x64SyscallReturn_run (cpu : Cpu X64Register) :
    frameOf (cpu.run x64SyscallReturnCode).registers =
        frameAt cpu.memory (cpu.registers .rsp) ∧
      (cpu.run x64SyscallReturnCode).registers .gsBase = cpu.registers .kernelGsBase ∧
      (cpu.run x64SyscallReturnCode).registers .kernelGsBase = cpu.registers .gsBase ∧
      (cpu.run x64SyscallReturnCode).memory = cpu.memory := by
  have hcode : x64SyscallReturnCode = loads .rsp frameEntries ++
      (X64Code.load .rsp 72 ++ X64Code.swapgs) := rfl
  have hloaded {register : X64Register} {offset : UInt64}
      (hentry : (register, offset) ∈ frameEntries) :
      (cpu.run (loads .rsp frameEntries)).registers register =
        wordAt cpu.memory (cpu.registers .rsp + offset) :=
    run_loads frameEntries_nodup (by decide +kernel) hentry
  have hkept {register : X64Register} (hregister : register ∉ frameEntries.map Prod.fst) :
      (cpu.run (loads .rsp frameEntries)).registers register = cpu.registers register :=
    Cpu.run_register _ (loads_writes hregister)
  have hmemory := @run_loads_memory _ _ cpu .rsp frameEntries
  rw [hcode, Cpu.run_append]
  generalize cpu.run (loads .rsp frameEntries) = loaded at hloaded hkept hmemory ⊢
  have hrun : loaded.run (X64Code.load .rsp 72 ++ X64Code.swapgs) =
      { registers := Function.update (Function.update (Function.update loaded.registers .rsp
          (wordAt cpu.memory (cpu.registers .rsp + 72))) .gsBase (cpu.registers .kernelGsBase))
          .kernelGsBase (cpu.registers .gsBase)
        memory := cpu.memory } := by
    have hpointer := @hkept .rsp (by decide +kernel)
    have hgs := @hkept .gsBase (by decide +kernel)
    have hkernelGs := @hkept .kernelGsBase (by decide +kernel)
    simp [Cpu.run, X64Code.load, X64Code.swapgs, Transfer.apply, Cpu.set, hpointer, hgs,
      hkernelGs, hmemory]
  rw [hrun]
  refine ⟨?_, ?_, ?_, rfl⟩
  · have hfirst : loaded.registers .r9 = wordAt cpu.memory (cpu.registers .rsp) := by
      rw [@hloaded .r9 0 (by decide +kernel), UInt64.add_zero]
    simp only [frameOf, frameAt, Function.update_of_ne, Function.update_self, ne_eq, reduceCtorEq,
      not_false_eq_true, preservedXmm]
    congr 1
    · exact @hloaded .r8 8 (by decide +kernel)
    · exact @hloaded .r10 16 (by decide +kernel)
    · exact @hloaded .rdx 24 (by decide +kernel)
    · exact @hloaded .rsi 32 (by decide +kernel)
    · exact @hloaded .rdi 40 (by decide +kernel)
    · exact @hloaded .rax 48 (by decide +kernel)
    · exact @hloaded .rcx 56 (by decide +kernel)
    · exact @hloaded .r11 64 (by decide +kernel)
    · exact @hloaded .r15 80 (by decide +kernel)
    · exact @hloaded .r14 88 (by decide +kernel)
    · exact @hloaded .r13 96 (by decide +kernel)
    · exact @hloaded .r12 104 (by decide +kernel)
    · exact @hloaded .rbp 112 (by decide +kernel)
    · exact @hloaded .rbx 120 (by decide +kernel)
    · exact funext fun index => hloaded (frameEntries_xmm index)
  · simp
  · simp

end Return

section Machine

/-- The registers of user code, with RCX and R11 where the frame of a trap has the instruction
pointer and the flags. -/
structure X64UserState where
  registers : X64SyscallFrame
  rip : UInt64
  rflags : UInt64

/-- The registers of user code on the CPU. -/
def userState (registers : X64Register → UInt64) : X64UserState :=
  ⟨frameOf registers, registers .rip, registers .rflags⟩

/-- The frame of a `syscall`. -/
def X64UserState.trap (user : X64UserState) : X64SyscallFrame :=
  { user.registers with
    rcx := user.rip
    r11 := user.rflags }

/-- User code goes on with a frame. -/
def X64UserState.resumed (frame : X64SyscallFrame) : X64UserState :=
  ⟨frame, frame.rcx, X64Code.sysretFlags frame.r11⟩

/-- The CPU in user mode, with the memory, and the runtime of the kernel. -/
structure X64TrapMachine where
  cpu : Cpu X64Register
  runtime : UserRuntime
  halted : Bool

/-- What happens to the machine. -/
inductive X64TrapEvent where
  /-- User code runs. -/
  | user (cpu : Cpu X64Register)
  /-- A syscall, by what the handler leaves in registers and memory. -/
  | syscall (returned : Cpu X64Register)

/-- Where the platform keeps what the trap code uses: the block of the CPU, the entry point, and
the top of the kernel stack of each thread. -/
structure X64TrapLayout where
  cpuLocal : UInt64
  entry : UInt64
  stackTop : ThreadRef → UInt64
  apart : ∀ t target, InRange cpuLocal 16 target →
    ¬ InRange (stackTop t - UInt64.ofNat sizeofX64SyscallFrame) sizeofX64SyscallFrame target

/-- `star_value` of `initialize_syscall_msrs`. -/
def starValue : UInt64 := (0x18 : UInt64) <<< 48 ||| (0x08 : UInt64) <<< 32
/-- What `initialize_syscall_msrs` writes to `MSR_FMASK`. -/
def fmaskValue : UInt64 := 0x200

variable (layout : X64TrapLayout)

/-- The CPU when `x64_handle_syscall` is called. -/
def X64TrapMachine.entered (machine : X64TrapMachine) : Cpu X64Register :=
  machine.cpu.run (X64Code.syscall starValue layout.entry fmaskValue ++ x64SyscallEntryCode)

/-- What `x64_handle_syscall` does with the frame that it is given. -/
def X64TrapMachine.handled (machine : X64TrapMachine) :
    Except String (Option X64SyscallFrame × UserRuntime) :=
  let entered := machine.entered layout
  x64HandleSyscall (frameAt entered.memory (entered.registers .rdi))
    { machine.runtime with memory := entered.memory }

/-- The effect of an event. -/
def X64TrapMachine.next (machine : X64TrapMachine) : X64TrapEvent → X64TrapMachine
  | .user cpu => { machine with cpu := cpu }
  | .syscall returned =>
    match machine.handled layout with
    | .error _ => { machine with halted := true }
    | .ok (none, after) => { cpu := returned, runtime := after, halted := true }
    | .ok (some _, after) =>
      { cpu := returned.run (x64SyscallReturnCode ++ X64Code.sysretq starValue)
        runtime := after
        halted := false }

/-- What the compiled handler leaves: the frame that it has loaded, its stack pointer, and in the
block of the CPU the kernel stack of the thread that `set_current_thread` has been given last. -/
structure X64TrapMachine.Returns (machine : X64TrapMachine) (returned : Cpu X64Register)
    (loaded : X64SyscallFrame) (after : UserRuntime) : Prop where
  frame : frameAt returned.memory ((machine.entered layout).registers .rdi) = loaded
  stack : returned.registers .rsp = (machine.entered layout).registers .rsp
  gsBase : returned.registers .gsBase = (machine.entered layout).registers .gsBase
  userGsBase : returned.registers .kernelGsBase = (machine.entered layout).registers .kernelGsBase
  kept : after.currentThread = machine.runtime.currentThread →
    wordAt returned.memory (layout.cpuLocal + 8) =
      wordAt (machine.entered layout).memory (layout.cpuLocal + 8)
  prepared : ∀ t, after.currentThread = some t → after.currentThread ≠ machine.runtime.currentThread →
    wordAt returned.memory (layout.cpuLocal + 8) = layout.stackTop t

/-- The current thread is about to be entered for the first time: its kernel stack stands in the
block of the CPU, and `x64_enter_user_thread` is called with its context. -/
structure X64TrapMachine.Enters (machine : X64TrapMachine) (t : ThreadRef)
    (before : Cpu X64Register) : Prop where
  current : machine.runtime.currentThread = some t
  base : before.registers .kernelGsBase = layout.cpuLocal
  top : wordAt before.memory (layout.cpuLocal + 8) = layout.stackTop t
  instructionPointer :
    before.registers .rdi = (machine.runtime.thread t).userContext.instructionPointer
  stackPointer : before.registers .rsi = (machine.runtime.thread t).userContext.stackPointer
  flags : before.registers .rdx = (machine.runtime.thread t).userContext.flags
  apart : ∀ target, InRange (layout.cpuLocal + 8) 8 target →
    ¬ InRange (before.registers .rsp - 40) 40 target

/-- The machine from the first entry of user code on. User code changes neither the base that
`swapgs` brings nor the block of the CPU. -/
def x64TrapSystem : TransitionSystem X64TrapMachine X64TrapEvent where
  init machine := machine.halted = false ∧ ∃ t before, machine.Enters layout t before ∧
    machine.cpu = before.run x64EnterUserThreadCode
  enabled machine event := machine.halted = false ∧
    match event with
    | .user cpu => cpu.registers .kernelGsBase = machine.cpu.registers .kernelGsBase ∧
        ∀ target, InRange (layout.cpuLocal + 8) 8 target →
          cpu.memory target = machine.cpu.memory target
    | .syscall returned => ∀ loaded after, machine.handled layout = .ok (some loaded, after) →
        machine.Returns layout returned loaded after
  next := X64TrapMachine.next layout

end Machine

section Runs

variable {layout : X64TrapLayout} {machine : X64TrapMachine}

theorem latch_immediate (cpu : Cpu X64Register) (value : UInt64) :
    (cpu.run [.compute .latch .latch fun _ => value]).registers .latch = value := by
  simp [Cpu.run, Transfer.apply]

/-- The first entry of user code, in ring 3 and at the start of its thread. -/
theorem x64EnterUserThread_run (before : Cpu X64Register) :
    (before.run x64EnterUserThreadCode).registers .rip = before.registers .rdi ∧
      (before.run x64EnterUserThreadCode).registers .rsp = before.registers .rsi ∧
      (before.run x64EnterUserThreadCode).registers .rflags = before.registers .rdx ∧
      (before.run x64EnterUserThreadCode).registers .cs = 0x2B ∧
      (before.run x64EnterUserThreadCode).registers .ss = 0x23 ∧
      (before.run x64EnterUserThreadCode).registers .kernelGsBase =
        before.registers .kernelGsBase ∧
      ∀ target, ¬ InRange (before.registers .rsp - 40) 40 target →
        (before.run x64EnterUserThreadCode).memory target = before.memory target := by
  have hcode : x64EnterUserThreadCode =
      [.compute .rax .rax fun value => (value &&& ~~~0xFFFF) ||| 0x23,
        .compute .gsBase .gsBase fun _ => 0] ++
      ([.compute .latch .latch fun _ => 0x23] ++ (push .rsp .latch ++
        ([X64Register.rsi, .rdx].flatMap (push .rsp) ++
          ([.compute .latch .latch fun _ => 0x2B] ++ (push .rsp .latch ++
            ([X64Register.rdi].flatMap (push .rsp) ++ X64Code.iretq)))))) := by
    simp [x64EnterUserThreadCode, X64Code.pushImmediate, X64Code.pushq]
  have hstack : X64Register.rsp ∈ [X64Register.rsp, .rax, .gsBase, .latch] := List.mem_cons_self
  have hstart := saving_nil before [.rsp, .rax, .gsBase, .latch] .rsp
  rw [hcode]
  simp only [Cpu.run_append]
  -- `before` with the scratch registers changed, as `iretq` finds it.
  have hfirst := ((hstart.clobber [.compute .rax .rax fun value => (value &&& ~~~0xFFFF) ||| 0x23,
    .compute .gsBase .gsBase fun _ => 0] (by decide) (by decide)).clobber
      [.compute .latch .latch fun _ => 0x23] (by decide) (by decide)).push hstack .latch (by decide)
        (by decide)
  rw [latch_immediate] at hfirst
  have hsecond := (hfirst.pushes hstack [.rsi, .rdx] (by decide) (by decide)).clobber
    [.compute .latch .latch fun _ => 0x2B] (by decide) (by decide)
  have hthird := hsecond.push hstack .latch (by decide) (by
    simp only [List.length_cons, List.length_nil, List.length_append, List.length_map,
      List.length_reverse]
    decide)
  rw [latch_immediate] at hthird
  have hlast := hthird.pushes hstack [.rdi] (by decide) (by
    simp only [List.length_cons, List.length_nil, List.length_append, List.length_map,
      List.length_reverse]
    decide)
  have hbottom : before.registers .rsp - 8 - UInt64.ofNat (8 * 2) - 8 - UInt64.ofNat (8 * 1) =
      before.registers .rsp - 40 := by
    rw [show UInt64.ofNat (8 * 2) = 16 from rfl, show UInt64.ofNat (8 * 1) = 8 from rfl]
    grind
  change Saving _ _ _ _ (before.registers .rsp - 8 - UInt64.ofNat (8 * 2) - 8 -
    UInt64.ofNat (8 * 1)) _ at hlast
  rw [hbottom] at hlast
  generalize Cpu.run _ ([X64Register.rdi].flatMap (push .rsp)) = saved at hlast ⊢
  change Saving _ _ _ [before.registers .rdi, 0x2B, before.registers .rdx, before.registers .rsi,
    0x23] _ _ at hlast
  have hword (i : Nat) (hi : i < 5) := hlast.stored.held i hi
  have hrun : saved.run X64Code.iretq =
      { registers := Function.update (Function.update (Function.update (Function.update
          (Function.update saved.registers .rip (before.registers .rdi)) .cs 0x2B) .rflags
          (before.registers .rdx)) .ss 0x23) .rsp (before.registers .rsi)
        memory := saved.memory } := by
    have hinstruction : wordAt saved.memory (before.registers .rsp - 40 + 0) =
        before.registers .rdi := hword 0 (by decide)
    have hcodeSelector : wordAt saved.memory (before.registers .rsp - 40 + 8) = 0x2B :=
      hword 1 (by decide)
    have hflags : wordAt saved.memory (before.registers .rsp - 40 + 16) =
        before.registers .rdx := hword 2 (by decide)
    have huser : wordAt saved.memory (before.registers .rsp - 40 + 24) =
        before.registers .rsi := hword 3 (by decide)
    have hstackSelector : wordAt saved.memory (before.registers .rsp - 40 + 32) = 0x23 :=
      hword 4 (by decide)
    simp only [X64Code.iretq, Cpu.run, List.foldl_cons, List.foldl_nil, Transfer.apply, Cpu.set,
      Function.update_of_ne, ne_eq, reduceCtorEq, not_false_eq_true, hlast.pointer, hinstruction,
      hcodeSelector, hflags, huser, hstackSelector]
  have hbase : saved.registers .kernelGsBase = before.registers .kernelGsBase :=
    hlast.registers _ (by decide)
  have houtside := hlast.stored.outside
  simp only [List.length_cons, List.length_nil] at houtside
  rw [hrun]
  refine ⟨?_, ?_, ?_, ?_, ?_, ?_, houtside⟩
  all_goals simp only [Function.update_of_ne, Function.update_self, ne_eq, reduceCtorEq,
    not_false_eq_true, hbase]

theorem X64Code.frameOf_syscall (cpu : Cpu X64Register) :
    frameOf (cpu.run (X64Code.syscall starValue layout.entry fmaskValue)).registers =
        (userState cpu.registers).trap ∧
      (cpu.run (X64Code.syscall starValue layout.entry fmaskValue)).registers .gsBase =
        cpu.registers .gsBase ∧
      (cpu.run (X64Code.syscall starValue layout.entry fmaskValue)).registers .kernelGsBase =
        cpu.registers .kernelGsBase ∧
      (cpu.run (X64Code.syscall starValue layout.entry fmaskValue)).memory = cpu.memory := by
  refine ⟨?_, Cpu.run_register _ (by simp [X64Code.syscall, Transfer.writes]),
    Cpu.run_register _ (by simp [X64Code.syscall, Transfer.writes]), rfl⟩
  simp only [X64Code.syscall, Cpu.run, List.foldl_cons, List.foldl_nil, Transfer.apply, Cpu.set,
    frameOf, preservedXmm, userState, X64UserState.trap, Function.update_of_ne,
    Function.update_self, ne_eq, reduceCtorEq, not_false_eq_true, id]

theorem userState_sysretq (cpu : Cpu X64Register) :
    userState (cpu.run (X64Code.sysretq starValue)).registers =
        .resumed (frameOf cpu.registers) ∧
      (cpu.run (X64Code.sysretq starValue)).registers .gsBase = cpu.registers .gsBase ∧
      (cpu.run (X64Code.sysretq starValue)).registers .kernelGsBase =
        cpu.registers .kernelGsBase ∧
      (cpu.run (X64Code.sysretq starValue)).registers .cs = 0x2B ∧
      (cpu.run (X64Code.sysretq starValue)).registers .ss = 0x23 ∧
      (cpu.run (X64Code.sysretq starValue)).memory = cpu.memory := by
  have hcode : (((starValue >>> 48) + 16) ||| 3) = 0x2B := by decide
  have hstack : (((starValue >>> 48) + 8) ||| 3) = 0x23 := by decide
  have hselectors : (cpu.run (X64Code.sysretq starValue)).registers .cs =
        (((starValue >>> 48) + 16) ||| 3) ∧
      (cpu.run (X64Code.sysretq starValue)).registers .ss =
        (((starValue >>> 48) + 8) ||| 3) := by
    simp [X64Code.sysretq, Cpu.run, Transfer.apply]
  refine ⟨?_, Cpu.run_register _ (by simp [X64Code.sysretq, Transfer.writes]),
    Cpu.run_register _ (by simp [X64Code.sysretq, Transfer.writes]),
    hselectors.1.trans hcode, hselectors.2.trans hstack, rfl⟩
  simp only [X64Code.sysretq, Cpu.run, List.foldl_cons, List.foldl_nil, Transfer.apply, Cpu.set,
    frameOf, preservedXmm, userState, X64UserState.resumed, Function.update_of_ne,
    Function.update_self, ne_eq, reduceCtorEq, not_false_eq_true, id]

/-- Whenever user code runs, the trap code finds the kernel stack of the current thread. -/
structure X64TrapMachine.Ready (layout : X64TrapLayout) (machine : X64TrapMachine) (t : ThreadRef) :
    Prop where
  current : machine.runtime.currentThread = some t
  base : machine.cpu.registers .kernelGsBase = layout.cpuLocal
  top : wordAt machine.cpu.memory (layout.cpuLocal + 8) = layout.stackTop t

/-- What a trap of the machine does. -/
structure X64TrapMachine.Traps (layout : X64TrapLayout) (machine : X64TrapMachine) : Prop where
  /-- The handler is given the registers of user code, over a memory that differs in the block of
  the CPU and on the kernel stack of the current thread only. -/
  handled : ∃ t stacked, machine.runtime.currentThread = some t ∧
    (∀ target, ¬ InRange layout.cpuLocal 8 target →
      ¬ InRange (layout.stackTop t - UInt64.ofNat sizeofX64SyscallFrame) sizeofX64SyscallFrame
        target → stacked target = machine.cpu.memory target) ∧
    machine.handled layout = x64HandleSyscall (userState machine.cpu.registers).trap
      { machine.runtime with memory := stacked }
  /-- User code goes on with the frame that the handler has loaded, in ring 3, and with its own
  base of GS. -/
  resumed : ∀ returned, (x64TrapSystem layout).enabled machine (.syscall returned) →
    ∀ loaded after, machine.handled layout = .ok (some loaded, after) →
      userState (machine.next layout (.syscall returned)).cpu.registers = .resumed loaded ∧
      (machine.next layout (.syscall returned)).cpu.registers .cs = 0x2B ∧
      (machine.next layout (.syscall returned)).cpu.registers .ss = 0x23 ∧
      (machine.next layout (.syscall returned)).cpu.registers .gsBase =
        machine.cpu.registers .gsBase ∧
      (machine.next layout (.syscall returned)).cpu.memory = returned.memory

/-- The entry code of a machine that is ready. -/
theorem X64TrapMachine.Ready.called {t : ThreadRef} (h : machine.Ready layout t) :
    ∃ trapped : Cpu X64Register, frameOf trapped.registers = (userState machine.cpu.registers).trap ∧
      trapped.registers .gsBase = machine.cpu.registers .gsBase ∧
      trapped.memory = machine.cpu.memory ∧
      HandlerCalled layout.cpuLocal (layout.stackTop t) trapped (machine.entered layout) := by
  obtain ⟨hframe, hgs, hkernelGs, hmemory⟩ := @X64Code.frameOf_syscall layout machine.cpu
  refine ⟨_, hframe, hgs, hmemory, ?_⟩
  rw [X64TrapMachine.entered, Cpu.run_append]
  exact x64SyscallEntry_run ⟨hkernelGs.trans h.base, by rw [hmemory, h.top], layout.apart t⟩

theorem X64TrapMachine.Ready.traps {t : ThreadRef} (h : machine.Ready layout t) :
    machine.Traps layout := by
  obtain ⟨trapped, hframe, hgs, hmemory, hcalled⟩ := h.called
  refine ⟨⟨t, (machine.entered layout).memory, h.current, fun target hslot hblock => ?_, ?_⟩,
    fun returned henabled loaded after hhandled => ?_⟩
  · rw [hcalled.memory target hslot hblock, hmemory]
  · rw [X64TrapMachine.handled, hcalled.frame, hframe]
  · have hreturns := henabled.2 loaded after hhandled
    have hnext : (machine.next layout (.syscall returned)).cpu =
        (returned.run x64SyscallReturnCode).run (X64Code.sysretq starValue) := by
      simp only [X64TrapMachine.next, hhandled, Cpu.run_append]
    obtain ⟨hloaded, hbase, -, hkept⟩ := x64SyscallReturn_run returned
    obtain ⟨huser, hgsBase, -, hcs, hss, hlast⟩ :=
      userState_sysretq (returned.run x64SyscallReturnCode)
    rw [hnext]
    refine ⟨?_, hcs, hss, ?_, hlast.trans hkept⟩
    · rw [huser, hloaded, hreturns.stack, hcalled.stack, hreturns.frame]
    · rw [hgsBase, hbase, hreturns.userGsBase, hcalled.userGsBase, hgs]

/-- A thread is current when its frame is loaded. -/
theorem x64Resume_loaded {active : ThreadRef} {status : Int32} {runtime after : UserRuntime}
    {loaded : X64SyscallFrame} (h : x64Resume active status runtime = (some loaded, after)) :
    ∃ t, after.currentThread = some t := by
  have hsame := x64Resume_currentThread active status runtime
  rw [h] at hsame
  unfold x64Resume at h
  split at h
  · cases h
  split at h
  · cases h
  · next resumed hresumed => exact ⟨resumed, hsame.trans hresumed⟩

theorem x64HandleSyscall_loaded {frame loaded : X64SyscallFrame} {runtime after : UserRuntime}
    (h : x64HandleSyscall frame runtime = .ok (some loaded, after)) :
    ∃ t, after.currentThread = some t := by
  unfold x64HandleSyscall at h
  cases hcurrent : runtime.currentThread with
  | none =>
    rw [hcurrent] at h
    cases h
  | some active =>
    rw [hcurrent] at h
    exact x64Resume_loaded (Except.ok.inj h)

/-- Every event leaves the machine ready, unless it halts. -/
theorem X64TrapMachine.Ready.next {t : ThreadRef} (h : machine.Ready layout t)
    {event : X64TrapEvent} (henabled : (x64TrapSystem layout).enabled machine event)
    (hrunning : (machine.next layout event).halted = false) :
    ∃ t', (machine.next layout event).Ready layout t' := by
  cases event with
  | user cpu =>
    obtain ⟨-, hbase, hslot⟩ := henabled
    exact ⟨t, h.current, hbase.trans h.base, (wordAt_congr hslot).trans h.top⟩
  | syscall returned =>
    cases hhandled : machine.handled layout with
    | error text =>
      simp only [X64TrapMachine.next, hhandled] at hrunning
      cases hrunning
    | ok result =>
      obtain ⟨loaded, after⟩ := result
      cases loaded with
      | none =>
        simp only [X64TrapMachine.next, hhandled] at hrunning
        cases hrunning
      | some loaded =>
        have hreturns := henabled.2 loaded after hhandled
        obtain ⟨trapped, -, -, hmemory, hcalled⟩ := h.called
        obtain ⟨t', hcurrent⟩ := x64HandleSyscall_loaded hhandled
        obtain ⟨-, -, hbase, hkept⟩ := x64SyscallReturn_run returned
        obtain ⟨-, -, hkernelGs, -, -, hlast⟩ :=
          userState_sysretq (returned.run x64SyscallReturnCode)
        have hnext : machine.next layout (.syscall returned) =
            { cpu := (returned.run x64SyscallReturnCode).run (X64Code.sysretq starValue)
              runtime := after
              halted := false } := by
          simp only [X64TrapMachine.next, hhandled, Cpu.run_append]
        rw [hnext]
        refine ⟨t', hcurrent, ?_, ?_⟩
        · exact (hkernelGs.trans hbase).trans (hreturns.gsBase.trans hcalled.gsBase)
        · dsimp only
          rw [hlast, hkept]
          by_cases hsame : after.currentThread = machine.runtime.currentThread
          · obtain rfl : t = t' := Option.some.inj (h.current.symm.trans (hsame.symm.trans hcurrent))
            rw [hreturns.kept hsame, ← h.top]
            refine wordAt_congr fun target hin => ?_
            have hblock : InRange layout.cpuLocal 16 target := hin.within (by decide) (by decide)
            rw [hcalled.memory target (@not_inRange_behind layout.cpuLocal 8 8 target (by decide) hin)
              (layout.apart t target hblock), hmemory]
          · exact hreturns.prepared t' hcurrent hsame

theorem reachable_ready (h : (x64TrapSystem layout).Reachable TransitionSystem.anyStep machine) :
    machine.halted = false → ∃ t, machine.Ready layout t := by
  refine h.invariant (P := fun s => s.halted = false → ∃ t, s.Ready layout t)
    (fun s hinit _ => ?_) fun s event _ hs henabled _ hrunning => ?_
  · obtain ⟨-, t, before, henters, hcpu⟩ := hinit
    obtain ⟨-, -, -, -, -, hbase, hkept⟩ := x64EnterUserThread_run before
    refine ⟨t, henters.current, ?_, ?_⟩
    · rw [hcpu, hbase, henters.base]
    · rw [hcpu, ← henters.top]
      exact wordAt_congr fun target hin => hkept target (henters.apart target hin)
  · obtain ⟨t, hready⟩ := hs henabled.1
    exact hready.next henabled hrunning

/-- In every run the handler sees the registers of user code, and user code goes on with the frame
that the handler has loaded. -/
theorem reachable_traps (h : (x64TrapSystem layout).Reachable TransitionSystem.anyStep machine)
    (hrunning : machine.halted = false) : machine.Traps layout := by
  obtain ⟨t, hready⟩ := reachable_ready h hrunning
  exact hready.traps

/-- A platform at 1 MiB, with the kernel stacks behind it. -/
def sampleTrapLayout : X64TrapLayout where
  cpuLocal := 0x11E000
  entry := 0x180000
  stackTop t := 0x200000 + UInt64.ofNat (4096 * t.val)
  apart t target hslot hblock := by
    have ht := t.isLt
    have hmax : maxThreads = 4 := rfl
    have hstack : ((0x200000 : UInt64) + UInt64.ofNat (4096 * t.val) -
        UInt64.ofNat sizeofX64SyscallFrame).toNat = 0x200000 + 4096 * t.val - 288 := by
      have hoffset : (UInt64.ofNat (4096 * t.val)).toNat = 4096 * t.val :=
        UInt64.toNat_ofNat_of_lt' (by show 4096 * t.val < 2 ^ 64; omega)
      rw [UInt64.toNat_sub, UInt64.toNat_add, hoffset,
        show (UInt64.ofNat sizeofX64SyscallFrame).toNat = 288 from rfl,
        show (0x200000 : UInt64).toNat = 0x200000 from rfl]
      omega
    obtain ⟨first, hfirst, htarget⟩ := hslot.toNat_eq (by decide)
    obtain ⟨second, -, hother⟩ := hblock.toNat_eq (by
      rw [hstack, show sizeofX64SyscallFrame = 288 from rfl]
      omega)
    rw [hstack] at hother
    rw [show (0x11E000 : UInt64).toNat = 0x11E000 from rfl] at htarget
    omega

/-- The first thread of the machine that boots there traps. -/
theorem reachable_traps_tenPageImage :
    ∃ machine, (x64TrapSystem sampleTrapLayout).Reachable TransitionSystem.anyStep machine ∧
      machine.halted = false ∧ machine.Traps sampleTrapLayout := by
  obtain ⟨booted, -, -, hcurrent, -⟩ := tenPageImage_boots
  let context := (booted.runtime.thread 0).userContext
  let before : Cpu X64Register :=
    { registers := fun
        | .rdi => context.instructionPointer
        | .rsi => context.stackPointer
        | .rdx => context.flags
        | .kernelGsBase => 0x11E000
        | .rsp => 0x300000
        | _ => 0
      memory := storeWord booted.runtime.memory 0x11E008 0x200000 }
  let machine : X64TrapMachine := ⟨before.run x64EnterUserThreadCode, booted.runtime, false⟩
  have hreachable : (x64TrapSystem sampleTrapLayout).Reachable TransitionSystem.anyStep machine := by
    refine .init ⟨rfl, 0, before, ⟨hcurrent, rfl, wordAt_storeWord, rfl, rfl, rfl, ?_⟩, rfl⟩
    intro target hslot hblock
    obtain ⟨first, hfirst, htarget⟩ := hslot.toNat_eq (by decide)
    obtain ⟨second, hsecond, hother⟩ :=
      hblock.toNat_eq (show ((0x300000 : UInt64) - 40).toNat + 40 ≤ 2 ^ 64 by decide)
    have hleft : ((0x11E000 : UInt64) + 8).toNat = 0x11E008 := by decide
    have hright : ((0x300000 : UInt64) - 40).toNat = 0x300000 - 40 := by decide
    change target.toNat = ((0x11E000 : UInt64) + 8).toNat + first at htarget
    change target.toNat = ((0x300000 : UInt64) - 40).toNat + second at hother
    omega
  exact ⟨machine, hreachable, rfl, reachable_traps hreachable rfl⟩

end Runs

end Ringos.Arch
