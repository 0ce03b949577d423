import Ringos.Emulator.Outcomes
import Ringos.Emulator.Faults
import Ringos.Image.ImportBinding

/-!
# Calls of Windows imports in the emulator

The stub of an import is four instructions. The interpreter decodes them as the
resolver has encoded them: the first argument goes from RCX to RDI, the number of
the syscall to RAX, the callback runs once, and the return address is popped.
-/

namespace Ringos.Emulator

open Ringos.Core Ringos.Image
open Exec

variable {σ : Type}

/-- `X64_GENERAL_REGISTER_RCX`. -/
def rcx : UInt32 := 1

/-- The byte is no prefix. -/
def IsPlain (opcode : UInt8) : Prop :=
  opcode ≠ 0x66 ∧ opcode ≠ 0xF2 ∧ opcode ≠ 0xF3 ∧ opcode ≠ 0x2E ∧ opcode &&& 0xF0 ≠ 0x40

instance (opcode : UInt8) : Decidable (IsPlain opcode) := inferInstanceAs (Decidable (_ ∧ _))

section Fetching

theorem applyPrefix_eq_none {instruction : DecodedInstruction} (h : IsPlain instruction.opcode) :
    instruction.applyPrefix = none := by
  obtain ⟨h66, hF2, hF3, h2E, hrex⟩ := h
  rw [DecodedInstruction.applyPrefix, if_neg h66, if_neg hF2, if_neg hF3, if_neg h2E, if_neg hrex]

variable {machine : Machine σ} {opcode : UInt8} {callbacks : Callbacks σ}

/-- An instruction without prefixes. -/
theorem fetchInstruction_plain
    (hopcode : machine.byteAt machine.state.instructionPointer = some opcode)
    (hplain : IsPlain opcode) :
    machine.fetchInstruction = some
      { DecodedInstruction.initial machine.state.instructionPointer with
        opcode := opcode
        nextAddress := machine.state.instructionPointer + 1 } := by
  have hinside := Machine.offset_lt_of_byteAt hopcode
  obtain ⟨fuel, hfuel⟩ : ∃ fuel, machine.memory.size.toNat = fuel + 1 :=
    Nat.exists_eq_add_one_of_ne_zero (by omega)
  rw [Machine.fetchInstruction, hopcode, hfuel, Option.bind_some, Machine.decodeFrom,
    applyPrefix_eq_none hplain]
  rfl

/-- An instruction behind one prefix byte. -/
theorem fetchInstruction_prefixed {prefixed : DecodedInstruction} {byte : UInt8}
    (hbyte : machine.byteAt machine.state.instructionPointer = some byte)
    (hprefixed : ({ DecodedInstruction.initial machine.state.instructionPointer with
      opcode := byte } : DecodedInstruction).applyPrefix = some prefixed)
    (hopcode : machine.byteAt (machine.state.instructionPointer + 1) = some opcode)
    (hplain : IsPlain opcode) :
    machine.fetchInstruction = some
      { prefixed with
        opcodeAddress := machine.state.instructionPointer + 1
        opcode := opcode
        nextAddress := machine.state.instructionPointer + 1 + 1 } := by
  have haddress := applyPrefix_opcodeAddress hprefixed
  have hinside := Machine.offset_lt_of_byteAt hbyte
  have hnext := Machine.offset_lt_of_byteAt hopcode
  rw [offset_succ hinside] at hnext
  obtain ⟨fuel, hfuel⟩ : ∃ fuel, machine.memory.size.toNat = fuel + 2 :=
    Nat.exists_eq_add_of_le' (by omega)
  rw [Machine.fetchInstruction, hbyte, hfuel, Option.bind_some, Machine.decodeFrom, hprefixed]
  simp only [haddress, DecodedInstruction.initial]
  rw [hopcode, Option.bind_some, Machine.decodeFrom, applyPrefix_eq_none hplain]
  rfl

/-- Where the instruction that is fetched leads. -/
theorem interpretInstruction_leads (hbytes : machine.memory.bytes ≠ 0)
    {instruction : DecodedInstruction} {Q : InstructionOutcome → Machine σ → Prop} {fails : Prop}
    (hfetch : machine.fetchInstruction = some instruction)
    (h : Leads machine (dispatch callbacks instruction) Q fails) :
    Leads machine (interpretInstruction callbacks) Q fails := by
  refine .bind (Denotes.leads (fun _ hstart => hstart ▸ decodeX64Instruction_denotes
    (hstart ▸ hbytes)) (fun decoded hdecoded => ?_) fun hnone => ?_)
  · obtain rfl : instruction = decoded := Option.some.inj (hfetch.symm.trans hdecoded)
    exact .bind (h.mono fun _ next hnext => .bind (setResult_leads (.pure hnext)))
  · rw [hfetch] at hnone
    cases hnone

end Fetching

/-- The callback is called once, with the state of the machine. -/
theorem callHandler_leads {machine : Machine σ} {callbacks : Callbacks σ}
    {handleSyscall : EmulatorState → ByteMemory → σ → SyscallResult × ByteMemory × σ}
    (hhandle : callbacks.handleSyscall = some handleSyscall) {answer : SyscallResult}
    {host : ByteMemory} {world : σ}
    (hcall : handleSyscall machine.state machine.host machine.world = (answer, host, world))
    {Q : SyscallResult → Machine σ → Prop} {fails : Prop}
    (h : Q answer { machine with host := host, world := world }) :
    Leads machine (callHandler callbacks) Q fails := by
  rintro context rfl
  have hrun : callHandler callbacks context = (some answer,
      { context with machine := { context.machine with host := host, world := world } }) := by
    rw [callHandler, hhandle]
    simp only [hcall]
  rw [hrun]
  constructor
  · rintro _ _ ⟨⟩
    exact h
  · intro _ heq
    cases heq

/-- A syscall: the callback is called with the instruction pointer behind it, and its status goes
to RAX. -/
theorem syscall_leads {machine : Machine σ} {callbacks : Callbacks σ}
    {instruction : DecodedInstruction} (hbytes : machine.memory.bytes ≠ 0)
    (hfetch : machine.fetchInstruction = some instruction)
    (hsyscall : machine.isSyscall instruction = true)
    {handleSyscall : EmulatorState → ByteMemory → σ → SyscallResult × ByteMemory × σ}
    (hhandle : callbacks.handleSyscall = some handleSyscall) {answer : SyscallResult}
    {host : ByteMemory} {world : σ}
    (hcall : handleSyscall (machine.jumpTo (instruction.nextAddress + 1)).state machine.host
      machine.world = (answer, host, world)) :
    Leads machine (interpretInstruction callbacks)
      (fun outcome next =>
        outcome = (if answer.action = .continueRun then .continueRunning else .retireAndStop) ∧
        next = { machine.jumpTo (instruction.nextAddress + 1) with
          host := host, world := world }.setRegister rax answer.status.toInt64.toUInt64) False := by
  simp only [Machine.isSyscall, Bool.and_eq_true, beq_iff_eq, Bool.not_eq_true'] at hsyscall
  obtain ⟨⟨hopcode, hrex⟩, hsecondary⟩ := hsyscall
  refine interpretInstruction_leads hbytes hfetch (.bind (setResult_leads ?_))
  rw [if_pos hopcode, dispatchSecondaryOpcode, if_neg (by rw [hrex]; decide)]
  refine .bind (.onFailure (readU8_leads hbytes (fun secondaryOpcode hbyte => ?_) fun hnone => ?_))
  · rw [show secondaryOpcode = 0x05 from Option.some.inj (hbyte.symm.trans hsecondary)]
    refine .bind (setResult_leads ?_)
    show Leads machine (executeX64Syscall callbacks _) _ _
    refine .bind (setMachine_leads (.bind (callHandler_leads hhandle hcall
      (.bind (setRegister64_leads ?_)))))
    cases haction : answer.action with
    | continueRun => exact .pure ⟨rfl, rfl⟩
    | yield => exact .bind (setResult_leads (.pure ⟨rfl, rfl⟩))
    | exitThread => exact .bind (setResult_leads (.pure ⟨rfl, rfl⟩))
  · exact absurd (hnone.symm.trans hsecondary) (by simp)

/-- The stub for a syscall lies at an address. -/
structure Machine.HoldsStub (machine : Machine σ) (stub : UInt64) (number : UInt32) : Prop where
  rexW : machine.byteAt stub = some 0x48
  move : machine.byteAt (stub + 1) = some 0x89
  registers : machine.byteAt (stub + 2) = some 0xCF
  load : machine.byteAt (stub + 3) = some 0xB8
  number : machine.wordAt (stub + 4) = some number
  secondary : machine.byteAt (stub + 8) = some 0x0F
  syscall : machine.byteAt (stub + 9) = some 0x05
  returns : machine.byteAt (stub + 10) = some 0xC3

section Stub

variable {machine : Machine σ} (callbacks : Callbacks σ) {stub : UInt64} {number : UInt32}
  (hbytes : machine.memory.bytes ≠ 0) (hstub : machine.HoldsStub stub number)

include hbytes hstub

/-- `mov rdi, rcx`. -/
theorem stubMove_leads (hpointer : machine.state.instructionPointer = stub) :
    Leads machine (interpretInstruction callbacks)
      (fun outcome next => outcome = .continueRunning ∧
        next = (machine.setRegister rdi (machine.register rcx)).jumpTo (stub + 3)) False := by
  subst hpointer
  have hprefixed : ({ DecodedInstruction.initial machine.state.instructionPointer with
      opcode := 0x48 } : DecodedInstruction).applyPrefix = some
        { DecodedInstruction.initial machine.state.instructionPointer with
          opcode := 0x48
          rexW := true } := by
    simp [DecodedInstruction.applyPrefix, DecodedInstruction.initial]
    decide
  have hfetch := fetchInstruction_prefixed hstub.rexW hprefixed hstub.move (by decide)
  have haddress : machine.state.instructionPointer + 1 + 1 =
      machine.state.instructionPointer + 2 := by
    rw [UInt64.add_assoc]
    rfl
  rw [haddress] at hfetch
  refine interpretInstruction_leads hbytes hfetch (.bind (setResult_leads ?_))
  refine .bind (.orInvalidMemory (readU8_leads hbytes (fun modrm hmodrm => ?_) fun hnone => ?_))
  · rw [show modrm = 0xCF from Option.some.inj (hmodrm.symm.trans hstub.registers)]
    refine .bind (.bind (getRegister64_leads (setRegister64_leads (continueAt_leads ⟨rfl, ?_⟩))))
    show (machine.setRegister rdi (machine.register rcx)).jumpTo
      (machine.state.instructionPointer + 2 + 1) = _
    rw [UInt64.add_assoc]
    rfl
  · exact absurd (hnone.symm.trans hstub.registers) (by simp)

/-- `mov eax, number`. -/
theorem stubLoad_leads (hpointer : machine.state.instructionPointer = stub + 3) :
    Leads machine (interpretInstruction callbacks)
      (fun outcome next => outcome = .continueRunning ∧
        next = (machine.setRegister rax number.toUInt64).jumpTo (stub + 8)) False := by
  have hfetch := fetchInstruction_plain (hpointer ▸ hstub.load) (by decide)
  rw [hpointer, UInt64.add_assoc] at hfetch
  refine interpretInstruction_leads hbytes hfetch (.bind (setResult_leads ?_))
  refine .bind (.pure (.bind (.orInvalidMemory (readU32_leads hbytes (fun immediate hword => ?_)
    fun hnone => ?_))))
  · rw [show immediate = number from Option.some.inj (hword.symm.trans hstub.number)]
    refine .bind (setRegister32_leads (continueAt_leads ⟨rfl, ?_⟩))
    have hindex : ((0xB8 : UInt8).toUInt32 - 0xB8 + if false = true then 8 else 0) = rax := by
      decide
    show (machine.setRegister ((0xB8 : UInt8).toUInt32 - 0xB8 + if false = true then 8 else 0)
      number.toUInt64).jumpTo (stub + (3 + 1) + 4) = _
    rw [hindex, UInt64.add_assoc]
    rfl
  · exact absurd (hnone.symm.trans hstub.number) (by simp)

/-- The machine in which the callback is called: the instruction pointer is behind the syscall. -/
def Machine.trapped (machine : Machine σ) (stub : UInt64) : Machine σ := machine.jumpTo (stub + 10)

/-- `syscall`. -/
theorem stubSyscall_leads (hpointer : machine.state.instructionPointer = stub + 8)
    {handleSyscall : EmulatorState → ByteMemory → σ → SyscallResult × ByteMemory × σ}
    (hhandle : callbacks.handleSyscall = some handleSyscall) {answer : SyscallResult}
    {host : ByteMemory} {world : σ}
    (hcall : handleSyscall (machine.trapped stub).state machine.host machine.world =
      (answer, host, world)) :
    Leads machine (interpretInstruction callbacks)
      (fun outcome next =>
        outcome = (if answer.action = .continueRun then .continueRunning else .retireAndStop) ∧
        next = { machine.trapped stub with host := host, world := world }.setRegister rax
          answer.status.toInt64.toUInt64) False := by
  have hfetch := fetchInstruction_plain (hpointer ▸ hstub.secondary) (by decide)
  rw [hpointer, UInt64.add_assoc] at hfetch
  have haddress : machine.trapped stub = machine.jumpTo (stub + (8 + 1) + 1) := by
    rw [UInt64.add_assoc]
    rfl
  rw [haddress] at hcall ⊢
  refine syscall_leads hbytes hfetch ?_ hhandle hcall
  simp [Machine.isSyscall, DecodedInstruction.initial, hstub.syscall]

omit hstub in
/-- `ret`. -/
theorem stubReturn_leads (hpointer : machine.state.instructionPointer = stub + 10)
    (hcode : machine.byteAt (stub + 10) = some 0xC3) {returnAddress : UInt64}
    (hreturn : machine.quadAt (machine.register rsp) = some returnAddress) :
    Leads machine (interpretInstruction callbacks)
      (fun outcome next => outcome = .continueRunning ∧
        next = (machine.setRegister rsp (machine.register rsp + 8)).jumpTo returnAddress)
      False := by
  have hfetch := fetchInstruction_plain (hpointer ▸ hcode) (by decide)
  refine interpretInstruction_leads hbytes hfetch (.bind (setResult_leads ?_))
  refine .bind (.pure (.bind (.orInvalidMemory (.bind (getRegister64_leads (.bind
    (readU64_leads hbytes (fun value hvalue => ?_) fun hnone => ?_)))))))
  · rw [show value = returnAddress from Option.some.inj (hvalue.symm.trans hreturn)]
    exact .bind (setRegister64_leads (.pure (continueAt_leads ⟨rfl, rfl⟩)))
  · exact absurd (hnone.symm.trans hreturn) (by simp)

end Stub

/-- The machine with other guest memory and another callback state behind it. -/
def Machine.withHost (machine : Machine σ) (host : ByteMemory) (world : σ) : Machine σ :=
  { machine with host := host, world := world }

theorem Machine.withHost_self (machine : Machine σ) :
    machine.withHost machine.host machine.world = machine := rfl

/-- The guest region holds the same bytes in two host memories. -/
def EmulatorMemory.Agree (memory : EmulatorMemory) (host host' : ByteMemory) : Prop :=
  ∀ address, InRange memory.bytes memory.size.toNat address → host' address = host address

/-- Guest bytes depend on the guest region only. -/
theorem bytesAt_withHost {machine : Machine σ} {host : ByteMemory} {world : σ}
    (h : machine.memory.Agree machine.host host) (guestAddress : UInt64) (length : Nat) :
    (machine.withHost host world).bytesAt guestAddress length =
      machine.bytesAt guestAddress length := by
  unfold Machine.bytesAt
  show (machine.memory.offsetOf guestAddress length).map _ = _
  refine Option.map_congr fun offset hoffset => ?_
  obtain ⟨rfl, hbound⟩ := EmulatorMemory.offsetOf_bound hoffset
  have hsize := machine.memory.size.toNat_lt
  refine loadBytes_congr (by omega) fun address hin => h address (hin.within hbound (by omega))

/-- The stub stays where the guest bytes stay. -/
theorem Machine.HoldsStub.congr {machine other : Machine σ} {stub : UInt64} {number : UInt32}
    (hstub : machine.HoldsStub stub number)
    (h : ∀ guestAddress length, other.bytesAt guestAddress length =
      machine.bytesAt guestAddress length) : other.HoldsStub stub number := by
  have hbyte (guestAddress : UInt64) : other.byteAt guestAddress = machine.byteAt guestAddress := by
    rw [byteAt, h]
    rfl
  have hword (guestAddress : UInt64) : other.wordAt guestAddress = machine.wordAt guestAddress := by
    rw [wordAt, h]
    rfl
  exact
    { rexW := (hbyte _).trans hstub.rexW
      move := (hbyte _).trans hstub.move
      registers := (hbyte _).trans hstub.registers
      load := (hbyte _).trans hstub.load
      number := (hword _).trans hstub.number
      secondary := (hbyte _).trans hstub.secondary
      syscall := (hbyte _).trans hstub.syscall
      returns := (hbyte _).trans hstub.returns }

/-- The later of two writes to a register stands. -/
theorem setRegister_twice (machine : Machine σ) (index : UInt32) (first second : UInt64) :
    (machine.setRegister index first).setRegister index second =
      machine.setRegister index second := by
  simp only [Machine.setRegister, Machine.mapState, Vector.setIfInBounds_setIfInBounds]

/-- The machine in which the stub of the instruction pointer traps. -/
def Machine.importTrapped (machine : Machine σ) (number : UInt32) : Machine σ :=
  ((machine.setRegister rdi (machine.register rcx)).setRegister rax number.toUInt64).jumpTo
    (machine.state.instructionPointer + 10)

/-- The machine behind the return of the stub. -/
def Machine.importReturned (machine : Machine σ) (status : Int32) (returnAddress : UInt64)
    (host : ByteMemory) (world : σ) : Machine σ :=
  ((((machine.setRegister rdi (machine.register rcx)).setRegister rax
    status.toInt64.toUInt64).setRegister rsp (machine.register rsp + 8)).jumpTo
      returnAddress).withHost host world

/-- A callback leaves the machine what it needs to return from the stub: the last instruction and the
return address. -/
structure Machine.LeavesReturn (machine : Machine σ) (host : ByteMemory) (returnAddress : UInt64) :
    Prop where
  code : (machine.withHost host machine.world).byteAt
    (machine.state.instructionPointer + 10) = some 0xC3
  address : (machine.withHost host machine.world).quadAt (machine.register rsp) = some returnAddress

/-- So does one that leaves the guest region alone. -/
theorem Machine.leavesReturn_of_agree {machine : Machine σ} {number : UInt32} {host : ByteMemory}
    (hstub : machine.HoldsStub machine.state.instructionPointer number)
    (hagree : machine.memory.Agree machine.host host) {returnAddress : UInt64}
    (hreturn : machine.quadAt (machine.register rsp) = some returnAddress) :
    machine.LeavesReturn host returnAddress := by
  refine ⟨(hstub.congr fun _ _ => bytesAt_withHost hagree _ _).returns, ?_⟩
  rw [Machine.quadAt, bytesAt_withHost hagree]
  exact hreturn

section Calls

variable {callbacks : Callbacks σ} {start : ExecutionContext σ} {number : UInt32}
  (hbytes : start.machine.memory.bytes ≠ 0)
  (hstub : start.machine.HoldsStub start.machine.state.instructionPointer number)
  {handleSyscall : EmulatorState → ByteMemory → σ → SyscallResult × ByteMemory × σ}
  (hhandle : callbacks.handleSyscall = some handleSyscall) {answer : SyscallResult}
  {host : ByteMemory} {world : σ}
  (hcall : handleSyscall (start.machine.importTrapped number).state start.machine.host
    start.machine.world = (answer, host, world))

include hbytes hstub hhandle hcall

/-- Two instructions lead to the syscall, whose callback decides how to go on. -/
theorem stub_calls : ∃ middle next, retire callbacks 2 start = some middle ∧
    interpretInstruction callbacks middle =
      (some (if answer.action = .continueRun then .continueRunning else .retireAndStop), next) ∧
    next.machine = ((start.machine.importTrapped number).withHost host world).setRegister rax
      answer.status.toInt64.toUInt64 := by
  obtain ⟨outcome, first, hfirst, rfl, hmachine⟩ :=
    (stubMove_leads callbacks hbytes hstub rfl).returns
  have hbytes1 : first.machine.memory.bytes ≠ 0 := by rw [hmachine]; exact hbytes
  have hstub1 : first.machine.HoldsStub start.machine.state.instructionPointer number := by
    rw [hmachine]
    exact hstub.congr fun _ _ => rfl
  obtain ⟨outcome, second, hsecond, rfl, hmachine'⟩ :=
    (stubLoad_leads callbacks hbytes1 hstub1 (by rw [hmachine]; rfl)).returns
  have hbytes2 : second.machine.memory.bytes ≠ 0 := by rw [hmachine']; exact hbytes1
  have hstub2 : second.machine.HoldsStub start.machine.state.instructionPointer number := by
    rw [hmachine']
    exact hstub1.congr fun _ _ => rfl
  have htrapped : second.machine.trapped start.machine.state.instructionPointer =
      start.machine.importTrapped number := by
    rw [hmachine', hmachine]
    rfl
  have hcall' : handleSyscall (second.machine.trapped
      start.machine.state.instructionPointer).state second.machine.host second.machine.world =
        (answer, host, world) := by
    rw [htrapped, hmachine', hmachine]
    exact hcall
  obtain ⟨outcome, next, hnext, rfl, hmachine''⟩ :=
    (stubSyscall_leads callbacks hbytes2 hstub2 (by rw [hmachine']; rfl) hhandle hcall').returns
  refine ⟨second, next, ?_, hnext, ?_⟩
  · simp only [retire, hfirst, hsecond]
  · rw [hmachine'', htrapped]
    rfl

/-- If the callback lets the run continue and leaves the return in place, the stub returns. -/
theorem stub_returns (haction : answer.action = .continueRun) {returnAddress : UInt64}
    (hleaves : start.machine.LeavesReturn host returnAddress) :
    ∃ last, retire callbacks 4 start = some last ∧
      last.machine = start.machine.importReturned answer.status returnAddress host world := by
  obtain ⟨middle, next, hmiddle, hnext, hmachine⟩ := stub_calls hbytes hstub hhandle hcall
  rw [if_pos haction] at hnext
  have hbytes' : next.machine.memory.bytes ≠ 0 := by rw [hmachine]; exact hbytes
  have hpointer : next.machine.state.instructionPointer =
      start.machine.state.instructionPointer + 10 := by
    rw [hmachine]
    rfl
  have hcode : next.machine.byteAt (start.machine.state.instructionPointer + 10) = some 0xC3 := by
    rw [hmachine]
    exact hleaves.code
  have hstack : next.machine.register rsp = start.machine.register rsp := by
    rw [hmachine, Machine.register_setRegister_ne _ (by decide)]
    show ((start.machine.setRegister rdi _).setRegister rax _).register rsp = _
    rw [Machine.register_setRegister_ne _ (by decide), Machine.register_setRegister_ne _ (by decide)]
  have hquad : next.machine.quadAt (next.machine.register rsp) = some returnAddress := by
    rw [hstack, hmachine]
    exact hleaves.address
  obtain ⟨outcome, last, hlast, rfl, hmachine'⟩ :=
    (stubReturn_leads callbacks hbytes' hpointer hcode hquad).returns
  refine ⟨last, ?_, ?_⟩
  · rw [show (4 : Nat) = 2 + 2 from rfl, retire_add, hmiddle, Option.bind_some]
    simp only [retire, hnext, hlast]
  · rw [hmachine', hstack, hmachine]
    show (((((start.machine.setRegister rdi (start.machine.register rcx)).setRegister rax
      number.toUInt64).setRegister rax answer.status.toInt64.toUInt64).setRegister rsp
        (start.machine.register rsp + 8)).jumpTo returnAddress).withHost host world = _
    rw [setRegister_twice]
    rfl

end Calls

/-- The guest region is a loaded image. -/
structure Machine.HoldsImage (machine : Machine σ) (imageBase loadedImageSize : UInt64)
    (loadedImage : Nat → UInt8) : Prop where
  base : machine.memory.baseAddress = imageBase
  size : machine.memory.size = loadedImageSize
  bytes : machine.memory.bytes ≠ 0
  contents : ∀ offset < loadedImageSize.toNat,
    machine.host (machine.memory.bytes + offset.toUInt64) = loadedImage offset

section Images

variable {machine : Machine σ} {imageBase loadedImageSize : UInt64} {loadedImage : Nat → UInt8}

/-- Host memory that holds contents by offset is loaded as they are taken, by induction on the
length. -/
theorem loadBytes_eq_takeBytes {host : ByteMemory} {start : UInt64} {contents : Nat → UInt8}
    {offset length size : Nat} (hcontents : ∀ offset < size,
      host (start + offset.toUInt64) = contents offset) (hwithin : offset + length ≤ size) :
    loadBytes host (start + offset.toUInt64) length = takeBytes contents offset length := by
  induction length generalizing offset with
  | zero => rfl
  | succ length ih =>
    have hnext : start + offset.toUInt64 + 1 = start + (offset + 1).toUInt64 := by
      rw [UInt64.add_assoc]
      exact congrArg _ (UInt64.ofNat_add offset 1).symm
    rw [loadBytes, takeBytes_succ, hcontents offset (by omega), hnext, ih (by omega)]

/-- The loaded bytes at an offset are the guest bytes at its address. -/
theorem Machine.HoldsImage.bytesAt (h : machine.HoldsImage imageBase loadedImageSize loadedImage)
    {offset length : Nat} (hwithin : offset + length ≤ loadedImageSize.toNat)
    (hwraps : imageBase.toNat + offset < 2 ^ 64) :
    machine.bytesAt (imageBase + offset.toUInt64) length =
      some (takeBytes loadedImage offset length) := by
  have hsize := loadedImageSize.toNat_lt
  have hoffset : offset.toUInt64.toNat = offset := by
    rw [Nat.toUInt64, UInt64.toNat_ofNat_of_lt' (by show offset < 2 ^ 64; omega)]
  have hdistance : imageBase + offset.toUInt64 - imageBase = offset.toUInt64 := by
    rw [UInt64.add_comm, UInt64.add_sub_cancel]
  have hcontains : machine.memory.contains (imageBase + offset.toUInt64) length = true := by
    unfold EmulatorMemory.contains
    rw [h.base, h.size, hdistance]
    simp only [Bool.and_eq_true, Bool.not_eq_true', decide_eq_false_iff_not, UInt64.not_lt,
      Nat.not_lt]
    have hle : offset.toUInt64 ≤ loadedImageSize := by
      rw [UInt64.le_iff_toNat_le]
      omega
    refine ⟨⟨?_, hle⟩, ?_⟩
    · rw [UInt64.le_iff_toNat_le, UInt64.toNat_add, hoffset, Nat.mod_eq_of_lt (by omega)]
      omega
    · rw [UInt64.toNat_sub_of_le _ _ hle, hoffset]
      omega
  rw [Machine.bytesAt, EmulatorMemory.offsetOf, if_pos hcontains, Option.map_some, h.base,
    hdistance, loadBytes_eq_takeBytes h.contents hwithin]

/-- A number that is loaded as it has been encoded. -/
theorem toUInt32_ofLittleEndian (number : UInt32) :
    (ofLittleEndian (toLittleEndian 4 number.toUInt64)).toUInt32 = number := by
  have hdecoded := @ofLittleEndian_toLittleEndian 4 (by decide) number.toUInt64
  have hlt := number.toNat_lt
  rw [UInt32.toNat_toUInt64, Nat.mod_eq_of_lt (by omega)] at hdecoded
  rw [← UInt32.toNat_inj, UInt64.toNat_toUInt32, hdecoded, Nat.mod_eq_of_lt hlt]

/-- The stub that the loader has placed is what the interpreter reads. -/
theorem Machine.HoldsImage.stub (h : machine.HoldsImage imageBase loadedImageSize loadedImage)
    {offset : Nat} {number : UInt32}
    (hwithin : offset + x64Win32ImportStubSize ≤ loadedImageSize.toNat)
    (hwraps : imageBase.toNat + offset + x64Win32ImportStubSize ≤ 2 ^ 64)
    (hcode : takeBytes loadedImage offset x64Win32ImportStubSize = importStub number) :
    machine.HoldsStub (imageBase + offset.toUInt64) number := by
  have hpart (first count : Nat) (hpos : 0 < count) (hfirst : first + count ≤ 11) :
      machine.bytesAt (imageBase + offset.toUInt64 + first.toUInt64) count =
        some (((importStub number).drop first).take count) := by
    rw [x64Win32ImportStubSize] at hwithin hwraps
    have haddress : imageBase + offset.toUInt64 + first.toUInt64 =
        imageBase + (offset + first).toUInt64 := by
      rw [UInt64.add_assoc]
      exact congrArg _ (UInt64.ofNat_add offset first).symm
    rw [haddress, h.bytesAt (by omega) (by omega), ← hcode, takeBytes_part loadedImage hfirst]
    rfl
  have hbyte (first : Nat) (hfirst : first < 11) :
      machine.byteAt (imageBase + offset.toUInt64 + first.toUInt64) =
        some ((((importStub number).drop first).take 1).getD 0 0) := by
    rw [Machine.byteAt, hpart first 1 (by decide) (by omega), Option.map_some]
  have hfirst := hbyte 0 (by decide)
  rw [show (0 : Nat).toUInt64 = 0 from rfl, UInt64.add_zero] at hfirst
  refine ⟨hfirst, hbyte 1 (by decide), hbyte 2 (by decide), hbyte 3 (by decide), ?_,
    hbyte 8 (by decide), hbyte 9 (by decide), hbyte 10 (by decide)⟩
  have hnumber := hpart 4 4 (by decide) (by decide)
  rw [show (4 : Nat).toUInt64 = 4 from rfl] at hnumber
  rw [Machine.wordAt, hnumber, Option.map_some]
  exact congrArg some (toUInt32_ofLittleEndian number)

end Images

/-- Where a call returns to: only RAX, RSP, RDI and the reserved flag have changed. -/
structure Machine.CameBack (machine last : Machine σ) (status : Int32) (returnAddress : UInt64) :
    Prop where
  instructionPointer : last.state.instructionPointer = returnAddress
  stack : last.register rsp = machine.register rsp + 8
  status : last.register rax = status.toInt64.toUInt64
  argument : last.register rdi = machine.register rcx
  registers : ∀ index, index ≠ rax → index ≠ rsp → index ≠ rdi →
    last.register index = machine.register index
  simd : last.state.simdRegisters = machine.state.simdRegisters
  flags : last.state.flags = machine.state.flags ||| rflagsReserved
  memory : last.memory = machine.memory
  guest : machine.memory.Agree machine.host last.host

/-- The run calls the callback once, with the number of the syscall and the first argument, before
anything else happens to guest memory or to the callback's state. If the answer is to continue and
the callback leaves guest memory alone, the run comes back; otherwise it is over. -/
def ServesImport (machine : Machine σ) (options : Options) (syscallNumber returnAddress : UInt64)
    (handleSyscall : EmulatorState → ByteMemory → σ → SyscallResult × ByteMemory × σ) : Prop :=
  let final := runX64Emulator machine ⟨some handleSyscall⟩ options
  ∃ called : Machine σ, called.register rax = syscallNumber ∧
    called.register rdi = machine.register rcx ∧
    ∀ answer host world,
      handleSyscall called.state machine.host machine.world = (answer, host, world) →
      if answer.action = .continueRun then
        machine.memory.Agree machine.host host →
          ∃ last, retire ⟨some handleSyscall⟩ 4 (ExecutionContext.start machine) = some last ∧
            final = interpretLoop ⟨some handleSyscall⟩ options.instructionBudget
              (options.instructionBudget.toNat - 4) last ∧
            last.machine.world = world ∧ last.machine.host = host ∧
            machine.CameBack last.machine answer.status returnAddress
      else final.machine.world = world ∧ final.machine.host = host ∧
        final.result.retiredInstructions = 3

section CalledStates

variable {machine : Machine σ}

theorem importTrapped_rax (machine : Machine σ) (number : UInt32) :
    (machine.importTrapped number).register rax = number.toUInt64 :=
  Machine.register_setRegister _ (by decide) _

theorem importTrapped_rdi (machine : Machine σ) (number : UInt32) :
    (machine.importTrapped number).register rdi = machine.register rcx :=
  (Machine.register_setRegister_ne (machine.setRegister rdi (machine.register rcx))
    (show rdi ≠ rax by decide) number.toUInt64).trans (Machine.register_setRegister _ (by decide) _)

/-- The machine behind the return, from the machine the run starts in. -/
theorem importReturned_cameBack {host : ByteMemory} {world : σ} (status : Int32)
    (returnAddress : UInt64) (hagree : machine.memory.Agree machine.host host) :
    machine.CameBack ((ExecutionContext.start machine).machine.importReturned status returnAddress
      host world) status returnAddress := by
  let argued := (ExecutionContext.start machine).machine.setRegister rdi (machine.register rcx)
  let answered := argued.setRegister rax status.toInt64.toUInt64
  let popped := answered.setRegister rsp (machine.register rsp + 8)
  have hpopped (index : UInt32) (h : index ≠ rsp) :
      popped.register index = answered.register index :=
    Machine.register_setRegister_ne _ h _
  have hanswered (index : UInt32) (h : index ≠ rax) :
      answered.register index = argued.register index :=
    Machine.register_setRegister_ne _ h _
  exact
    { instructionPointer := rfl
      stack := Machine.register_setRegister answered (by decide) _
      status := (hpopped rax (by decide)).trans (Machine.register_setRegister _ (by decide) _)
      argument := (hpopped rdi (by decide)).trans ((hanswered rdi (by decide)).trans
        (Machine.register_setRegister _ (by decide) _))
      registers := fun index hrax hrsp hrdi => (hpopped index hrsp).trans ((hanswered index
        hrax).trans (Machine.register_setRegister_ne _ hrdi _))
      simd := rfl
      flags := rfl
      memory := rfl
      guest := hagree }

end CalledStates

section Runs

variable {machine : Machine σ} {options : Options} {number : UInt32}
  {handleSyscall : EmulatorState → ByteMemory → σ → SyscallResult × ByteMemory × σ}
  (hbytes : machine.memory.bytes ≠ 0)
  (hstub : machine.HoldsStub machine.state.instructionPointer number)
  (hengine : options.engine = .interpreter) (hbudget : 4 ≤ options.instructionBudget.toNat)

include hbytes in
theorem isValidInvocation_of_budget (hbudget : 4 ≤ options.instructionBudget.toNat) :
    isValidInvocation machine.memory ⟨some handleSyscall⟩ options = true := by
  refine isValidInvocation_iff.mpr ⟨rfl, hbytes, fun hzero => ?_⟩
  rw [hzero] at hbudget
  exact absurd hbudget (by decide)

include hbytes hstub hengine hbudget

/-- A run from a stub goes on at the return address, if the callback lets it. -/
theorem run_returns {answer : SyscallResult} {host : ByteMemory} {world : σ}
    (hcall : handleSyscall ((ExecutionContext.start machine).machine.importTrapped number).state
      machine.host machine.world = (answer, host, world))
    (haction : answer.action = .continueRun) {returnAddress : UInt64}
    (hleaves : machine.LeavesReturn host returnAddress) :
    ∃ last, retire ⟨some handleSyscall⟩ 4 (ExecutionContext.start machine) = some last ∧
      runX64Emulator machine ⟨some handleSyscall⟩ options =
        interpretLoop ⟨some handleSyscall⟩ options.instructionBudget
          (options.instructionBudget.toNat - 4) last ∧
      last.machine = (ExecutionContext.start machine).machine.importReturned answer.status
        returnAddress host world := by
  have hstub' : (ExecutionContext.start machine).machine.HoldsStub
      (ExecutionContext.start machine).machine.state.instructionPointer number :=
    hstub.congr fun _ _ => rfl
  have hleaves' : (ExecutionContext.start machine).machine.LeavesReturn host returnAddress :=
    ⟨hleaves.code, hleaves.address⟩
  have hhandle : (⟨some handleSyscall⟩ : Callbacks σ).handleSyscall = some handleSyscall := rfl
  obtain ⟨last, hlast, hmachine⟩ := stub_returns hbytes hstub' hhandle hcall haction hleaves'
  exact ⟨last, hlast, runX64Emulator_of_retire hengine
    (isValidInvocation_of_budget hbytes hbudget) hbudget hlast, hmachine⟩

/-- A run from a stub serves its import. -/
theorem servesImport {returnAddress : UInt64}
    (hreturn : machine.quadAt (machine.register rsp) = some returnAddress) :
    ServesImport machine options number.toUInt64 returnAddress handleSyscall := by
  let callbacks : Callbacks σ := ⟨some handleSyscall⟩
  let start := ExecutionContext.start machine
  have hhandle : callbacks.handleSyscall = some handleSyscall := rfl
  have hcallback : callbacks.handleSyscall.isSome := rfl
  refine ⟨start.machine.importTrapped number, importTrapped_rax _ _, importTrapped_rdi _ _,
    fun answer host world hcall => ?_⟩
  split
  · rename_i haction
    intro hagree
    obtain ⟨last, hlast, hrun, hmachine⟩ := run_returns hbytes hstub hengine hbudget hcall haction
      (Machine.leavesReturn_of_agree hstub hagree hreturn)
    refine ⟨last, hlast, hrun, ?_, ?_, ?_⟩
    · rw [hmachine]
      rfl
    · rw [hmachine]
      rfl
    · rw [hmachine]
      exact importReturned_cameBack answer.status returnAddress hagree
  · rename_i haction
    have hstub' : start.machine.HoldsStub start.machine.state.instructionPointer number :=
      hstub.congr fun _ _ => rfl
    obtain ⟨middle, next, hmiddle, hnext, hmachine⟩ :=
      stub_calls hbytes hstub' hhandle hcall
    rw [if_neg haction] at hnext
    have hfinal := runX64Emulator_of_retire hengine (isValidInvocation_of_budget hbytes hbudget)
      (by omega) hmiddle
    have hprogress := retire_progressed hcallback hbytes hmiddle
    have hretired : middle.result.retiredInstructions = 2 := hprogress.retired
    have hstepped := interpretInstruction_stepped hcallback (hprogress.memory ▸ hbytes) hnext
    have hlt : middle.result.retiredInstructions < options.instructionBudget := by
      rw [hretired, UInt64.lt_iff_toNat_lt]
      show 2 < _
      omega
    obtain ⟨rest, hrest⟩ : ∃ rest, options.instructionBudget.toNat - 2 = rest + 1 :=
      Nat.exists_eq_add_one_of_ne_zero (by omega)
    rw [hrest, interpretLoop, if_pos hlt, hnext] at hfinal
    rw [show runX64Emulator machine ⟨some handleSyscall⟩ options = next from hfinal, hmachine]
    refine ⟨rfl, rfl, ?_⟩
    rw [hstepped.progressed.retired, hretired]
    rfl

end Runs

end Ringos.Emulator
