import Ringos.Emulator.AccessorEffects

/-!
# Operands and instructions as functions of the machine

The effective address of a ModRM operand is stated once, as base, scaled index
and displacement, and all three operand decoders are shown to denote it. The
prefix loop is shown never to run out of its bound.
-/

namespace Ringos.Emulator

open Ringos.Core
open Exec

variable {σ α : Type}

/-- The displacement of a ModRM operand: how many bytes the mode field asks for. -/
def displacementWidth (mod : UInt8) : Nat := if mod = 1 then 1 else if mod = 2 then 4 else 0

@[simp] theorem displacementWidth_zero : displacementWidth 0 = 0 := rfl

@[simp] theorem displacementWidth_one : displacementWidth 1 = 1 := rfl

@[simp] theorem displacementWidth_two : displacementWidth 2 = 4 := rfl

namespace Machine

/-- The sign-extended displacement of a width at an address. -/
def displacementAt (machine : Machine σ) (guestAddress : UInt64) : Nat → Option UInt64
  | 0 => some 0
  | 1 => (machine.byteAt guestAddress).map fun byte => displacement8 byte.toInt8
  | _ => (machine.wordAt guestAddress).map fun word => displacement32 word.toInt32

/-- The index register a SIB byte selects; field 4 without REX.X means none. -/
def sibIndex (machine : Machine σ) (instruction : DecodedInstruction) (sib : UInt8) : UInt64 :=
  if regField sib ≠ 4 ∨ instruction.rexX then
    machine.register (registerIndex (regField sib) instruction.rexX)
  else 0

/-- The index register times the scale of a SIB byte. -/
def scaledIndex (machine : Machine σ) (instruction : DecodedInstruction) (sib : UInt8) : UInt64 :=
  machine.sibIndex instruction sib * (1 : UInt64) <<< (modField sib).toUInt64

/-- The address a SIB byte and its displacement select, and the address behind them. -/
def sibAddress (machine : Machine σ) (instruction : DecodedInstruction) (modrmAddress : UInt64)
    (mod : UInt8) : Option (UInt64 × UInt64) :=
  (machine.byteAt (modrmAddress + 1)).bind fun sib =>
    if mod = 0 ∧ rmField sib = 5 ∧ !instruction.rexB then
      (machine.displacementAt (modrmAddress + 2) 4).map fun displacement =>
        (machine.scaledIndex instruction sib + displacement, modrmAddress + 2 + 4)
    else
      (machine.displacementAt (modrmAddress + 2) (displacementWidth mod)).map fun displacement =>
        (machine.register (registerIndex (rmField sib) instruction.rexB) +
            machine.scaledIndex instruction sib + displacement,
          modrmAddress + 2 + (displacementWidth mod).toUInt64)

/-- The address of the memory operand of a ModRM byte, and the address behind the operand
bytes: base, scaled index and displacement, or a displacement from the operand's end. -/
def effectiveAddress (machine : Machine σ) (instruction : DecodedInstruction)
    (modrmAddress : UInt64) (modrm : UInt8) : Option (UInt64 × UInt64) :=
  if rmField modrm = 4 then machine.sibAddress instruction modrmAddress (modField modrm)
  else if modField modrm = 0 ∧ rmField modrm = 5 ∧ !instruction.rexB then
    (machine.displacementAt (modrmAddress + 1) 4).map fun displacement =>
      (modrmAddress + 5 + displacement, modrmAddress + 5)
  else
    (machine.displacementAt (modrmAddress + 1) (displacementWidth (modField modrm))).map
      fun displacement =>
        (machine.register (registerIndex (rmField modrm) instruction.rexB) + displacement,
          modrmAddress + 1 + (displacementWidth (modField modrm)).toUInt64)

end Machine

theorem modField_cases (modrm : UInt8) :
    modField modrm = 0 ∨ modField modrm = 1 ∨ modField modrm = 2 ∨ modField modrm = 3 := by
  have hlt : (modField modrm).toNat < 4 := by
    simp only [modField, UInt8.toNat_and]
    exact Nat.lt_succ_of_le Nat.and_le_right
  simp only [← UInt8.toNat_inj]
  show _ = 0 ∨ _ = 1 ∨ _ = 2 ∨ _ = 3
  omega

/-- Three bits and a REX bit select one of sixteen registers. -/
theorem registerIndex_lt {field : UInt8} (rex : Bool) (h : field.toNat < 8) :
    registerIndex field rex < 16 := by
  rw [UInt32.lt_iff_toNat_lt]
  unfold registerIndex
  rw [UInt32.toNat_add, UInt8.toNat_toUInt32]
  cases rex
  · show (field.toNat + 0) % 2 ^ 32 < 16
    omega
  · show (field.toNat + 8) % 2 ^ 32 < 16
    omega

theorem regIndex_lt (modrm : UInt8) (rex : Bool) : registerIndex (regField modrm) rex < 16 := by
  apply registerIndex_lt
  simp only [regField, UInt8.toNat_and]
  exact Nat.lt_succ_of_le Nat.and_le_right

theorem rmIndex_lt (modrm : UInt8) (rex : Bool) : registerIndex (rmField modrm) rex < 16 := by
  apply registerIndex_lt
  simp only [rmField, UInt8.toNat_and]
  exact Nat.lt_succ_of_le Nat.and_le_right

section Decoders

variable {start : ExecutionContext σ} (hbytes : start.machine.memory.bytes ≠ 0)
  (instruction : DecodedInstruction) (modrmAddress : UInt64)

theorem sibIndexValue_denotes (sib : UInt8) :
    Denotes start (sibIndexValue instruction (regField sib))
      (some (start.machine.sibIndex instruction sib)) := by
  unfold sibIndexValue Machine.sibIndex
  split
  · exact getRegister64_denotes (regIndex_lt sib _)
  · exact Denotes.pure 0

section Guarded

variable (guarded : ∀ {α : Type}, Exec σ α → Exec σ α)
  (hguarded : ∀ {α : Type} {x : Exec σ α} {value : Option α}, Denotes start x value →
    Denotes start (guarded x) value)

include hbytes hguarded

/-- The SIB decoder denotes the SIB address, whatever its copy does around a failed read. -/
theorem readSibOperand_denotes {mod : UInt8} (hmod : mod = 0 ∨ mod = 1 ∨ mod = 2) :
    Denotes start (readSibOperand guarded instruction modrmAddress mod)
      (start.machine.sibAddress instruction modrmAddress mod) := by
  refine (hguarded (readU8_denotes hbytes _)).bind fun sib _ => ?_
  refine (sibIndexValue_denotes instruction sib).seq ?_
  have hbase : Denotes start (getRegister64 (registerIndex (rmField sib) instruction.rexB)) _ :=
    getRegister64_denotes (rmIndex_lt sib instruction.rexB)
  rcases hmod with rfl | rfl | rfl
  · by_cases hnobase : rmField sib = 5 ∧ !instruction.rexB
    · rw [if_pos rfl, if_pos hnobase, if_pos ⟨rfl, hnobase⟩]
      refine ((hguarded (readI32_denotes hbytes _)).map _).congr ?_
      simp only [Machine.displacementAt, Option.map_map]
      rfl
    · rw [if_pos rfl, if_neg hnobase, if_neg fun h => hnobase h.2]
      refine hbase.seq ((Denotes.pure _).congr ?_)
      simp [Machine.displacementAt, Machine.scaledIndex]
  · rw [if_neg (by decide), if_pos rfl, if_neg (by simp)]
    refine ((hguarded (readI8_denotes hbytes _)).bind fun _ _ => hbase.map _).congr ?_
    simp only [displacementWidth_one, Machine.displacementAt]
    cases start.machine.byteAt (modrmAddress + 2) <;> rfl
  · rw [if_neg (by decide), if_neg (by decide), if_pos rfl, if_neg (by simp)]
    refine ((hguarded (readI32_denotes hbytes _)).bind fun _ _ => hbase.map _).congr ?_
    simp only [displacementWidth_two, Machine.displacementAt]
    cases start.machine.wordAt (modrmAddress + 2) <;> rfl

variable {modrm : UInt8} (hrm : rmField modrm ≠ 4)

include hrm

/-- Mode 0: a displacement from the operand's end, or a bare register. -/
theorem modeZeroOperand_denotes (hmod : modField modrm = 0) :
    Denotes start
      (if rmField modrm = 5 ∧ !instruction.rexB then do
        let displacement ← guarded (readI32 (modrmAddress + 1))
        pure (modrmAddress + 5 + displacement32 displacement, modrmAddress + 5)
      else do
        let base ← getRegister64 (registerIndex (rmField modrm) instruction.rexB)
        pure (base, modrmAddress + 1))
      (start.machine.effectiveAddress instruction modrmAddress modrm) := by
  unfold Machine.effectiveAddress
  rw [if_neg hrm]
  by_cases hrip : rmField modrm = 5 ∧ !instruction.rexB
  · rw [if_pos hrip, if_pos ⟨hmod, hrip⟩]
    refine ((hguarded (readI32_denotes hbytes _)).map _).congr ?_
    simp only [Machine.displacementAt]
    cases start.machine.wordAt (modrmAddress + 1) <;> rfl
  · rw [if_neg hrip, if_neg fun hc => hrip hc.2]
    refine ((getRegister64_denotes (rmIndex_lt modrm instruction.rexB)).map _).congr ?_
    simp [hmod, Machine.displacementAt]

/-- Mode 1: a register and a byte displacement. -/
theorem modeOneOperand_denotes (hmod : modField modrm = 1) :
    Denotes start
      (do
        let displacement ← guarded (readI8 (modrmAddress + 1))
        let base ← getRegister64 (registerIndex (rmField modrm) instruction.rexB)
        pure (base + displacement8 displacement, modrmAddress + 2))
      (start.machine.effectiveAddress instruction modrmAddress modrm) := by
  refine ((hguarded (readI8_denotes hbytes _)).bind fun _ _ =>
    (getRegister64_denotes (rmIndex_lt modrm instruction.rexB)).map _).congr ?_
  unfold Machine.effectiveAddress
  rw [if_neg hrm, if_neg (by rw [hmod]; simp), hmod, displacementWidth_one, UInt64.add_assoc]
  simp only [Machine.displacementAt]
  cases start.machine.byteAt (modrmAddress + 1) <;> rfl

/-- Mode 2: a register and a word displacement. -/
theorem modeTwoOperand_denotes (hmod : modField modrm = 2) :
    Denotes start
      (do
        let displacement ← guarded (readI32 (modrmAddress + 1))
        let base ← getRegister64 (registerIndex (rmField modrm) instruction.rexB)
        pure (base + displacement32 displacement, modrmAddress + 5))
      (start.machine.effectiveAddress instruction modrmAddress modrm) := by
  refine ((hguarded (readI32_denotes hbytes _)).bind fun _ _ =>
    (getRegister64_denotes (rmIndex_lt modrm instruction.rexB)).map _).congr ?_
  unfold Machine.effectiveAddress
  rw [if_neg hrm, if_neg (by rw [hmod]; simp), hmod, displacementWidth_two, UInt64.add_assoc]
  simp only [Machine.displacementAt]
  cases start.machine.wordAt (modrmAddress + 1) <;> rfl

end Guarded

include hbytes

/-- Where the data movement decoder is used, it denotes the effective address. -/
theorem tryGetMemoryOperandAddress_denotes {modrm : UInt8} (hmod : modField modrm ≠ 3) :
    Denotes start (tryGetMemoryOperandAddress instruction modrmAddress modrm)
      (start.machine.effectiveAddress instruction modrmAddress modrm) := by
  have hmem : modField modrm = 0 ∨ modField modrm = 1 ∨ modField modrm = 2 := by
    simpa only [hmod, or_false] using modField_cases modrm
  unfold tryGetMemoryOperandAddress
  by_cases hrm : rmField modrm = 4
  · have hsib : Denotes start (tryReadSibAddress instruction modrmAddress (modField modrm))
        (start.machine.effectiveAddress instruction modrmAddress modrm) := by
      rw [Machine.effectiveAddress, if_pos hrm]
      exact readSibOperand_denotes hbytes instruction modrmAddress orInvalidMemory
        (fun h => h.orInvalidMemory) hmem
    simp only [if_pos hrm]
    rcases hmem with h | h | h
    · rw [if_pos h]
      exact hsib
    · rw [if_neg (by rw [h]; decide), if_pos h]
      exact hsib
    · rw [if_neg (by rw [h]; decide), if_neg (by rw [h]; decide), if_pos h]
      exact hsib
  · simp only [if_neg hrm]
    rcases hmem with h | h | h
    · rw [if_pos h]
      exact modeZeroOperand_denotes hbytes instruction modrmAddress orInvalidMemory
        (fun h => h.orInvalidMemory) hrm h
    · rw [if_neg (by rw [h]; decide), if_pos h]
      exact modeOneOperand_denotes hbytes instruction modrmAddress orInvalidMemory
        (fun h => h.orInvalidMemory) hrm h
    · rw [if_neg (by rw [h]; decide), if_neg (by rw [h]; decide), if_pos h]
      exact modeTwoOperand_denotes hbytes instruction modrmAddress orInvalidMemory
        (fun h => h.orInvalidMemory) hrm h

/-- The arithmetic and the SIMD decoder denote the effective address of a memory operand. -/
theorem decodeModrmAddress_denotes (modrm : UInt8) :
    Denotes start (decodeModrmAddress instruction modrmAddress modrm)
      (if modField modrm = 3 then some (0, modrmAddress + 1)
        else start.machine.effectiveAddress instruction modrmAddress modrm) := by
  unfold decodeModrmAddress
  by_cases hmod : modField modrm = 3
  · simp only [if_pos hmod]
    exact Denotes.pure _
  simp only [if_neg hmod]
  have hmem : modField modrm = 0 ∨ modField modrm = 1 ∨ modField modrm = 2 := by
    simpa only [hmod, or_false] using modField_cases modrm
  by_cases hrm : rmField modrm = 4
  · rw [if_pos hrm, Machine.effectiveAddress, if_pos hrm]
    exact readSibOperand_denotes hbytes instruction modrmAddress (fun x => x) (fun h => h) hmem
  · rw [if_neg hrm]
    rcases hmem with h | h | h
    · rw [if_pos h]
      exact modeZeroOperand_denotes hbytes instruction modrmAddress (fun x => x) (fun h => h) hrm h
    · rw [if_neg (by rw [h]; decide), if_pos h]
      exact modeOneOperand_denotes hbytes instruction modrmAddress (fun x => x) (fun h => h) hrm h
    · rw [if_neg (by rw [h]; decide), if_neg (by rw [h]; decide), if_pos h]
      exact modeTwoOperand_denotes hbytes instruction modrmAddress (fun x => x) (fun h => h) hrm h

end Decoders

namespace Machine

/-- The operand the arithmetic instructions decode. -/
def rmOperand (machine : Machine σ) (instruction : DecodedInstruction) (modrmAddress : UInt64) :
    Option DecodedRmOperand :=
  (machine.byteAt modrmAddress).bind fun modrm =>
    (if modField modrm = 3 then some (0, modrmAddress + 1)
      else machine.effectiveAddress instruction modrmAddress modrm).map fun decoded =>
        { mod := modField modrm
          operation := regField modrm
          rmIndex := registerIndex (rmField modrm) instruction.rexB
          rmIsRegister := modField modrm = 3
          rmAddress := decoded.1
          nextInstruction := decoded.2 }

/-- The operand the SIMD instructions decode. -/
def modrmOperand (machine : Machine σ) (instruction : DecodedInstruction)
    (modrmAddress : UInt64) : Option DecodedModrmOperand :=
  (machine.byteAt modrmAddress).bind fun modrm =>
    (if modField modrm = 3 then some (0, modrmAddress + 1)
      else machine.effectiveAddress instruction modrmAddress modrm).map fun decoded =>
        { mod := modField modrm
          regIndex := registerIndex (regField modrm) instruction.rexR
          rmIndex := registerIndex (rmField modrm) instruction.rexB
          rmIsRegister := modField modrm = 3
          rmAddress := decoded.1
          nextInstruction := decoded.2 }

/-- The address of the memory operand whose ModRM byte is at an address. -/
def operandAddress (machine : Machine σ) (instruction : DecodedInstruction)
    (modrmAddress : UInt64) : Option UInt64 :=
  (machine.byteAt modrmAddress).bind fun modrm =>
    if modField modrm = 3 then none
    else (machine.effectiveAddress instruction modrmAddress modrm).map Prod.fst

end Machine

section Operands

variable {start : ExecutionContext σ} (hbytes : start.machine.memory.bytes ≠ 0)
  {instruction : DecodedInstruction} {modrmAddress : UInt64}

include hbytes

theorem tryDecodeRmOperand_denotes (instruction : DecodedInstruction) (modrmAddress : UInt64) :
    Denotes start (tryDecodeRmOperand instruction modrmAddress)
      (start.machine.rmOperand instruction modrmAddress) :=
  (readU8_denotes hbytes _).bind fun modrm _ =>
    (decodeModrmAddress_denotes hbytes instruction modrmAddress modrm).map _

theorem tryDecodeModrmOperand_denotes (instruction : DecodedInstruction)
    (modrmAddress : UInt64) :
    Denotes start (tryDecodeModrmOperand instruction modrmAddress)
      (start.machine.modrmOperand instruction modrmAddress) :=
  (readU8_denotes hbytes _).bind fun modrm _ =>
    (decodeModrmAddress_denotes hbytes instruction modrmAddress modrm).map _

end Operands

section OperandSpecs

variable {machine : Machine σ} {instruction : DecodedInstruction} {modrmAddress : UInt64}

/-- A decoded arithmetic operand names a register, and in memory lies at the operand address. -/
theorem rmOperand_spec {operand : DecodedRmOperand}
    (h : machine.rmOperand instruction modrmAddress = some operand) :
    operand.rmIndex < 16 ∧ (operand.rmIsRegister = false →
      machine.operandAddress instruction modrmAddress = some operand.rmAddress) := by
  obtain ⟨modrm, hmodrm, h⟩ := Option.bind_eq_some_iff.mp h
  obtain ⟨decoded, hdecoded, rfl⟩ := Option.map_eq_some_iff.mp h
  refine ⟨rmIndex_lt modrm _, fun hmemory => ?_⟩
  have hmod : modField modrm ≠ 3 := by simpa using hmemory
  rw [if_neg hmod] at hdecoded
  simp only [Machine.operandAddress, hmodrm, Option.bind_some, if_neg hmod, hdecoded,
    Option.map_some]

/-- A decoded SIMD operand names two registers, and in memory lies at the operand address. -/
theorem modrmOperand_spec {operand : DecodedModrmOperand}
    (h : machine.modrmOperand instruction modrmAddress = some operand) :
    operand.regIndex < 16 ∧ operand.rmIndex < 16 ∧ (operand.rmIsRegister = false →
      machine.operandAddress instruction modrmAddress = some operand.rmAddress) := by
  obtain ⟨modrm, hmodrm, h⟩ := Option.bind_eq_some_iff.mp h
  obtain ⟨decoded, hdecoded, rfl⟩ := Option.map_eq_some_iff.mp h
  refine ⟨regIndex_lt modrm _, rmIndex_lt modrm _, fun hmemory => ?_⟩
  have hmod : modField modrm ≠ 3 := by simpa using hmemory
  rw [if_neg hmod] at hdecoded
  simp only [Machine.operandAddress, hmodrm, Option.bind_some, if_neg hmod, hdecoded,
    Option.map_some]

end OperandSpecs

namespace Machine

/-- The instruction that starts with the prefixes of `instruction`. -/
def decodeFrom (machine : Machine σ) : Nat → DecodedInstruction → Option DecodedInstruction
  | 0, _ => none
  | fuel + 1, instruction =>
    match instruction.applyPrefix with
    | none => some instruction
    | some prefixed =>
      (machine.byteAt (prefixed.opcodeAddress + 1)).bind fun opcode =>
        machine.decodeFrom fuel
          { prefixed with opcodeAddress := prefixed.opcodeAddress + 1, opcode := opcode }

/-- The instruction at the instruction pointer, up to its primary opcode. -/
def fetchInstruction (machine : Machine σ) : Option DecodedInstruction :=
  (machine.byteAt machine.state.instructionPointer).bind fun opcode =>
    (machine.decodeFrom machine.memory.size.toNat
      { DecodedInstruction.initial machine.state.instructionPointer with opcode := opcode }).map
      fun instruction => { instruction with nextAddress := instruction.opcodeAddress + 1 }

/-- A readable byte lies below the end of the guest region. -/
theorem offset_lt_of_byteAt {machine : Machine σ} {guestAddress : UInt64} {byte : UInt8}
    (h : machine.byteAt guestAddress = some byte) :
    (guestAddress - machine.memory.baseAddress).toNat < machine.memory.size.toNat := by
  obtain ⟨bytes, hbytes, -⟩ := Option.map_eq_some_iff.mp h
  obtain ⟨offset, hoffset, -⟩ := Option.map_eq_some_iff.mp hbytes
  obtain ⟨rfl, hbound⟩ := EmulatorMemory.offsetOf_bound hoffset
  exact hbound

end Machine

/-- The byte behind one inside a region has the next offset: the offset cannot wrap there. -/
theorem offset_succ {address base size : UInt64} (h : (address - base).toNat < size.toNat) :
    (address + 1 - base).toNat = (address - base).toNat + 1 := by
  have hsize := size.toNat_lt
  have ha := address.toNat_lt
  have hb := base.toNat_lt
  rw [UInt64.toNat_sub] at h
  rw [UInt64.toNat_sub, UInt64.toNat_sub, UInt64.toNat_add, show (1 : UInt64).toNat = 1 from rfl]
  omega

theorem applyPrefix_opcodeAddress {instruction prefixed : DecodedInstruction}
    (h : instruction.applyPrefix = some prefixed) :
    prefixed.opcodeAddress = instruction.opcodeAddress := by
  unfold DecodedInstruction.applyPrefix at h
  repeat' split at h
  all_goals first | (obtain rfl := Option.some.inj h; rfl) | cases h

section Instructions

variable {start : ExecutionContext σ} (hbytes : start.machine.memory.bytes ≠ 0)

include hbytes

theorem readOpcode_denotes (guestAddress : UInt64) :
    Denotes start (readOpcode guestAddress) (start.machine.byteAt guestAddress) := by
  apply Attempt.Triple.onFailure (readU8_denotes hbytes guestAddress)
  rintro context ⟨hnone, hrefused⟩
  exact ⟨hnone, hrefused.1.refault (setInvalidMemoryAccess_isFault guestAddress 0) fun _ => rfl,
    rfl⟩

/-- The prefix loop. Each prefix byte lies one byte further into the guest region, so the
bytes left in the region bound the iterations left. -/
theorem decodePrefixes_denotes {fuel : Nat} {instruction : DecodedInstruction}
    (hfuel : start.machine.memory.size.toNat ≤ fuel +
      (instruction.opcodeAddress - start.machine.memory.baseAddress).toNat)
    (hlt : (instruction.opcodeAddress - start.machine.memory.baseAddress).toNat <
      start.machine.memory.size.toNat) :
    Denotes start (decodePrefixes fuel instruction)
      (start.machine.decodeFrom fuel instruction) := by
  induction fuel generalizing instruction with
  | zero => omega
  | succ fuel ih =>
    unfold decodePrefixes Machine.decodeFrom
    cases hprefixed : instruction.applyPrefix with
    | none => exact Denotes.pure instruction
    | some prefixed =>
      rw [← applyPrefix_opcodeAddress hprefixed] at hfuel hlt
      refine (readOpcode_denotes hbytes _).bind fun opcode hopcode => ih ?_ ?_
      · have hnext := offset_succ hlt
        simp only at hnext ⊢
        omega
      · exact Machine.offset_lt_of_byteAt hopcode

/-- The decoder denotes the instruction at the instruction pointer. -/
theorem decodeX64Instruction_denotes :
    Denotes start decodeX64Instruction start.machine.fetchInstruction := by
  unfold decodeX64Instruction Machine.fetchInstruction
  refine (read_denotes fun machine => machine.state.instructionPointer).seq ?_
  refine (read_denotes fun machine => machine.memory.size).seq ?_
  refine (readOpcode_denotes hbytes _).bind fun opcode hopcode => ?_
  have hlt := Machine.offset_lt_of_byteAt hopcode
  exact (decodePrefixes_denotes hbytes (Nat.le_add_right _ _) hlt).map _

end Instructions

end Ringos.Emulator
