import Ringos.Core.WordParts
import Ringos.Emulator.IntegerEffects

/-!
# What byte instructions compute

A byte operand is a place in guest memory or one of the byte registers, which
are the two lowest bytes of the general registers. Which of them a register
field denotes is left open here: an instruction is decoded to its fields and
performed with a choice of byte registers. The accessors of the emulator always
choose the lowest byte.
-/

namespace Ringos.Emulator

open Ringos.Core
open Exec

variable {σ : Type}

/-- A byte register: the lowest byte of a general register, or the byte above it. -/
inductive ByteRegister where
  | low (index : UInt32)
  | high (index : UInt32)
  deriving DecidableEq

namespace ByteRegister

/-- The general register that a byte register is a part of. -/
def index : ByteRegister → UInt32
  | low index => index
  | high index => index

/-- The lowest bit of a byte register. -/
def offset : ByteRegister → Nat
  | low _ => 0
  | high _ => 8

theorem offset_le (register : ByteRegister) : register.offset + 8 ≤ 64 := by
  cases register <;> simp [offset]

end ByteRegister

namespace Machine

variable (machine : Machine σ)

/-- The value of a byte register. -/
def byteRegister (register : ByteRegister) : UInt8 :=
  ⟨(machine.register register.index).toBitVec.extractLsb' register.offset 8⟩

/-- Write a byte register: its eight bits and no others. -/
def setByteRegister (register : ByteRegister) (value : UInt8) : Machine σ :=
  machine.setRegister register.index
    ⟨replacePart (machine.register register.index).toBitVec register.offset value.toBitVec⟩

/-- The written byte register holds the value. -/
theorem byteRegister_setByteRegister (register : ByteRegister) (hindex : register.index < 16)
    (value : UInt8) : (machine.setByteRegister register value).byteRegister register = value := by
  rw [byteRegister, setByteRegister, machine.register_setRegister hindex]
  exact UInt8.toBitVec_inj.mp (extractLsb'_replacePart _ _ register.offset_le)

/-- The other byte registers are kept. -/
theorem byteRegister_setByteRegister_ne {register other : ByteRegister}
    (hindex : register.index < 16) (hne : other ≠ register) (value : UInt8) :
    (machine.setByteRegister register value).byteRegister other = machine.byteRegister other := by
  by_cases hsame : other.index = register.index
  · have hapart : other.offset + 8 ≤ register.offset ∨ register.offset + 8 ≤ other.offset := by
      cases other <;> cases register <;>
        simp_all [ByteRegister.index, ByteRegister.offset]
    rw [byteRegister, byteRegister, setByteRegister, hsame, machine.register_setRegister hindex]
    exact congrArg _ (extractLsb'_replacePart_apart _ _ hapart)
  · rw [byteRegister, byteRegister, setByteRegister, machine.register_setRegister_ne hsame]

end Machine

/-- A register field of an instruction, with the REX bit that extends it. -/
structure RegisterField where
  field : UInt8
  rex : Bool
  deriving DecidableEq

/-- A byte operand. -/
inductive ByteOperand where
  | register (field : RegisterField)
  | memory (guestAddress : UInt64)
  deriving DecidableEq

/-- The byte instructions: `08`, `80 /7`, `F6 /0`, `0F 94` and `0F 95`, and `0F B6`. -/
inductive ByteInstruction where
  | or (destination source : RegisterField)
  | compare (operand : ByteOperand) (immediate : UInt8)
  | test (operand : ByteOperand) (immediate : UInt8)
  | setCondition (destination : RegisterField) (whenZero : Bool)
  | moveZeroExtended (destination : UInt32) (source : ByteOperand)
  deriving DecidableEq

section Decoding

namespace Machine

variable (machine : Machine σ) (instruction : DecodedInstruction)

/-- The byte operand of a ModRM byte, and the address behind the operand bytes. -/
def byteRmOperand (modrmAddress : UInt64) (modrm : UInt8) : Option (ByteOperand × UInt64) :=
  if modField modrm = 3 then
    some (.register ⟨rmField modrm, instruction.rexB⟩, modrmAddress + 1)
  else
    (machine.effectiveAddress instruction modrmAddress modrm).map fun decoded =>
      (.memory decoded.1, decoded.2)

/-- A byte instruction with a ModRM operand and an immediate, and the address behind it. -/
def byteImmediateInstruction (operation : UInt8)
    (build : ByteOperand → UInt8 → ByteInstruction) : Option (ByteInstruction × UInt64) := do
  let modrm ← machine.byteAt instruction.nextAddress
  let (operand, behind) ← machine.byteRmOperand instruction instruction.nextAddress modrm
  let immediate ← machine.byteAt behind
  if regField modrm = operation then some (build operand immediate, behind + 1) else none

/-- The byte instruction that a decoded instruction stands for, and the address behind it. -/
def byteInstruction : Option (ByteInstruction × UInt64) :=
  if instruction.opcode = 0x08 then do
    let modrm ← machine.byteAt instruction.nextAddress
    if modField modrm = 3 then
      some (.or ⟨rmField modrm, instruction.rexB⟩ ⟨regField modrm, instruction.rexR⟩,
        instruction.nextAddress + 1)
    else none
  else if instruction.opcode = 0x80 then
    machine.byteImmediateInstruction instruction 7 .compare
  else if instruction.opcode = 0xF6 then
    machine.byteImmediateInstruction instruction 0 .test
  else if instruction.opcode = 0x0F ∧ instruction.rexW = false then do
    let secondaryOpcode ← machine.byteAt instruction.nextAddress
    let modrm ← machine.byteAt (instruction.nextAddress + 1)
    if secondaryOpcode = 0x94 ∨ secondaryOpcode = 0x95 then
      if modField modrm = 3 then
        some (.setCondition ⟨rmField modrm, instruction.rexB⟩ (secondaryOpcode = 0x94),
          instruction.nextAddress + 2)
      else none
    else if secondaryOpcode = 0xB6 then
      (machine.byteRmOperand instruction (instruction.nextAddress + 1) modrm).map fun decoded =>
        (.moveZeroExtended (registerIndex (regField modrm) instruction.rexR) decoded.1, decoded.2)
    else none
  else none

end Machine

end Decoding

section Performing

variable (select : RegisterField → ByteRegister) (machine : Machine σ)

/-- The value of a byte operand. -/
def Machine.byteOperand : ByteOperand → Option UInt8
  | .register field => some (machine.byteRegister (select field))
  | .memory guestAddress => machine.byteAt guestAddress

/-- What a byte instruction leaves, with the flags that the flag routines leave. -/
def ByteInstruction.perform : ByteInstruction → Option (Machine σ)
  | or destination source =>
    let result := machine.byteRegister (select destination) ||| machine.byteRegister (select source)
    some ((machine.setByteRegister (select destination) result).setFlags
      (logicFlags machine.state.flags result.toUInt64 false))
  | compare operand immediate =>
    (machine.byteOperand select operand).map fun value =>
      machine.setFlags (compareFlags machine.state.flags value.toUInt64 immediate.toUInt64
        (value - immediate).toUInt64 false)
  | test operand immediate =>
    (machine.byteOperand select operand).map fun value =>
      machine.setFlags (logicFlags machine.state.flags (value &&& immediate).toUInt64 false)
  | setCondition destination whenZero =>
    some (machine.setByteRegister (select destination)
      (if flagSet machine.state.flags rflagsZero = whenZero then 1 else 0))
  | moveZeroExtended destination source =>
    (machine.byteOperand select source).map fun value =>
      machine.setRegister destination value.toUInt64

/-- The machine behind a byte instruction. -/
def Machine.afterByte (instruction : DecodedInstruction) : Option (Machine σ) :=
  (machine.byteInstruction instruction).bind fun decoded =>
    (decoded.1.perform select machine).map fun next => next.jumpTo decoded.2

end Performing

/-- The byte register that `get_register8_low` and `set_register8_low` use. -/
def lowByteRegister (field : RegisterField) : ByteRegister :=
  .low (registerIndex field.field field.rex)

section Accessors

variable {machine : Machine σ} {fails : Prop} (field : RegisterField)

theorem getRegister8Low_leads {Q : UInt8 → Machine σ → Prop}
    (h : Q (machine.byteRegister (lowByteRegister field)) machine) :
    Leads machine (getRegister8Low (registerIndex field.field field.rex)) Q fails := by
  refine .bind (getRegister64_leads (.pure ?_))
  have hvalue : (machine.register (registerIndex field.field field.rex) &&& 0xFF).toUInt8 =
      machine.byteRegister (lowByteRegister field) := by
    apply UInt8.toNat_inj.mp
    rw [UInt64.toNat_toUInt8, UInt64.toNat_and]
    change _ = ((machine.register _).toBitVec.extractLsb' 0 8).toNat
    rw [BitVec.extractLsb'_toNat, Nat.shiftRight_zero, UInt64.toNat_toBitVec]
    exact (congrArg (· % 2 ^ 8) (Nat.and_two_pow_sub_one_eq_mod _ 8)).trans (Nat.mod_mod _ _)
  rw [hvalue]
  exact h

theorem setRegister8Low_leads {value : UInt8} {Q : Unit → Machine σ → Prop}
    (h : Q () (machine.setByteRegister (lowByteRegister field) value)) :
    Leads machine (setRegister8Low (registerIndex field.field field.rex) value) Q fails := by
  refine .bind (getRegister64_leads (setRegister64_leads ?_))
  have hword (previous : UInt64) : (previous &&& ~~~0xFF) ||| value.toUInt64 =
      ⟨replacePart previous.toBitVec 0 value.toBitVec⟩ := by
    apply UInt64.toBitVec_inj.mp
    rw [UInt64.toBitVec_or, UInt64.toBitVec_and, UInt64.toBitVec_not, UInt8.toBitVec_toUInt64,
      replacePart, partMask, BitVec.shiftLeft_zero, BitVec.shiftLeft_zero]
    rfl
  rw [hword]
  exact h

end Accessors

section Handlers

variable {machine : Machine σ} (hbytes : machine.memory.bytes ≠ 0)
  {instruction : DecodedInstruction}

include hbytes

/-- The handlers that read the ModRM byte themselves load a byte operand. -/
theorem loadByteOperand_leads {modrmAddress : UInt64} {modrm faultOpcode : UInt8} {fails : Prop}
    {Q : UInt8 × UInt64 → Machine σ → Prop}
    (h : ∀ operand behind value,
      machine.byteRmOperand instruction modrmAddress modrm = some (operand, behind) →
      machine.byteOperand lowByteRegister operand = some value → Q (value, behind) machine)
    (hrefused : (machine.byteRmOperand instruction modrmAddress modrm).bind (fun decoded =>
      machine.byteOperand lowByteRegister decoded.1) = none → fails) :
    Leads machine (loadByteOperand instruction modrmAddress modrm faultOpcode) Q fails := by
  unfold loadByteOperand
  unfold Machine.byteRmOperand at h hrefused
  split
  · next hmod =>
    rw [if_pos hmod] at h
    exact .bind (getRegister8Low_leads ⟨rmField modrm, instruction.rexB⟩
      (.pure (h _ _ _ rfl rfl)))
  · next hmod =>
    rw [if_neg hmod] at h hrefused
    refine .bind (.orUnsupported (Denotes.leads (fun _ hstart => hstart ▸
      tryGetMemoryOperandAddress_denotes (hstart ▸ hbytes) instruction modrmAddress hmod)
      (fun decoded hdecoded => ?_) fun hnone => hrefused (by rw [hnone]; rfl)))
    refine .bind (.orInvalidMemory (readU8_leads hbytes (fun value hvalue => .pure ?_)
      fun hnone => hrefused ?_))
    · exact h (.memory decoded.1) decoded.2 value (by rw [hdecoded]; rfl) hvalue
    · rw [hdecoded]
      exact hnone

omit hbytes in
/-- The arithmetic decoder yields the byte operand, which `execute_x64_group_f6` loads. -/
theorem rmOperand_byteOperand {modrmAddress : UInt64} {operand : DecodedRmOperand}
    (hoperand : machine.rmOperand instruction modrmAddress = some operand) :
    ∃ modrm, machine.byteAt modrmAddress = some modrm ∧ ∃ byteOperand,
      machine.byteRmOperand instruction modrmAddress modrm =
        some (byteOperand, operand.nextInstruction) ∧
      operand.operation = regField modrm ∧
      ∀ {fails : Prop} {Q : UInt8 → Machine σ → Prop}, machine.memory.bytes ≠ 0 →
        (∀ value, machine.byteOperand lowByteRegister byteOperand = some value →
          Q value machine) →
        (machine.byteOperand lowByteRegister byteOperand = none → fails) →
        Leads machine (loadRm8 operand) Q fails := by
  obtain ⟨modrm, hmodrm, hdecoded⟩ := Option.bind_eq_some_iff.mp hoperand
  refine ⟨modrm, hmodrm, ?_⟩
  unfold Machine.byteRmOperand loadRm8
  by_cases hmod : modField modrm = 3
  · rw [if_pos hmod, Option.map_some, Option.some.injEq] at hdecoded
    subst hdecoded
    refine ⟨_, if_pos hmod, rfl, fun _ h _ => ?_⟩
    rw [if_pos (decide_eq_true hmod)]
    exact getRegister8Low_leads ⟨rmField modrm, instruction.rexB⟩ (h _ rfl)
  · rw [if_neg hmod, Option.map_eq_some_iff] at hdecoded
    obtain ⟨decoded, haddress, rfl⟩ := hdecoded
    refine ⟨.memory decoded.1, ?_, rfl, fun hbytes h hrefused => ?_⟩
    · rw [if_neg hmod, haddress]
      rfl
    · rw [if_neg (by simp [hmod])]
      exact .orInvalidMemory (readU8_leads hbytes h hrefused)

theorem executeX64OrRegisterByte_leads (hopcode : instruction.opcode = 0x08) :
    Leads machine (executeX64OrRegisterByte instruction)
      (fun _ next => machine.afterByte lowByteRegister instruction = some next)
      (machine.afterByte lowByteRegister instruction = none) := by
  unfold executeX64OrRegisterByte Machine.afterByte Machine.byteInstruction
  rw [if_pos hopcode]
  refine .bind (.orInvalidMemory (readU8_leads hbytes (fun modrm hmodrm => ?_)
    fun hnone => by rw [hnone]; rfl))
  simp only [hmodrm, Option.bind_eq_bind, Option.bind_some]
  split
  · exact unsupported_leads rfl
  · next hmod =>
    rw [if_pos (not_not.mp hmod)]
    refine .bind (getRegister8Low_leads ⟨rmField modrm, instruction.rexB⟩
      (.bind (getRegister8Low_leads ⟨regField modrm, instruction.rexR⟩
      (.bind (setRegister8Low_leads ⟨rmField modrm, instruction.rexB⟩
      (.bind (changeFlags_leads (continueAt_leads ?_))))))))
    rfl

theorem executeX64Group80_leads (hopcode : instruction.opcode = 0x80) :
    Leads machine (executeX64Group80 instruction)
      (fun _ next => machine.afterByte lowByteRegister instruction = some next)
      (machine.afterByte lowByteRegister instruction = none) := by
  have hform : machine.byteInstruction instruction =
      machine.byteImmediateInstruction instruction 7 .compare := by
    rw [Machine.byteInstruction, if_neg (by rw [hopcode]; decide), if_pos hopcode]
  unfold executeX64Group80 Machine.afterByte
  rw [hform]
  unfold Machine.byteImmediateInstruction
  refine .bind (.orInvalidMemory (readU8_leads hbytes (fun modrm hmodrm => ?_)
    fun hnone => by rw [hnone]; rfl))
  simp only [hmodrm, Option.bind_eq_bind, Option.bind_some]
  split
  · exact unsupported_leads (by simp)
  · next hoperation =>
    simp only [if_pos (not_not.mp hoperation)]
    refine .bind (loadByteOperand_leads hbytes (fun operand behind value hoperand hvalue => ?_)
      fun hnone => ?_)
    · simp only [hoperand, Option.bind_some]
      refine .bind (.orInvalidMemory (readU8_leads hbytes (fun immediate himmediate => ?_)
        fun hnone => by rw [hnone]; rfl))
      refine .bind (changeFlags_leads (continueAt_leads ?_))
      simp only [himmediate, Option.bind_some, ByteInstruction.perform, hvalue, Option.map_some]
    · rcases hoperand : machine.byteRmOperand instruction instruction.nextAddress modrm with
        _ | ⟨operand, behind⟩
      · rfl
      · rw [hoperand, Option.bind_some] at hnone
        cases himmediate : machine.byteAt behind with
        | none => simp [himmediate]
        | some immediate => simp [himmediate, ByteInstruction.perform, hnone]

theorem executeX64GroupF6_leads (hopcode : instruction.opcode = 0xF6) :
    Leads machine (executeX64GroupF6 instruction)
      (fun _ next => machine.afterByte lowByteRegister instruction = some next)
      (machine.afterByte lowByteRegister instruction = none) := by
  have hform : machine.byteInstruction instruction =
      machine.byteImmediateInstruction instruction 0 .test := by
    rw [Machine.byteInstruction, if_neg (by rw [hopcode]; decide),
      if_neg (by rw [hopcode]; decide), if_pos hopcode]
  unfold executeX64GroupF6 Machine.afterByte
  rw [hform]
  refine .bind (.orInvalidMemory (Denotes.leads (fun _ hstart => hstart ▸
    tryDecodeRmOperand_denotes (hstart ▸ hbytes) instruction instruction.nextAddress)
    (fun operand hoperand => ?_) fun hnone => ?_))
  · obtain ⟨modrm, hmodrm, byteOperand, hbyteOperand, hoperation, hload⟩ :=
      rmOperand_byteOperand hoperand
    simp only [Machine.byteImmediateInstruction, hmodrm, hbyteOperand, Option.bind_eq_bind,
      Option.bind_some, ← hoperation]
    refine .bind (.orInvalidMemory (readU8_leads hbytes (fun immediate himmediate => ?_)
      fun hnone => by rw [hnone]; rfl))
    simp only [himmediate, Option.bind_some]
    split
    · exact unsupported_leads rfl
    · next hoperation =>
      simp only [if_pos (not_not.mp hoperation), Option.bind_some, ByteInstruction.perform]
      refine .bind (hload hbytes (fun value hvalue => ?_) fun hnone => by rw [hnone]; rfl)
      refine .bind (changeFlags_leads (continueAt_leads ?_))
      rw [hvalue]
      rfl
  · unfold Machine.byteImmediateInstruction Machine.byteRmOperand
    cases hmodrm : machine.byteAt instruction.nextAddress with
    | none => rfl
    | some modrm =>
      rw [Machine.rmOperand, hmodrm, Option.bind_some, Option.map_eq_none_iff] at hnone
      by_cases hmod : modField modrm = 3
      · rw [if_pos hmod] at hnone
        cases hnone
      · rw [if_neg hmod] at hnone
        simp [hmod, hnone]

omit hbytes in
/-- The byte instructions with a secondary opcode. -/
theorem byteInstruction_secondary (hopcode : instruction.opcode = 0x0F)
    (hrex : instruction.rexW = false) {secondaryOpcode : UInt8}
    (hsecondary : machine.byteAt instruction.nextAddress = some secondaryOpcode) :
    machine.byteInstruction instruction =
      (machine.byteAt (instruction.nextAddress + 1)).bind fun modrm =>
        if secondaryOpcode = 0x94 ∨ secondaryOpcode = 0x95 then
          if modField modrm = 3 then
            some (.setCondition ⟨rmField modrm, instruction.rexB⟩ (secondaryOpcode = 0x94),
              instruction.nextAddress + 2)
          else none
        else if secondaryOpcode = 0xB6 then
          (machine.byteRmOperand instruction (instruction.nextAddress + 1) modrm).map
            fun decoded =>
              (.moveZeroExtended (registerIndex (regField modrm) instruction.rexR) decoded.1,
                decoded.2)
        else none := by
  rw [Machine.byteInstruction, if_neg (by rw [hopcode]; decide), if_neg (by rw [hopcode]; decide),
    if_neg (by rw [hopcode]; decide), if_pos ⟨hopcode, hrex⟩, hsecondary]
  rfl

theorem executeX64SecondarySetcc_leads (hopcode : instruction.opcode = 0x0F)
    (hrex : instruction.rexW = false) {secondaryOpcode : UInt8}
    (hsecondary : machine.byteAt instruction.nextAddress = some secondaryOpcode)
    (hset : secondaryOpcode = 0x94 ∨ secondaryOpcode = 0x95) :
    Leads machine (executeX64SecondarySetcc instruction)
      (fun _ next => machine.afterByte lowByteRegister instruction = some next)
      (machine.afterByte lowByteRegister instruction = none) := by
  unfold executeX64SecondarySetcc Machine.afterByte
  rw [byteInstruction_secondary hopcode hrex hsecondary]
  simp only [if_pos hset]
  refine .bind (.orInvalidMemory (readU8_leads hbytes (fun opcode hread => ?_) fun hnone => ?_))
  · obtain rfl : secondaryOpcode = opcode := Option.some.inj (hsecondary.symm.trans hread)
    refine .bind (.orInvalidMemory (readU8_leads hbytes (fun modrm hmodrm => ?_)
      fun hnone => by rw [hnone]; rfl))
    simp only [hmodrm, Option.bind_some]
    by_cases hmod : modField modrm = 3
    · have hcondition (zero : Bool) :
          (if zero = decide (secondaryOpcode = 0x94) then (1 : UInt8) else 0) =
            if (if secondaryOpcode = 0x94 then zero else !zero) then 1 else 0 := by
        rcases hset with rfl | rfl <;> cases zero <;> rfl
      have hcode : ¬ (modField modrm ≠ 3 ∨ (secondaryOpcode ≠ 0x94 ∧ secondaryOpcode ≠ 0x95)) := by
        tauto
      rw [if_neg hcode, if_pos hmod]
      refine .bind (Leads.read (g := fun machine => machine.state.flags) (.bind
        (setRegister8Low_leads ⟨rmField modrm, instruction.rexB⟩
          (continueAt_leads ?_))))
      exact congrArg (fun value => some ((machine.setByteRegister _ value).jumpTo _)) (hcondition _)
    · rw [if_pos (.inl hmod), if_neg hmod]
      exact unsupported_leads rfl
  · rw [hsecondary] at hnone
    cases hnone

theorem executeX64SecondaryMovzxByte_leads (hopcode : instruction.opcode = 0x0F)
    (hrex : instruction.rexW = false)
    (hsecondary : machine.byteAt instruction.nextAddress = some 0xB6) :
    Leads machine (executeX64SecondaryMovzxByte instruction)
      (fun _ next => machine.afterByte lowByteRegister instruction = some next)
      (machine.afterByte lowByteRegister instruction = none) := by
  unfold executeX64SecondaryMovzxByte Machine.afterByte
  rw [byteInstruction_secondary hopcode hrex hsecondary]
  simp only [if_neg (show ¬ ((0xB6 : UInt8) = 0x94 ∨ (0xB6 : UInt8) = 0x95) by decide), if_true]
  refine .bind (.orInvalidMemory (readU8_leads hbytes (fun modrm hmodrm => ?_)
    fun hnone => by rw [hnone]; rfl))
  simp only [hmodrm, Option.bind_some]
  refine .bind (loadByteOperand_leads hbytes (fun operand behind value hoperand hvalue => ?_)
    fun hnone => ?_)
  · refine .bind (setRegister32_leads (continueAt_leads ?_))
    simp only [hoperand, Option.map_some, Option.bind_some, ByteInstruction.perform, hvalue]
    rw [UInt8.toUInt64_toUInt32]
  · rcases hoperand : machine.byteRmOperand instruction (instruction.nextAddress + 1) modrm with
      _ | ⟨operand, behind⟩
    · rfl
    · rw [hoperand, Option.bind_some] at hnone
      simp [ByteInstruction.perform, hnone]

end Handlers

section Steps

variable {machine : Machine σ} {instruction : DecodedInstruction}

/-- The opcodes of the byte instructions. -/
def Machine.IsByte (machine : Machine σ) (instruction : DecodedInstruction) : Prop :=
  instruction.opcode = 0x08 ∨ instruction.opcode = 0x80 ∨ instruction.opcode = 0xF6 ∨
    instruction.opcode = 0x0F ∧ (machine.byteAt instruction.nextAddress = some 0x94 ∨
      machine.byteAt instruction.nextAddress = some 0x95 ∨
      machine.byteAt instruction.nextAddress = some 0xB6)

/-- Dispatch at a byte instruction performs it with the lowest bytes. -/
theorem dispatch_byte (hbytes : machine.memory.bytes ≠ 0) (hbyte : machine.IsByte instruction) :
    Leads machine (dispatch callbacks instruction)
      (fun _ next => machine.afterByte lowByteRegister instruction = some next)
      (machine.afterByte lowByteRegister instruction = none) := by
  refine .bind (setResult_leads ?_)
  rcases hbyte with h | h | h | ⟨h, hsecondary⟩
  · rw [if_neg (by rw [h]; decide), h]
    exact executeX64OrRegisterByte_leads hbytes h
  · rw [if_neg (by rw [h]; decide), h]
    exact executeX64Group80_leads hbytes h
  · rw [if_neg (by rw [h]; decide), h]
    exact executeX64GroupF6_leads hbytes h
  · rw [if_pos h]
    unfold dispatchSecondaryOpcode
    split
    · next hrex =>
      refine unsupported_leads ?_
      have hform : machine.byteInstruction instruction = none := by
        simp [Machine.byteInstruction, h, hrex]
      rw [Machine.afterByte, hform]
      rfl
    · next hrex =>
      rw [Bool.not_eq_true] at hrex
      refine .bind (.onFailure (readU8_leads hbytes (fun secondaryOpcode hread => ?_)
        fun hnone => ?_))
      · refine .bind (setResult_leads ?_)
        rcases hsecondary with hopcode | hopcode | hopcode
        all_goals obtain rfl := Option.some.inj (hread.symm.trans hopcode)
        · exact executeX64SecondarySetcc_leads hbytes h hrex hread (.inl rfl)
        · exact executeX64SecondarySetcc_leads hbytes h hrex hread (.inr rfl)
        · exact executeX64SecondaryMovzxByte_leads hbytes h hrex hread
      · rw [hnone] at hsecondary
        simp at hsecondary

/-- The body of the interpreter loop performs a byte instruction with the lowest bytes of the
general registers, and gives up where it has no operand or immediate. -/
theorem interpretInstruction_byte (callbacks : Callbacks σ) (hbytes : machine.memory.bytes ≠ 0)
    (hfetch : machine.fetchInstruction = some instruction) (hbyte : machine.IsByte instruction) :
    Leads machine (interpretInstruction callbacks)
      (fun _ next => machine.afterByte lowByteRegister instruction = some next)
      (machine.afterByte lowByteRegister instruction = none) := by
  refine .bind (Denotes.leads (fun _ hstart => hstart ▸ decodeX64Instruction_denotes
    (hstart ▸ hbytes)) (fun decoded hdecoded => ?_) fun hnone => ?_)
  · obtain rfl : instruction = decoded := Option.some.inj (hfetch.symm.trans hdecoded)
    refine .bind ((dispatch_byte hbytes hbyte).mono fun _ next hnext => ?_)
    exact .bind (setResult_leads (.pure hnext))
  · rw [hfetch] at hnone
    cases hnone

end Steps

end Ringos.Emulator
