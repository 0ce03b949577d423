import Ringos.Emulator.IntegerSemantics

/-!
# Assigning operands

Assigning a place and setting the flags is compared with the effect of an
integer instruction once for all handlers. The loads and stores of the handlers,
which are separate for each width and kind of operand, read and assign places.
-/

namespace Ringos.Emulator

open Ringos.Core
open Exec

variable {σ α : Type}

namespace Machine

/-- The machine with a place assigned. -/
def assign {is64Bit : Bool} (machine : Machine σ) :
    Place → BitVec (operandBits is64Bit) → Machine σ
  | .register index, value => machine.setRegister index (zeroExtended value)
  | .memory guestAddress, value =>
    { machine with
      host := storeBytes machine.host (machine.hostAddress guestAddress)
        (toLittleEndian (operandBytes is64Bit) (zeroExtended value)) }

/-- The place exists: a register of the file, or bytes of the guest region. -/
def Holds (machine : Machine σ) (is64Bit : Bool) : Place → Prop
  | .register index => index < 16
  | .memory guestAddress =>
    (machine.memory.offsetOf guestAddress (operandBytes is64Bit)).isSome

variable {is64Bit : Bool} {machine : Machine σ}

/-- An assigned place in memory holds its value. -/
theorem valueAt_assign_memory {guestAddress : UInt64} (value : BitVec (operandBits is64Bit))
    (hholds : machine.Holds is64Bit (.memory guestAddress)) :
    (machine.assign (.memory guestAddress) value).valueAt is64Bit (.memory guestAddress) =
      some value := by
  obtain ⟨offset, hoffset⟩ := Option.isSome_iff_exists.mp hholds
  obtain ⟨rfl, -⟩ := EmulatorMemory.offsetOf_bound hoffset
  have hlength := length_toLittleEndian (operandBytes is64Bit) (zeroExtended value)
  have hbits : 8 * operandBytes is64Bit = operandBits is64Bit := by
    cases is64Bit <;> rfl
  have hbytes : operandBytes is64Bit ≤ 8 := by
    cases is64Bit <;> decide
  have hload := loadBytes_storeBytes machine.host (machine.hostAddress guestAddress)
    (Nat.le_trans (hlength.trans_le hbytes) (by decide))
  rw [hlength] at hload
  rw [hostAddress] at hload
  simp only [valueAt, bytesAt, assign, hostAddress, hoffset, Option.map_some, hload, lowBits]
  congr 1
  apply BitVec.eq_of_toNat_eq
  rw [BitVec.toNat_setWidth, UInt64.toNat_toBitVec, ofLittleEndian_toLittleEndian hbytes, hbits,
    zeroExtended_toNat, Nat.mod_mod, Nat.mod_eq_of_lt value.isLt]

end Machine

/-- The machine an effect leaves, but for its flags. -/
def Effect.leaves {is64Bit : Bool} (effect : Effect is64Bit) (machine : Machine σ) : Machine σ :=
  match effect.written with
  | none => machine
  | some (place, value) => machine.assign place value

/-- Assigning what an effect writes and setting its flags carries it out. -/
theorem Effect.carriedOut {is64Bit : Bool} {effect : Effect is64Bit} {machine : Machine σ}
    (hholds : ∀ place value, effect.written = some (place, value) → machine.Holds is64Bit place)
    {flags : UInt64}
    (hflags : statusFlags flags = effect.status.getD (statusFlags machine.state.flags))
    (instructionPointer : UInt64) :
    effect.CarriedOut machine
      (((effect.leaves machine).setFlags flags).jumpTo instructionPointer) := by
  obtain ⟨written, status⟩ := effect
  rcases written with _ | ⟨index | guestAddress, value⟩
  · exact
      { register := fun _ _ h => nomatch h
        memory := fun _ _ h => nomatch h
        status := hflags
        otherRegisters := fun _ _ => rfl
        otherBytes := fun _ _ => rfl
        simdRegisters := rfl
        window := rfl
        world := rfl }
  · refine
      { register := ?_
        memory := fun _ _ h => nomatch h
        status := hflags
        otherRegisters := ?_
        otherBytes := fun _ _ => rfl
        simdRegisters := rfl
        window := rfl
        world := rfl }
    · intro other written h
      cases h
      exact machine.register_setRegister (hholds _ _ rfl) _
    · intro other hother
      exact machine.register_setRegister_ne (fun h => hother value (by rw [h])) _
  · refine
      { register := fun _ _ h => nomatch h
        memory := ?_
        status := hflags
        otherRegisters := fun _ _ => rfl
        otherBytes := ?_
        simdRegisters := rfl
        window := rfl
        world := rfl }
    · intro address written h
      cases h
      exact Machine.valueAt_assign_memory value (hholds _ _ rfl)
    · intro address hother
      have hlength := length_toLittleEndian (operandBytes is64Bit) (zeroExtended value)
      have hfit : operandBytes is64Bit < 2 ^ 64 := by
        cases is64Bit <;> decide
      apply storeBytes_of_not_inRange (hlength.trans_lt hfit)
      rw [hlength]
      exact hother _ _ rfl

namespace IntegerInstruction

variable {is64Bit : Bool} {machine : Machine σ} {x y : BitVec (operandBits is64Bit)}
  {destination : Place} {source : Source} {flags : UInt64} (instructionPointer : UInt64)

/-- A binary operation that writes its result has been performed. -/
theorem performed_binary {operation : BinaryOperation} (hwrites : operation.writes = true)
    (hx : machine.valueAt is64Bit destination = some x)
    (hy : machine.sourceValue is64Bit source = some y)
    (hholds : machine.Holds is64Bit destination)
    (hflags : statusFlags flags = operation.status x y) :
    (binary operation destination source).Performed is64Bit machine
      (((machine.assign destination (operation.result x y)).setFlags flags).jumpTo
        instructionPointer) := by
  refine ⟨⟨some (destination, operation.result x y), some (operation.status x y)⟩, ?_, ?_⟩
  · simp only [effect, hx, hy, Option.bind_eq_bind, Option.bind_some, hwrites, if_true]
  · refine Effect.carriedOut ?_ hflags instructionPointer
    intro place value h
    cases h
    exact hholds

/-- A comparison or test has been performed. -/
theorem performed_flags {operation : BinaryOperation} (hwrites : operation.writes = false)
    (hx : machine.valueAt is64Bit destination = some x)
    (hy : machine.sourceValue is64Bit source = some y)
    (hflags : statusFlags flags = operation.status x y) :
    (binary operation destination source).Performed is64Bit machine
      ((machine.setFlags flags).jumpTo instructionPointer) := by
  refine ⟨⟨none, some (operation.status x y)⟩, ?_, ?_⟩
  · simp only [effect, hx, hy, Option.bind_eq_bind, Option.bind_some, hwrites, Bool.false_eq_true,
      if_false]
  · exact Effect.carriedOut (by simp) hflags instructionPointer

/-- A unary operation has been performed. -/
theorem performed_unary {operation : UnaryOperation}
    (hx : machine.valueAt is64Bit destination = some x)
    (hholds : machine.Holds is64Bit destination)
    (hflags : statusFlags flags =
      operation.status x (flagSet machine.state.flags rflagsCarry)) :
    (unary operation destination).Performed is64Bit machine
      (((machine.assign destination (operation.result x)).setFlags flags).jumpTo
        instructionPointer) := by
  refine ⟨⟨some (destination, operation.result x),
    some (operation.status x (flagSet machine.state.flags rflagsCarry))⟩, ?_, ?_⟩
  · simp only [effect, hx, Option.bind_eq_bind, Option.bind_some]
  · refine Effect.carriedOut ?_ hflags instructionPointer
    intro place value h
    cases h
    exact hholds

/-- Assigning a place leaves the flags as they are. -/
theorem assign_setFlags (place : Place) (value : BitVec (operandBits is64Bit)) :
    (machine.assign place value).setFlags machine.state.flags = machine.assign place value := by
  cases place <;> rfl

/-- A move has been performed. -/
theorem performed_move (hx : machine.sourceValue is64Bit source = some x)
    (hholds : machine.Holds is64Bit destination) :
    (move destination source).Performed is64Bit machine
      ((machine.assign destination x).jumpTo instructionPointer) := by
  refine ⟨⟨some (destination, x), none⟩, ?_, ?_⟩
  · simp only [effect, hx, Option.bind_eq_bind, Option.bind_some]
  · rw [← assign_setFlags]
    refine Effect.carriedOut ?_ rfl instructionPointer
    intro place value h
    cases h
    exact hholds

/-- An address has been loaded. -/
theorem performed_loadAddress {guestAddress : UInt64}
    (hholds : machine.Holds is64Bit destination) :
    (loadAddress destination guestAddress).Performed is64Bit machine
      ((machine.assign destination (lowBits is64Bit guestAddress)).jumpTo instructionPointer) := by
  refine ⟨⟨some (destination, lowBits is64Bit guestAddress), none⟩, rfl, ?_⟩
  rw [← assign_setFlags]
  refine Effect.carriedOut ?_ rfl instructionPointer
  intro place value h
  cases h
  exact hholds

end IntegerInstruction

section Operands

variable {machine : Machine σ} {fails : Prop}

theorem valueAt_register64 (index : UInt32) :
    machine.valueAt true (.register index) = some (machine.register index).toBitVec := by
  rw [Machine.valueAt, lowBits, BitVec.setWidth_eq]

theorem valueAt_register32 (index : UInt32) :
    machine.valueAt false (.register index) = some (machine.register index).toUInt32.toBitVec := by
  rw [Machine.valueAt, lowBits, UInt64.toBitVec_toUInt32]

theorem valueAt_memory64 (guestAddress : UInt64) :
    machine.valueAt true (.memory guestAddress) =
      (machine.quadAt guestAddress).map UInt64.toBitVec := by
  rw [Machine.valueAt, Machine.quadAt, Option.map_map]
  congr 1

theorem valueAt_memory32 (guestAddress : UInt64) :
    machine.valueAt false (.memory guestAddress) =
      (machine.wordAt guestAddress).map UInt32.toBitVec := by
  rw [Machine.valueAt, Machine.wordAt, Option.map_map]
  congr 1

variable (hbytes : machine.memory.bytes ≠ 0) {operand : DecodedRmOperand}

include hbytes

theorem loadRm64_leads {Q : UInt64 → Machine σ → Prop}
    (h : ∀ value, machine.valueAt true operand.place = some value.toBitVec → Q value machine) :
    Leads machine (loadRm64 operand) Q True := by
  unfold loadRm64
  rw [DecodedRmOperand.place] at h
  split
  · next hregister =>
    rw [if_pos hregister] at h
    exact getRegister64_leads (h _ (valueAt_register64 _))
  · next hmemory =>
    rw [if_neg hmemory] at h
    refine .orInvalidMemory (readU64_leads hbytes (fun value hvalue => h value ?_) fun _ => trivial)
    rw [valueAt_memory64, hvalue, Option.map_some]

theorem loadRm32_leads {Q : UInt32 → Machine σ → Prop}
    (h : ∀ value, machine.valueAt false operand.place = some value.toBitVec → Q value machine) :
    Leads machine (loadRm32 operand) Q True := by
  unfold loadRm32
  rw [DecodedRmOperand.place] at h
  split
  · next hregister =>
    rw [if_pos hregister] at h
    exact getRegister32_leads (h _ (valueAt_register32 _))
  · next hmemory =>
    rw [if_neg hmemory] at h
    refine .orInvalidMemory (readU32_leads hbytes (fun value hvalue => h value ?_) fun _ => trivial)
    rw [valueAt_memory32, hvalue, Option.map_some]

/-- Writing a quadword into guest memory assigns the place. -/
theorem writeU64_leads {guestAddress value : UInt64} {Q : Unit → Machine σ → Prop}
    (h : machine.Holds true (.memory guestAddress) →
      Q () (@Machine.assign _ true machine (.memory guestAddress) value.toBitVec)) :
    Leads machine (orInvalidMemory (writeU64 guestAddress value)) Q True := by
  refine .orInvalidMemory (writeGuest_leads hbytes (fun hholds => ?_) fun _ => trivial)
  rw [length_toLittleEndian] at hholds
  rw [Machine.assign, zeroExtended_64] at h
  exact h hholds

/-- Writing a word into guest memory assigns the place. -/
theorem writeU32_leads {guestAddress : UInt64} {value : UInt32} {Q : Unit → Machine σ → Prop}
    (h : machine.Holds false (.memory guestAddress) →
      Q () (@Machine.assign _ false machine (.memory guestAddress) value.toBitVec)) :
    Leads machine (orInvalidMemory (writeU32 guestAddress value)) Q True := by
  refine .orInvalidMemory (writeGuest_leads hbytes (fun hholds => ?_) fun _ => trivial)
  rw [length_toLittleEndian] at hholds
  rw [Machine.assign, zeroExtended_32] at h
  exact h hholds

omit hbytes in
theorem assignRegister64_leads {index : UInt32} {value : UInt64} {Q : Unit → Machine σ → Prop}
    (h : Q () (@Machine.assign _ true machine (.register index) value.toBitVec)) :
    Leads machine (setRegister64 index value) Q fails := by
  rw [Machine.assign, zeroExtended_64] at h
  exact setRegister64_leads h

omit hbytes in
theorem assignRegister32_leads {index : UInt32} {value : UInt32} {Q : Unit → Machine σ → Prop}
    (h : Q () (@Machine.assign _ false machine (.register index) value.toBitVec)) :
    Leads machine (setRegister32 index value) Q fails := by
  rw [Machine.assign, zeroExtended_32] at h
  exact setRegister32_leads h

variable (hindex : operand.rmIndex < 16)

include hindex

theorem storeRm64_leads {value : UInt64} {Q : Unit → Machine σ → Prop}
    (h : machine.Holds true operand.place →
      Q () (@Machine.assign _ true machine operand.place value.toBitVec)) :
    Leads machine (storeRm64 operand value) Q True := by
  unfold storeRm64
  rw [DecodedRmOperand.place] at h
  split
  · next hregister =>
    rw [if_pos hregister] at h
    exact assignRegister64_leads (h hindex)
  · next hmemory =>
    rw [if_neg hmemory] at h
    exact writeU64_leads hbytes h

theorem storeRm32_leads {value : UInt32} {Q : Unit → Machine σ → Prop}
    (h : machine.Holds false operand.place →
      Q () (@Machine.assign _ false machine operand.place value.toBitVec)) :
    Leads machine (storeRm32 operand value) Q True := by
  unfold storeRm32
  rw [DecodedRmOperand.place] at h
  split
  · next hregister =>
    rw [if_pos hregister] at h
    exact assignRegister32_leads (h hindex)
  · next hmemory =>
    rw [if_neg hmemory] at h
    exact writeU32_leads hbytes h

end Operands

section Immediates

theorem displacement8_toBitVec (byte : UInt8) :
    (displacement8 byte.toInt8).toBitVec = BitVec.ofInt 64 byte.toInt8.toInt := by
  rw [displacement8]
  rfl

theorem displacement32_toBitVec (word : UInt32) :
    (displacement32 word.toInt32).toBitVec = BitVec.ofInt 64 word.toInt32.toInt := by
  rw [displacement32]
  rfl

theorem immediate8_toBitVec (byte : UInt8) :
    byte.toInt8.toInt32.toUInt32.toBitVec = BitVec.ofInt 32 byte.toInt8.toInt := by
  rfl

theorem immediate32_toBitVec (word : UInt32) :
    word.toBitVec = BitVec.ofInt 32 word.toInt32.toInt := by
  exact (BitVec.ofInt_toInt).symm

end Immediates

section Decoding

variable {machine : Machine σ} {instruction : DecodedInstruction} {modrmAddress : UInt64}
  {modrm : UInt8}

/-- The operand of a ModRM byte that selects a register. -/
theorem rmOperand_register (hmodrm : machine.byteAt modrmAddress = some modrm)
    (hmod : modField modrm = 3) :
    ∃ operand, machine.rmOperand instruction modrmAddress = some operand ∧
      operand.place = .register (registerIndex (rmField modrm) instruction.rexB) ∧
      operand.operation = regField modrm ∧ operand.nextInstruction = modrmAddress + 1 := by
  rw [Machine.rmOperand, hmodrm, Option.bind_some, if_pos hmod, Option.map_some]
  exact ⟨_, rfl, by simp [DecodedRmOperand.place, hmod], rfl, rfl⟩

/-- The operand of a ModRM byte that selects memory. -/
theorem rmOperand_memory (hmodrm : machine.byteAt modrmAddress = some modrm)
    (hmod : modField modrm ≠ 3) {decoded : UInt64 × UInt64}
    (hdecoded : machine.effectiveAddress instruction modrmAddress modrm = some decoded) :
    ∃ operand, machine.rmOperand instruction modrmAddress = some operand ∧
      operand.place = .memory decoded.1 ∧ operand.rmAddress = decoded.1 ∧
      operand.nextInstruction = decoded.2 := by
  rw [Machine.rmOperand, hmodrm, Option.bind_some, if_neg hmod, hdecoded, Option.map_some]
  exact ⟨_, rfl, by simp [DecodedRmOperand.place, hmod], rfl, rfl⟩

/-- The register number of a decoded operand is in range. -/
theorem rmOperand_index {operand : DecodedRmOperand}
    (h : machine.rmOperand instruction modrmAddress = some operand) : operand.rmIndex < 16 :=
  (rmOperand_spec h).1

theorem withOperands_eq {operand : DecodedRmOperand}
    (hmodrm : machine.byteAt instruction.nextAddress = some modrm)
    (hoperand : machine.rmOperand instruction instruction.nextAddress = some operand)
    (build : DecodedRmOperand → UInt8 → IntegerInstruction) :
    machine.withOperands instruction build = some (build operand modrm) := by
  rw [Machine.withOperands, hmodrm, hoperand]
  rfl

theorem withImmediate_eq {operand : DecodedRmOperand} {immediateAt : UInt64 → Option Int}
    {immediate : Int}
    (hoperand : machine.rmOperand instruction instruction.nextAddress = some operand)
    (himmediate : immediateAt operand.nextInstruction = some immediate)
    (build : DecodedRmOperand → Int → Option IntegerInstruction) :
    machine.withImmediate instruction immediateAt build = build operand immediate := by
  rw [Machine.withImmediate, hoperand]
  show (immediateAt operand.nextInstruction).bind _ = _
  rw [himmediate]
  rfl

/-- The decoders of r/m operands lead to the operand. -/
theorem tryDecodeRmOperand_leads (hbytes : machine.memory.bytes ≠ 0)
    {Q : DecodedRmOperand → Machine σ → Prop}
    (h : ∀ operand, machine.rmOperand instruction modrmAddress = some operand → Q operand machine) :
    Leads machine (orInvalidMemory (tryDecodeRmOperand instruction modrmAddress)) Q True :=
  .orInvalidMemory (Denotes.leads (fun _ hstart =>
    hstart ▸ tryDecodeRmOperand_denotes (hstart ▸ hbytes) instruction modrmAddress) h
    fun _ => trivial)

theorem tryGetMemoryOperandAddress_leads (hbytes : machine.memory.bytes ≠ 0)
    (hmod : modField modrm ≠ 3) {faultOpcode : UInt8} {Q : UInt64 × UInt64 → Machine σ → Prop}
    (h : ∀ decoded, machine.effectiveAddress instruction modrmAddress modrm = some decoded →
      Q decoded machine) :
    Leads machine
      (orUnsupported faultOpcode (tryGetMemoryOperandAddress instruction modrmAddress modrm)) Q
      True :=
  .orUnsupported (Denotes.leads (fun _ hstart =>
    hstart ▸ tryGetMemoryOperandAddress_denotes (hstart ▸ hbytes) instruction modrmAddress hmod) h
    fun _ => trivial)

end Decoding

end Ringos.Emulator
