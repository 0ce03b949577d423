import Ringos.Emulator.OperandSizes

/-!
# The handlers ignore the operand size prefix

Without REX.W every handler works on 32 bits, and on 64 bits of the stack: it
carries out the operation that the instruction stands for at 32 bits and goes on
behind a 32-bit immediate, or it stops as that operation does.
-/

namespace Ringos.Emulator

open Ringos.Core
open Exec

variable {σ α β : Type}

section Decoding

@[simp] theorem required_some (a : α) : required (some a) = .ok a := rfl

@[simp] theorem required_none : required (none : Option α) = .error .invalidMemoryAccess := rfl

@[simp] theorem supported_true : supported true = .ok () := rfl

@[simp] theorem supported_false : supported false = .error .unsupportedInstruction := rfl

@[simp] theorem ok_bind (a : α) (f : α → Except Completion β) : (Except.ok a >>= f) = f a := rfl

@[simp] theorem error_bind (completion : Completion) (f : α → Except Completion β) :
    (Except.error completion >>= f) = .error completion := rfl

namespace Machine

variable {machine : Machine σ} {place : Place}

/-- A place that has a 32-bit value is reachable. -/
theorem reachable_of_valueAt {value : BitVec 32} (h : machine.valueAt false place = some value) :
    machine.reachable .bits32 place = .ok () := by
  cases place with
  | register index => rfl
  | memory guestAddress =>
    obtain ⟨bytes, hloaded, -⟩ := Option.map_eq_some_iff.mp h
    obtain ⟨offset, hoffset, -⟩ := Option.map_eq_some_iff.mp hloaded
    have hfound : machine.memory.offsetOf guestAddress OperandSize.bits32.bytes = some offset :=
      hoffset
    rw [reachable, hfound]
    rfl

/-- A place that has no 32-bit value is refused. -/
theorem reachable_of_valueAt_none (h : machine.valueAt false place = none) :
    machine.reachable .bits32 place = .error .invalidMemoryAccess := by
  cases place with
  | register index => cases h
  | memory guestAddress =>
    have hnone : machine.memory.offsetOf guestAddress OperandSize.bits32.bytes = none :=
      Option.map_eq_none_iff.mp (Option.map_eq_none_iff.mp h)
    rw [reachable, hnone]
    rfl

/-- A place that exists at 32 bits is reachable. -/
theorem reachable_of_holds (h : machine.Holds false place) :
    machine.reachable .bits32 place = .ok () := by
  cases place with
  | register index => rfl
  | memory guestAddress =>
    obtain ⟨offset, hoffset⟩ := Option.isSome_iff_exists.mp h
    have hfound : machine.memory.offsetOf guestAddress OperandSize.bits32.bytes = some offset :=
      hoffset
    rw [reachable, hfound]
    rfl

end Machine

end Decoding

/-- What the handlers do at an operation without REX.W. -/
def SizedOperation.Carried (machine : Machine σ) (behind : UInt64) (next : Machine σ)
    (last : Option Nat) : SizedOperation → Prop
  | .integer operation =>
    (∃ effect, operation.effect false machine = some effect ∧ effect.Left machine behind next) ∧
      (operation.UsesMemory → last = some 4)
  | .push _ | .pop _ => last = some 8
  | .exchange index => index < 16 ∧ next = machine.jumpTo behind

/-- Code that carries out the operation of an instruction at 32 bits, or stops as it does. -/
def Machine.Follows (machine : Machine σ) (instruction : DecodedInstruction)
    (x : Exec σ InstructionOutcome) : Prop :=
  ∀ latest, Ends machine latest x
    (fun outcome next last => outcome = .continueRunning ∧ ∃ operation behind,
      machine.operationAt .bits32 instruction = .ok (operation, behind) ∧
        operation.Carried machine behind next last)
    fun completion => machine.operationAt .bits32 instruction = .error completion

namespace IntegerInstruction

variable {machine : Machine σ} {x y : BitVec (operandBits false)} {destination : Place}
  {source : Source} {flags behind : UInt64} {last : Option Nat}

theorem carried_binary {operation : BinaryOperation} (hwrites : operation.writes = true)
    (hx : machine.valueAt false destination = some x)
    (hy : machine.sourceValue false source = some y)
    (hholds : machine.Holds false destination)
    (hflags : statusFlags flags = operation.status x y)
    (hlast : (binary operation destination source).UsesMemory → last = some 4) :
    (SizedOperation.integer (binary operation destination source)).Carried machine behind
      (((machine.assign destination (operation.result x y)).setFlags flags).jumpTo behind) last := by
  refine ⟨⟨⟨some (destination, operation.result x y), some (operation.status x y)⟩, ?_, ?_, flags,
    hflags, rfl⟩, hlast⟩
  · simp only [effect, hx, hy, Option.bind_eq_bind, Option.bind_some, hwrites, if_true]
  · intro place value h
    cases h
    exact hholds

theorem carried_flags {operation : BinaryOperation} (hwrites : operation.writes = false)
    (hx : machine.valueAt false destination = some x)
    (hy : machine.sourceValue false source = some y)
    (hflags : statusFlags flags = operation.status x y)
    (hlast : (binary operation destination source).UsesMemory → last = some 4) :
    (SizedOperation.integer (binary operation destination source)).Carried machine behind
      ((machine.setFlags flags).jumpTo behind) last := by
  refine ⟨⟨⟨none, some (operation.status x y)⟩, ?_, by simp, flags, hflags, rfl⟩, hlast⟩
  simp only [effect, hx, hy, Option.bind_eq_bind, Option.bind_some, hwrites, Bool.false_eq_true,
    if_false]

theorem carried_unary {operation : UnaryOperation}
    (hx : machine.valueAt false destination = some x)
    (hholds : machine.Holds false destination)
    (hflags : statusFlags flags =
      operation.status x (flagSet machine.state.flags rflagsCarry))
    (hlast : (unary operation destination).UsesMemory → last = some 4) :
    (SizedOperation.integer (unary operation destination)).Carried machine behind
      (((machine.assign destination (operation.result x)).setFlags flags).jumpTo behind) last := by
  refine ⟨⟨⟨some (destination, operation.result x),
    some (operation.status x (flagSet machine.state.flags rflagsCarry))⟩, ?_, ?_, flags,
      hflags, rfl⟩, hlast⟩
  · simp only [effect, hx, Option.bind_eq_bind, Option.bind_some]
  · intro place value h
    cases h
    exact hholds

theorem carried_move (hx : machine.sourceValue false source = some x)
    (hholds : machine.Holds false destination)
    (hlast : (move destination source).UsesMemory → last = some 4) :
    (SizedOperation.integer (move destination source)).Carried machine behind
      ((machine.assign destination x).jumpTo behind) last := by
  refine ⟨⟨⟨some (destination, x), none⟩, ?_, ?_, machine.state.flags, rfl, ?_⟩, hlast⟩
  · simp only [effect, hx, Option.bind_eq_bind, Option.bind_some]
  · intro place value h
    cases h
    exact hholds
  · rw [Effect.leaves, assign_setFlags]

theorem carried_loadAddress {guestAddress : UInt64}
    (hholds : machine.Holds false destination)
    (hlast : (loadAddress destination guestAddress).UsesMemory → last = some 4) :
    (SizedOperation.integer (loadAddress destination guestAddress)).Carried machine behind
      ((machine.assign destination (lowBits false guestAddress)).jumpTo behind) last := by
  refine ⟨⟨⟨some (destination, lowBits false guestAddress), none⟩, rfl, ?_, machine.state.flags,
    rfl, ?_⟩, hlast⟩
  · intro place value h
    cases h
    exact hholds
  · rw [Effect.leaves, assign_setFlags]

end IntegerInstruction

section Operands

variable {machine : Machine σ} {latest : Option Nat} (hbytes : machine.memory.bytes ≠ 0)
  {stops : Completion → Prop} {operand : DecodedRmOperand}

include hbytes

theorem tryDecodeRmOperand_ends {instruction : DecodedInstruction} {modrmAddress : UInt64}
    {Q : DecodedRmOperand → Machine σ → Option Nat → Prop}
    (h : ∀ operand last, machine.rmOperand instruction modrmAddress = some operand →
      Q operand machine last)
    (hrefused : machine.rmOperand instruction modrmAddress = none → stops .invalidMemoryAccess) :
    Ends machine latest (orInvalidMemory (tryDecodeRmOperand instruction modrmAddress)) Q stops :=
  .orInvalidMemory (Denotes.ends (fun _ hstart =>
    hstart ▸ tryDecodeRmOperand_denotes (hstart ▸ hbytes) instruction modrmAddress) h hrefused)

theorem tryGetMemoryOperandAddress_ends {instruction : DecodedInstruction} {modrmAddress : UInt64}
    {modrm : UInt8} (hmod : modField modrm ≠ 3) {faultOpcode : UInt8}
    {Q : UInt64 × UInt64 → Machine σ → Option Nat → Prop}
    (h : ∀ decoded last, machine.effectiveAddress instruction modrmAddress modrm = some decoded →
      Q decoded machine last)
    (hrefused : machine.effectiveAddress instruction modrmAddress modrm = none →
      stops .invalidMemoryAccess) :
    Ends machine latest
      (orUnsupported faultOpcode (tryGetMemoryOperandAddress instruction modrmAddress modrm)) Q
      stops :=
  Denotes.ends (fun _ hstart => (hstart ▸ tryGetMemoryOperandAddress_denotes (hstart ▸ hbytes)
    instruction modrmAddress hmod : Denotes _ _ (machine.effectiveAddress instruction modrmAddress
      modrm)).orUnsupported _) h hrefused

theorem loadRm32_ends {Q : UInt32 → Machine σ → Option Nat → Prop}
    (h : ∀ value last, (operand.place.InMemory → last = some 4) →
      machine.valueAt false operand.place = some value.toBitVec → Q value machine last)
    (hrefused : machine.reachable .bits32 operand.place = .error .invalidMemoryAccess →
      stops .invalidMemoryAccess) :
    Ends machine latest (loadRm32 operand) Q stops := by
  unfold loadRm32
  rw [DecodedRmOperand.place] at h hrefused
  split
  · next hregister =>
    rw [if_pos hregister] at h
    exact getRegister32_ends (h _ _ False.elim (valueAt_register32 _))
  · next hmemory =>
    rw [if_neg hmemory] at h hrefused
    refine readU32_ends hbytes (fun value hvalue => h value _ (fun _ => rfl) ?_) fun hnone =>
      hrefused (Machine.reachable_of_valueAt_none ?_)
    · rw [valueAt_memory32, hvalue, Option.map_some]
    · rw [valueAt_memory32, hnone]
      rfl

/-- Writing a word into guest memory assigns the place. -/
theorem writeU32_ends {guestAddress : UInt64} {value : UInt32}
    {Q : Unit → Machine σ → Option Nat → Prop}
    (h : machine.Holds false (.memory guestAddress) →
      Q () (@Machine.assign _ false machine (.memory guestAddress) value.toBitVec) (some 4))
    (hrefused : machine.reachable .bits32 (.memory guestAddress) = .error .invalidMemoryAccess →
      stops .invalidMemoryAccess) :
    Ends machine latest (orInvalidMemory (writeU32 guestAddress value)) Q stops := by
  refine .orInvalidMemory (writeGuest_ends hbytes (fun hholds => ?_) fun hnone => hrefused ?_)
  · rw [length_toLittleEndian] at hholds
    rw [Machine.assign, zeroExtended_32] at h
    exact h hholds
  · rw [length_toLittleEndian] at hnone
    have hmissing : machine.memory.offsetOf guestAddress OperandSize.bits32.bytes = none := hnone
    rw [Machine.reachable, hmissing]
    rfl

/-- An operand that has been read can be written. -/
theorem storeRm32_ends (hindex : operand.rmIndex < 16) {value : UInt32}
    (hreach : machine.reachable .bits32 operand.place = .ok ())
    {Q : Unit → Machine σ → Option Nat → Prop}
    (h : ∀ last, (operand.place.InMemory → last = some 4) → machine.Holds false operand.place →
      Q () (@Machine.assign _ false machine operand.place value.toBitVec) last) :
    Ends machine latest (storeRm32 operand value) Q stops := by
  unfold storeRm32
  rw [DecodedRmOperand.place] at h hreach
  split
  · next hregister =>
    rw [if_pos hregister] at h
    exact setRegister32_ends (h _ False.elim hindex)
  · next hmemory =>
    rw [if_neg hmemory] at h hreach
    refine writeU32_ends hbytes (fun hholds => h _ (fun _ => rfl) hholds) fun hrefused => ?_
    rw [hreach] at hrefused
    cases hrefused

end Operands

section Forms

variable {machine : Machine σ} {instruction : DecodedInstruction} {modrm : UInt8}
  {operand : DecodedRmOperand} (hmodrm : machine.byteAt instruction.nextAddress = some modrm)
  (hoperand : machine.rmOperand instruction instruction.nextAddress = some operand)

include hmodrm hoperand

theorem rmForm_ok (hreach : machine.reachable .bits32 operand.place = .ok ())
    (build : DecodedRmOperand → UInt8 → IntegerInstruction) :
    machine.rmForm .bits32 instruction build =
      .ok (.integer (build operand modrm), operand.nextInstruction) := by
  simp only [Machine.rmForm, hmodrm, hoperand, required_some, ok_bind, hreach]
  rfl

theorem rmForm_refused
    (hreach : machine.reachable .bits32 operand.place = .error .invalidMemoryAccess)
    (build : DecodedRmOperand → UInt8 → IntegerInstruction) :
    machine.rmForm .bits32 instruction build = .error .invalidMemoryAccess := by
  simp only [Machine.rmForm, hmodrm, hoperand, required_some, ok_bind, hreach, error_bind]

/-- An instruction whose operands are registers. -/
theorem registerForm_ok (hmod : modField modrm = 3)
    (build : DecodedRmOperand → UInt8 → IntegerInstruction) :
    machine.registerForm .bits32 instruction build =
      .ok (.integer (build operand modrm), operand.nextInstruction) := by
  obtain ⟨other, hother, hplace, -⟩ := @rmOperand_register _ _ instruction _ _ hmodrm hmod
  obtain rfl : operand = other := Option.some.inj (hoperand.symm.trans hother)
  rw [Machine.registerForm, hmodrm]
  simp only [required_some, ok_bind, hmod, decide_true, supported_true]
  exact rmForm_ok hmodrm hoperand (by rw [hplace]; rfl) build

end Forms

section Handlers

variable {machine : Machine σ} (hbytes : machine.memory.bytes ≠ 0)
  {instruction : DecodedInstruction}

include hbytes

theorem executeX64XorRegister_follows (hopcode : instruction.opcode = 0x31)
    (hrex : instruction.rexW = false) :
    machine.Follows instruction (executeX64XorRegister instruction) := by
  intro latest
  have hform : machine.operationAt .bits32 instruction =
      machine.registerForm .bits32 instruction fun operand modrm =>
        .binary .xor operand.place (.place (registerPlace instruction modrm)) := by
    simp [Machine.operationAt, hopcode]
  unfold executeX64XorRegister
  rw [if_neg (by simp [hrex])]
  refine .bind (readU8_ends hbytes (fun modrm _ hmodrm => ?_) fun hnone => ?_)
  · split
    · next hmod =>
      exact unsupported_ends (by simp [hform, Machine.registerForm, hmodrm, hmod])
    next hmod =>
    obtain ⟨operand, hoperand, hplace, -, hnext⟩ :=
      @rmOperand_register _ _ instruction _ _ hmodrm (not_not.mp hmod)
    have hoperation := hform.trans (registerForm_ok hmodrm hoperand (not_not.mp hmod) _)
    refine .bind (getRegister32_ends (.bind (getRegister32_ends (.bind (setRegister32_ends
      (.bind (changeFlags_ends (continueAt_ends ⟨rfl, _, _, hoperation, ?_⟩))))))))
    rw [hplace, hnext]
    exact IntegerInstruction.carried_binary rfl (valueAt_register32 _) (valueAt_register32 _)
      (rmIndex_lt modrm _) (statusFlags_logic32 _ _) fun h => h.elim False.elim False.elim
  · simp [hform, Machine.registerForm, hnone]

theorem executeX64TestRegister_follows (hopcode : instruction.opcode = 0x85)
    (hrex : instruction.rexW = false) :
    machine.Follows instruction (executeX64TestRegister instruction) := by
  intro latest
  have hform : machine.operationAt .bits32 instruction =
      machine.registerForm .bits32 instruction fun operand modrm =>
        .binary .test operand.place (.place (registerPlace instruction modrm)) := by
    simp [Machine.operationAt, hopcode]
  unfold executeX64TestRegister
  refine .bind (readU8_ends hbytes (fun modrm _ hmodrm => ?_) fun hnone => ?_)
  · split
    · next hmod =>
      exact unsupported_ends (by simp [hform, Machine.registerForm, hmodrm, hmod])
    next hmod =>
    obtain ⟨operand, hoperand, hplace, -, hnext⟩ :=
      @rmOperand_register _ _ instruction _ _ hmodrm (not_not.mp hmod)
    have hoperation := hform.trans (registerForm_ok hmodrm hoperand (not_not.mp hmod) _)
    rw [if_neg (by simp [hrex])]
    refine .bind (getRegister32_ends (.bind (getRegister32_ends
      (.bind (changeFlags_ends (continueAt_ends ⟨rfl, _, _, hoperation, ?_⟩))))))
    rw [hplace, hnext]
    exact IntegerInstruction.carried_flags rfl (valueAt_register32 _) (valueAt_register32 _)
      (statusFlags_logic32 _ _) fun h => h.elim False.elim False.elim
  · simp [hform, Machine.registerForm, hnone]

theorem executeX64OrRmToRegister_follows (hopcode : instruction.opcode = 0x0B)
    (hrex : instruction.rexW = false) :
    machine.Follows instruction (executeX64OrRmToRegister instruction) := by
  intro latest
  have hform : machine.operationAt .bits32 instruction =
      machine.rmForm .bits32 instruction fun operand modrm =>
        .binary .or (registerPlace instruction modrm) (.place operand.place) := by
    simp [Machine.operationAt, hopcode]
  unfold executeX64OrRmToRegister
  refine .bind (readU8_ends hbytes (fun modrm _ hmodrm => ?_) fun hnone => ?_)
  · refine .bind (tryDecodeRmOperand_ends hbytes (fun operand _ hoperand => ?_) fun hnone => ?_)
    · rw [if_neg (by simp [hrex])]
      refine .bind (loadRm32_ends hbytes (fun rhs last hlast hrhs => ?_) fun hrefused =>
        hform.trans (rmForm_refused hmodrm hoperand hrefused _))
      have hoperation := hform.trans
        (rmForm_ok hmodrm hoperand (Machine.reachable_of_valueAt hrhs) _)
      refine .bind (getRegister32_ends (.bind (setRegister32_ends (.bind (changeFlags_ends
        (continueAt_ends ⟨rfl, _, _, hoperation, ?_⟩))))))
      exact IntegerInstruction.carried_binary rfl (valueAt_register32 _) hrhs
        (regIndex_lt modrm _) (statusFlags_logic32 _ _) fun h => h.elim False.elim hlast
    · simp [hform, Machine.rmForm, hmodrm, hnone]
  · simp [hform, Machine.rmForm, hnone]

theorem executeX64CompareRmWithRegister_follows (hopcode : instruction.opcode = 0x39)
    (hrex : instruction.rexW = false) :
    machine.Follows instruction (executeX64CompareRmWithRegister instruction) := by
  intro latest
  have hform : machine.operationAt .bits32 instruction =
      machine.rmForm .bits32 instruction fun operand modrm =>
        .binary .cmp operand.place (.place (registerPlace instruction modrm)) := by
    simp [Machine.operationAt, hopcode]
  unfold executeX64CompareRmWithRegister
  refine .bind (readU8_ends hbytes (fun modrm _ hmodrm => ?_) fun hnone => ?_)
  · refine .bind (tryDecodeRmOperand_ends hbytes (fun operand _ hoperand => ?_) fun hnone => ?_)
    · rw [if_neg (by simp [hrex])]
      refine .bind (getRegister32_ends (.bind (loadRm32_ends hbytes
        (fun lhs last hlast hlhs => ?_) fun hrefused =>
          hform.trans (rmForm_refused hmodrm hoperand hrefused _))))
      have hoperation := hform.trans
        (rmForm_ok hmodrm hoperand (Machine.reachable_of_valueAt hlhs) _)
      refine .bind (changeFlags_ends (continueAt_ends ⟨rfl, _, _, hoperation, ?_⟩))
      exact IntegerInstruction.carried_flags rfl hlhs (valueAt_register32 _)
        (statusFlags_compare32 _ _ _) fun h => h.elim hlast False.elim
    · simp [hform, Machine.rmForm, hmodrm, hnone]
  · simp [hform, Machine.rmForm, hnone]

theorem executeX64TestAccumulatorImmediate_follows (hopcode : instruction.opcode = 0xA9)
    (hrex : instruction.rexW = false) :
    machine.Follows instruction (executeX64TestAccumulatorImmediate instruction) := by
  intro latest
  have hform : machine.operationAt .bits32 instruction = (do
      let immediate ← required (machine.immediate32At instruction.nextAddress)
      pure (.integer (.binary .test (.register rax) (.immediate immediate)),
        instruction.nextAddress + 4)) := by
    simp [Machine.operationAt, hopcode, Machine.immediateAt, OperandSize.immediateBytes]
  unfold executeX64TestAccumulatorImmediate
  refine .bind (readU32_ends hbytes (fun word hword => ?_) fun hnone => ?_)
  · have hoperation : machine.operationAt .bits32 instruction =
        .ok (.integer (.binary .test (.register rax) (.immediate word.toInt32.toInt)),
          instruction.nextAddress + 4) := by
      rw [hform, Machine.immediate32At, hword]
      rfl
    rw [if_neg (by simp [hrex])]
    refine .bind (getRegister32_ends
      (.bind (changeFlags_ends (continueAt_ends ⟨rfl, _, _, hoperation, ?_⟩))))
    refine IntegerInstruction.carried_flags rfl (valueAt_register32 _)
      (congrArg some (immediate32_toBitVec word).symm) ?_ fun h => h.elim False.elim False.elim
    exact statusFlags_logic32 _ _
  · rw [hform, Machine.immediate32At, hnone]
    rfl

theorem executeX64MovImmediate32_follows (hlow : 0xB8 ≤ instruction.opcode)
    (hhigh : instruction.opcode ≤ 0xBF) (hrex : instruction.rexW = false) :
    machine.Follows instruction (executeX64MovImmediate32 instruction) := by
  intro latest
  have hindex := opcodeIndex_lt instruction.rexB hlow hhigh (by decide)
  have hform : machine.operationAt .bits32 instruction = (do
      let immediate ← required (machine.immediate32At instruction.nextAddress)
      pure (.integer (.move (.register (instruction.opcode.toUInt32 - 0xB8 +
        if instruction.rexB then 8 else 0)) (.immediate immediate)),
          instruction.nextAddress + 4)) := by
    have hpush : ¬ instruction.opcode ≤ 0x57 := fun h =>
      absurd (UInt8.le_trans hlow h) (by decide)
    have hpop : ¬ instruction.opcode ≤ 0x5F := fun h =>
      absurd (UInt8.le_trans hlow h) (by decide)
    simp only [Machine.operationAt, hpush, hpop, hlow, hhigh, and_false, and_self, if_true, if_false]
    rfl
  unfold executeX64MovImmediate32 rejectRexW
  rw [if_neg (by simp [hrex])]
  refine .bind (.pure (.bind (readU32_ends hbytes (fun word hword => ?_) fun hnone => ?_)))
  · have hoperation : machine.operationAt .bits32 instruction =
        .ok (.integer (.move (.register (instruction.opcode.toUInt32 - 0xB8 +
          if instruction.rexB then 8 else 0)) (.immediate word.toInt32.toInt)),
            instruction.nextAddress + 4) := by
      rw [hform, Machine.immediate32At, hword]
      rfl
    refine .bind (setRegister32_ends (continueAt_ends ⟨rfl, _, _, hoperation, ?_⟩))
    exact IntegerInstruction.carried_move (congrArg some (immediate32_toBitVec word).symm)
      hindex fun h => h.elim False.elim False.elim
  · rw [hform, Machine.immediate32At, hnone]
    rfl

theorem executeX64GroupF7_follows (hopcode : instruction.opcode = 0xF7)
    (hrex : instruction.rexW = false) :
    machine.Follows instruction (executeX64GroupF7 instruction) := by
  intro latest
  have hform : machine.operationAt .bits32 instruction = (do
      let operand ← required (machine.rmOperand instruction instruction.nextAddress)
      supported (operand.operation = 3)
      machine.rmForm .bits32 instruction fun operand _ => .unary .neg operand.place) := by
    simp [Machine.operationAt, hopcode]
  unfold executeX64GroupF7
  refine .bind (tryDecodeRmOperand_ends hbytes (fun operand _ hoperand => ?_) fun hnone => ?_)
  · rw [hoperand, required_some, ok_bind] at hform
    split
    · next hoperation =>
      exact unsupported_ends (by simp [hform, hoperation])
    next hoperation =>
    obtain ⟨modrm, hmodrm, -⟩ := Option.bind_eq_some_iff.mp hoperand
    rw [decide_eq_true (not_not.mp hoperation), supported_true, ok_bind] at hform
    rw [if_neg (by simp [hrex])]
    refine .bind (loadRm32_ends hbytes (fun rhs _ _ hrhs => ?_) fun hrefused =>
      hform.trans (rmForm_refused hmodrm hoperand hrefused _))
    have hreach := Machine.reachable_of_valueAt hrhs
    have hneg := hform.trans (rmForm_ok hmodrm hoperand hreach _)
    refine .bind (storeRm32_ends hbytes (rmOperand_index hoperand) hreach fun last hlast hholds =>
      .bind (changeFlags_ends (continueAt_ends ⟨rfl, _, _, hneg, ?_⟩)))
    have hflags (flags : UInt64) :
        statusFlags (compareFlags flags 0 rhs.toUInt64 (0 - rhs).toUInt64 false) =
          .neg rhs.toBitVec := by
      rw [StatusFlags.neg_eq_sub]
      exact statusFlags_compare32 flags 0 rhs
    have hresult : (0 - rhs).toBitVec = -rhs.toBitVec := by
      rw [UInt32.toBitVec_sub]
      exact BitVec.zero_sub _
    rw [hresult]
    exact IntegerInstruction.carried_unary hrhs hholds (hflags _) hlast
  · simp [hform, hnone]

/-- Opcodes `81` and `83` once their immediate is read. -/
theorem executeArithmeticImmediate_ends {operand : DecodedRmOperand}
    (hindex : operand.rmIndex < 16) {immediate : Int} {immediate64 : UInt64}
    {immediate32 : UInt32} (h32 : immediate32.toBitVec = BitVec.ofInt 32 immediate)
    {behind : UInt64} (hrex : instruction.rexW = false) {latest : Option Nat}
    (hoperation : machine.operationAt .bits32 instruction = (do
      machine.reachable .bits32 operand.place
      match arithmeticOperation operand.operation with
      | none => .error .unsupportedInstruction
      | some operation =>
        pure (.integer (.binary operation operand.place (.immediate immediate)), behind))) :
    Ends machine latest
      (executeArithmeticImmediate instruction operand immediate64 immediate32 behind)
      (fun outcome next last => outcome = .continueRunning ∧ ∃ operation behind,
        machine.operationAt .bits32 instruction = .ok (operation, behind) ∧
          operation.Carried machine behind next last)
      fun completion => machine.operationAt .bits32 instruction = .error completion := by
  unfold executeArithmeticImmediate
  rw [if_neg (by simp [hrex])]
  have hsource : machine.sourceValue false (.immediate immediate) = some immediate32.toBitVec :=
    congrArg some h32.symm
  refine .bind (loadRm32_ends hbytes (fun lhs last hlast hlhs => ?_) fun hrefused => by
    rw [hoperation, hrefused, error_bind])
  have hreach := Machine.reachable_of_valueAt hlhs
  rw [hreach, ok_bind] at hoperation
  split
  · next hadd =>
    rw [hadd] at hoperation
    refine .bind (storeRm32_ends hbytes hindex hreach fun last hlast hholds =>
      .bind (changeFlags_ends (continueAt_ends ⟨rfl, _, _, hoperation, ?_⟩)))
    exact IntegerInstruction.carried_binary (show BinaryOperation.writes .add = true from rfl) hlhs hsource hholds
      (statusFlags_add32 _ _ _) fun h => h.elim hlast False.elim
  split
  · next hsub =>
    rw [hsub] at hoperation
    refine .bind (storeRm32_ends hbytes hindex hreach fun last hlast hholds =>
      .bind (changeFlags_ends (continueAt_ends ⟨rfl, _, _, hoperation, ?_⟩)))
    exact IntegerInstruction.carried_binary (show BinaryOperation.writes .sub = true from rfl) hlhs hsource hholds
      (statusFlags_compare32 _ _ _) fun h => h.elim hlast False.elim
  split
  · next hcmp =>
    rw [hcmp] at hoperation
    refine .bind (changeFlags_ends (continueAt_ends ⟨rfl, _, _, hoperation, ?_⟩))
    exact IntegerInstruction.carried_flags (show BinaryOperation.writes .cmp = false from rfl) hlhs hsource
      (statusFlags_compare32 _ _ _) fun h => h.elim hlast False.elim
  next hadd hsub hcmp =>
  exact unsupported_ends (by simp [hoperation, arithmeticOperation, hadd, hsub, hcmp])

theorem executeX64Group81_follows (hopcode : instruction.opcode = 0x81)
    (hrex : instruction.rexW = false) :
    machine.Follows instruction (executeX64Group81 instruction) := by
  intro latest
  have hform : machine.operationAt .bits32 instruction =
      machine.arithmeticForm .bits32 instruction fun immediateAddress => (do
        let immediate ← machine.immediateAt .bits32 immediateAddress
        pure (immediate, immediateAddress + 4)) := by
    simp [Machine.operationAt, hopcode, OperandSize.immediateBytes]
  unfold executeX64Group81
  refine .bind (tryDecodeRmOperand_ends hbytes (fun operand _ hoperand => ?_) fun hnone => ?_)
  · refine .bind (readI32_ends hbytes (fun word hword => ?_) fun hnone => ?_)
    · refine executeArithmeticImmediate_ends hbytes (rmOperand_index hoperand)
        (immediate32_toBitVec word) hrex ?_
      simp only [hform, Machine.arithmeticForm, hoperand, required_some, ok_bind,
        Machine.immediateAt, Machine.immediate32At, hword, Option.map_some]
      rfl
    · simp [hform, Machine.arithmeticForm, hoperand, Machine.immediateAt, Machine.immediate32At,
        hnone]
  · simp [hform, Machine.arithmeticForm, hnone]

theorem executeX64Group83_follows (hopcode : instruction.opcode = 0x83)
    (hrex : instruction.rexW = false) :
    machine.Follows instruction (executeX64Group83 instruction) := by
  intro latest
  have hform : machine.operationAt .bits32 instruction =
      machine.arithmeticForm .bits32 instruction fun immediateAddress => (do
        let immediate ← required (machine.immediate8At immediateAddress)
        pure (immediate, immediateAddress + 1)) := by
    simp [Machine.operationAt, hopcode]
  unfold executeX64Group83
  refine .bind (tryDecodeRmOperand_ends hbytes (fun operand _ hoperand => ?_) fun hnone => ?_)
  · refine .bind (readI8_ends hbytes (fun byte _ hbyte => ?_) fun hnone => ?_)
    · refine executeArithmeticImmediate_ends hbytes (rmOperand_index hoperand)
        (immediate8_toBitVec byte) hrex ?_
      simp only [hform, Machine.arithmeticForm, hoperand, required_some, ok_bind,
        Machine.immediate8At, hbyte, Option.map_some]
      rfl
    · simp [hform, Machine.arithmeticForm, hoperand, Machine.immediate8At, hnone]
  · simp [hform, Machine.arithmeticForm, hnone]

theorem executeX64MovImmediateToRm_follows (hopcode : instruction.opcode = 0xC7)
    (hrex : instruction.rexW = false) :
    machine.Follows instruction (executeX64MovImmediateToRm instruction) := by
  intro latest
  have hform : machine.operationAt .bits32 instruction =
      machine.moveImmediateForm .bits32 instruction := by
    simp [Machine.operationAt, hopcode]
  unfold executeX64MovImmediateToRm
  refine .bind (readU8_ends hbytes (fun modrm _ hmodrm => ?_) fun hnone => ?_)
  · split
    · next hfield =>
      exact unsupported_ends (by simp [hform, Machine.moveImmediateForm, hmodrm, hfield])
    next hfield =>
    have hdecoded {operand : DecodedRmOperand}
        (hoperand : machine.rmOperand instruction instruction.nextAddress = some operand) :
        machine.operationAt .bits32 instruction = (do
          let immediate ← required (machine.immediate32At operand.nextInstruction)
          machine.reachable .bits32 operand.place
          pure (.integer (.move operand.place (.immediate immediate)),
            operand.nextInstruction + 4)) := by
      simp only [hform, Machine.moveImmediateForm, hmodrm, hoperand, required_some, ok_bind,
        not_not.mp hfield, decide_true, supported_true]
      rfl
    split
    · next hmod =>
      obtain ⟨operand, hoperand, hplace, -, hnext⟩ :=
        @rmOperand_register _ _ instruction _ _ hmodrm hmod
      have hoperation := hdecoded hoperand
      rw [hplace, hnext, Machine.immediate32At] at hoperation
      refine .bind (readU32_ends hbytes (fun word hword => ?_) fun hnone => ?_)
      · rw [hword] at hoperation
        rw [if_neg (by simp [hrex])]
        refine .bind (setRegister32_ends (continueAt_ends ⟨rfl, _, _, hoperation, ?_⟩))
        exact IntegerInstruction.carried_move (congrArg some (immediate32_toBitVec word).symm)
          (rmIndex_lt modrm _) fun h => h.elim False.elim False.elim
      · rw [hoperation, hnone]
        rfl
    · next hmod =>
      refine .bind (tryGetMemoryOperandAddress_ends hbytes hmod (fun decoded _ hdecoded' => ?_)
        fun hnone => ?_)
      · obtain ⟨operand, hoperand, hplace, -, hnext⟩ := rmOperand_memory hmodrm hmod hdecoded'
        have hoperation := hdecoded hoperand
        rw [hplace, hnext, Machine.immediate32At] at hoperation
        refine .bind (readU32_ends hbytes (fun word hword => ?_) fun hnone => ?_)
        · rw [hword] at hoperation
          rw [if_neg (by simp [hrex])]
          refine .bind (writeU32_ends hbytes (fun hholds => ?_) fun hrefused => ?_)
          · rw [Machine.reachable_of_holds hholds] at hoperation
            refine continueAt_ends ⟨rfl, _, _, hoperation, ?_⟩
            exact IntegerInstruction.carried_move (congrArg some (immediate32_toBitVec word).symm)
              hholds fun _ => rfl
          · rw [hoperation, hrefused]
            rfl
        · rw [hoperation, hnone]
          rfl
      · have hmissing : machine.rmOperand instruction instruction.nextAddress = none := by
          rw [Machine.rmOperand, hmodrm, Option.bind_some, if_neg hmod, hnone, Option.map_none]
        simp [hform, Machine.moveImmediateForm, hmodrm, not_not.mp hfield, hmissing]
  · simp [hform, Machine.moveImmediateForm, hnone]

theorem executeX64Lea_follows (hopcode : instruction.opcode = 0x8D)
    (hrex : instruction.rexW = false) :
    machine.Follows instruction (executeX64Lea instruction) := by
  intro latest
  have hform : machine.operationAt .bits32 instruction = machine.loadAddressForm instruction := by
    simp [Machine.operationAt, hopcode]
  unfold executeX64Lea
  refine .bind (readU8_ends hbytes (fun modrm _ hmodrm => ?_) fun hnone => ?_)
  · split
    · next hmod =>
      exact unsupported_ends (by simp [hform, Machine.loadAddressForm, hmodrm, hmod])
    next hmod =>
    refine .bind (tryGetMemoryOperandAddress_ends hbytes hmod (fun decoded _ hdecoded => ?_)
      fun hnone => ?_)
    · obtain ⟨operand, hoperand, -, haddress, hnext⟩ := rmOperand_memory hmodrm hmod hdecoded
      have hoperation : machine.operationAt .bits32 instruction =
          .ok (.integer (.loadAddress (registerPlace instruction modrm) decoded.1), decoded.2) := by
        simp only [hform, Machine.loadAddressForm, hmodrm, hoperand, required_some, ok_bind,
          decide_eq_true hmod, supported_true, haddress, hnext]
        rfl
      refine .bind ?_
      rw [if_neg (by simp [hrex])]
      refine setRegister32_ends (continueAt_ends ⟨rfl, _, _, hoperation, ?_⟩)
      rw [UInt64.toBitVec_toUInt32]
      exact IntegerInstruction.carried_loadAddress (regIndex_lt modrm _) False.elim
    · have hmissing : machine.rmOperand instruction instruction.nextAddress = none := by
        rw [Machine.rmOperand, hmodrm, Option.bind_some, if_neg hmod, hnone, Option.map_none]
      simp [hform, Machine.loadAddressForm, hmodrm, hmod, hmissing]
  · simp [hform, Machine.loadAddressForm, hnone]

/-- The bytes of a move to or from guest memory are those of the operand. -/
theorem executeX64MovRegister_follows
    (hopcode : instruction.opcode = 0x89 ∨ instruction.opcode = 0x8B)
    (hrex : instruction.rexW = false) :
    machine.Follows instruction (executeX64MovRegister instruction) := by
  intro latest
  -- the move that the instruction stands for, in either direction
  obtain ⟨build, hform, hbuild⟩ : ∃ build : DecodedRmOperand → UInt8 → IntegerInstruction,
      machine.operationAt .bits32 instruction = machine.rmForm .bits32 instruction build ∧
      ∀ operand modrm, build operand modrm =
        if instruction.opcode = 0x89 then .move operand.place (.place (registerPlace instruction modrm))
        else .move (registerPlace instruction modrm) (.place operand.place) := by
    rcases hopcode with h | h
    · exact ⟨_, by simp only [Machine.operationAt, h]; rfl, fun _ _ => by rw [if_pos h]⟩
    · exact ⟨_, by simp only [Machine.operationAt, h]; rfl, fun _ _ => by rw [h]; rfl⟩
  unfold executeX64MovRegister
  refine .bind (readU8_ends hbytes (fun modrm _ hmodrm => ?_) fun hnone => ?_)
  · have hreg := regIndex_lt modrm instruction.rexR
    split
    · next hmod =>
      obtain ⟨operand, hoperand, hplace, -, hnext⟩ :=
        @rmOperand_register _ _ instruction _ _ hmodrm hmod
      have hoperation := hform.trans (rmForm_ok hmodrm hoperand (by rw [hplace]; rfl) build)
      rw [hbuild, hplace, hnext] at hoperation
      refine .bind ?_
      unfold movBetweenRegisters
      rcases hopcode with h | h
      · rw [if_pos h] at hoperation
        rw [if_pos h, if_neg (by simp [hrex])]
        refine .bind (getRegister32_ends (setRegister32_ends
          (continueAt_ends ⟨rfl, _, _, hoperation, ?_⟩)))
        exact IntegerInstruction.carried_move (valueAt_register32 _) (rmIndex_lt modrm _)
          fun h => h.elim False.elim False.elim
      · rw [if_neg (by rw [h]; decide)] at hoperation
        rw [if_neg (by rw [h]; decide), if_pos h, if_neg (by simp [hrex])]
        refine .bind (getRegister32_ends (setRegister32_ends
          (continueAt_ends ⟨rfl, _, _, hoperation, ?_⟩)))
        exact IntegerInstruction.carried_move (valueAt_register32 _) hreg
          fun h => h.elim False.elim False.elim
    · next hmod =>
      refine .bind (tryGetMemoryOperandAddress_ends hbytes hmod (fun decoded _ hdecoded => ?_)
        fun hnone => ?_)
      · obtain ⟨operand, hoperand, hplace, -, hnext⟩ := rmOperand_memory hmodrm hmod hdecoded
        have hrefused (hreach : machine.reachable .bits32 (.memory decoded.1) =
            .error .invalidMemoryAccess) :
            machine.operationAt .bits32 instruction = .error .invalidMemoryAccess :=
          hform.trans (rmForm_refused hmodrm hoperand (by rw [hplace]; exact hreach) build)
        have hoperation (hreach : machine.reachable .bits32 (.memory decoded.1) = .ok ()) :
            machine.operationAt .bits32 instruction =
              .ok (.integer (build operand modrm), operand.nextInstruction) :=
          hform.trans (rmForm_ok hmodrm hoperand (by rw [hplace]; exact hreach) build)
        rw [hbuild, hplace, hnext] at hoperation
        refine .bind ?_
        unfold movWithMemory
        rw [if_neg (by simp [hrex])]
        rcases hopcode with h | h
        · rw [if_pos h] at hoperation
          rw [if_pos h]
          refine .bind (getRegister32_ends (writeU32_ends hbytes (fun hholds => ?_) hrefused))
          refine continueAt_ends ⟨rfl, _, _, hoperation (Machine.reachable_of_holds hholds), ?_⟩
          exact IntegerInstruction.carried_move (valueAt_register32 _) hholds fun _ => rfl
        · rw [if_neg (by rw [h]; decide)] at hoperation
          rw [if_neg (by rw [h]; decide), if_pos h]
          refine .bind (readU32_ends hbytes (fun value hvalue => ?_) fun hnone => ?_)
          · have hsource : machine.valueAt false (.memory decoded.1) = some value.toBitVec := by
              rw [valueAt_memory32, hvalue, Option.map_some]
            refine setRegister32_ends (continueAt_ends
              ⟨rfl, _, _, hoperation (Machine.reachable_of_valueAt hsource), ?_⟩)
            exact IntegerInstruction.carried_move hsource hreg fun _ => rfl
          · exact hrefused (Machine.reachable_of_valueAt_none (by
              rw [valueAt_memory32, hnone]
              rfl))
      · have hmissing : machine.rmOperand instruction instruction.nextAddress = none := by
          rw [Machine.rmOperand, hmodrm, Option.bind_some, if_neg hmod, hnone, Option.map_none]
        simp [hform, Machine.rmForm, hmodrm, hmissing]
  · simp [hform, Machine.rmForm, hnone]

theorem executeX64GroupFf_follows (hopcode : instruction.opcode = 0xFF)
    (hfield : ∃ modrm, machine.byteAt instruction.nextAddress = some modrm ∧
      (regField modrm = 0 ∨ regField modrm = 1))
    (hrex : instruction.rexW = false) :
    machine.Follows instruction (executeX64GroupFf instruction) := by
  intro latest
  obtain ⟨modrm, hmodrm, hreg⟩ := hfield
  have hform : machine.operationAt .bits32 instruction =
      machine.registerForm .bits32 instruction fun operand _ =>
        .unary (if operand.operation = 0 then .inc else .dec) operand.place := by
    simp [Machine.operationAt, hopcode]
  unfold executeX64GroupFf
  refine .bind (readU8_ends hbytes (fun other _ hother => ?_) fun hnone => ?_)
  · obtain rfl : modrm = other := Option.some.inj (hmodrm.symm.trans hother)
    rw [if_pos hreg]
    split
    · next hmod =>
      exact unsupported_ends (by simp [hform, Machine.registerForm, hmodrm, hmod])
    next hmod =>
    obtain ⟨operand, hoperand, hplace, hoperation, hnext⟩ :=
      @rmOperand_register _ _ instruction _ _ hmodrm (not_not.mp hmod)
    have hunary := hform.trans (registerForm_ok hmodrm hoperand (not_not.mp hmod) _)
    rw [hplace, hnext, hoperation] at hunary
    unfold incDecRegister
    rw [if_neg (by simp [hrex])]
    refine .bind (getRegister32_ends (.bind (setRegister32_ends
      (.bind (changeFlags_ends (continueAt_ends ⟨rfl, _, _, hunary, ?_⟩))))))
    have hflags (flags : UInt64) (value : UInt32) :
        statusFlags (incDecFlags flags value.toUInt64 (value + 1).toUInt64 false false) =
          .inc (flagSet flags rflagsCarry) value.toBitVec ∧
        statusFlags (incDecFlags flags value.toUInt64 (value - 1).toUInt64 true false) =
          .dec (flagSet flags rflagsCarry) value.toBitVec := by
      have hinc := @statusFlags_incFlags false flags value.toBitVec
      have hdec := @statusFlags_decFlags false flags value.toBitVec
      rw [zeroExtended_32] at hinc hdec
      exact ⟨(zeroExtended_32 (value + 1)) ▸ hinc, (zeroExtended_32 (value - 1)) ▸ hdec⟩
    rcases hreg with h | h <;> rw [h]
    · change (SizedOperation.integer (.unary .inc _)).Carried machine _ _ _
      exact IntegerInstruction.carried_unary (valueAt_register32 _) (rmIndex_lt modrm _)
        (hflags _ _).1 False.elim
    · change (SizedOperation.integer (.unary .dec _)).Carried machine _ _ _
      exact IntegerInstruction.carried_unary (valueAt_register32 _) (rmIndex_lt modrm _)
        (hflags _ _).2 False.elim
  · simp [hform, Machine.registerForm, hnone]

omit hbytes in
theorem executeX64Nop_follows (hopcode : instruction.opcode = 0x90) :
    machine.Follows instruction (executeX64Nop instruction) := by
  intro latest
  unfold executeX64Nop rejectRexW
  cases hrex : instruction.rexW with
  | true => exact .bind (unsupported_ends (by simp [Machine.operationAt, hopcode, hrex]))
  | false =>
    have hoperation : machine.operationAt .bits32 instruction =
        .ok (.exchange (if instruction.rexB then 8 else 0), instruction.nextAddress) := by
      simp only [Machine.operationAt, hopcode, hrex]
      rfl
    have hindex : (if instruction.rexB then 8 else 0 : UInt32) < 16 := by
      split <;> decide
    exact .bind (.pure (continueAt_ends ⟨rfl, _, _, hoperation, hindex, rfl⟩))

theorem executeX64PushRegister_follows (hlow : 0x50 ≤ instruction.opcode)
    (hhigh : instruction.opcode ≤ 0x57) (hrex : instruction.rexW = false) :
    machine.Follows instruction (executeX64PushRegister instruction) := by
  intro latest
  have hform : machine.operationAt .bits32 instruction = machine.pushForm .bits32 instruction := by
    rw [Machine.operationAt, if_pos ⟨hlow, hhigh⟩]
  unfold executeX64PushRegister rejectRexW
  rw [if_neg (by simp [hrex])]
  refine .bind (.pure (.bind (getRegister64_ends (.bind (.orInvalidMemory ?_)))))
  refine .bind (getRegister64_ends (.bind
    (Ends.read (g := fun machine => machine.memory.baseAddress) (.bind (.readAny fun _ => ?_)))))
  split
  · next hbelow =>
    have hrefused : machine.operationAt .bits32 instruction = .error .invalidMemoryAccess := by
      rw [hform, Machine.pushForm]
      exact if_pos hbelow
    exact .bind (setResult_ends (Attempt.Triple.fail fun _ _ => hrefused))
  · next habove =>
    have hslot : machine.operationAt .bits32 instruction =
        (machine.reachable .bits64 (.memory (machine.register rsp - 8)) >>= fun _ =>
          pure (.push (instruction.opcode.toUInt32 - 0x50 + if instruction.rexB then 8 else 0),
            instruction.nextAddress)) := by
      rw [hform, Machine.pushForm]
      exact if_neg habove
    have hlowered : (machine.setRegister rsp (machine.register rsp - 8)).memory.bytes ≠ 0 := hbytes
    refine .bind (setRegister64_ends (writeGuest_ends hlowered (fun hholds => ?_) fun hnone => ?_))
    · rw [length_toLittleEndian] at hholds ⊢
      obtain ⟨offset, hoffset⟩ := Option.isSome_iff_exists.mp hholds
      have hfound : machine.memory.offsetOf (machine.register rsp - 8) OperandSize.bits64.bytes =
          some offset := hoffset
      rw [Machine.reachable, hfound] at hslot
      exact continueAt_ends ⟨rfl, _, _, hslot, rfl⟩
    · rw [length_toLittleEndian] at hnone
      have hmissing : machine.memory.offsetOf (machine.register rsp - 8) OperandSize.bits64.bytes =
          none := hnone
      rw [Machine.reachable, hmissing] at hslot
      exact hslot

theorem executeX64PopRegister_follows (hlow : 0x58 ≤ instruction.opcode)
    (hhigh : instruction.opcode ≤ 0x5F) (hrex : instruction.rexW = false) :
    machine.Follows instruction (executeX64PopRegister instruction) := by
  intro latest
  have hform : machine.operationAt .bits32 instruction =
      (machine.reachable .bits64 (.memory (machine.register rsp)) >>= fun _ =>
        pure (.pop (instruction.opcode.toUInt32 - 0x58 + if instruction.rexB then 8 else 0),
          instruction.nextAddress)) := by
    rw [Machine.operationAt, if_neg fun h => absurd (UInt8.le_trans hlow h.2) (by decide),
      if_pos ⟨hlow, hhigh⟩]
    rfl
  unfold executeX64PopRegister rejectRexW
  rw [if_neg (by simp [hrex])]
  refine .bind (.pure (.bind (.orInvalidMemory (.bind (getRegister64_ends (.bind (.bind
    (readGuest_ends hbytes (fun bytes hloaded => ?_) fun hnone => ?_))))))))
  · obtain ⟨offset, hoffset, -⟩ := Option.map_eq_some_iff.mp hloaded
    have hfound : machine.memory.offsetOf (machine.register rsp) OperandSize.bits64.bytes =
        some offset := hoffset
    rw [Machine.reachable, hfound] at hform
    exact .pure (.bind (setRegister64_ends (.pure (.bind (setRegister64_ends
      (continueAt_ends ⟨rfl, _, _, hform, rfl⟩))))))
  · have hmissing : machine.memory.offsetOf (machine.register rsp) OperandSize.bits64.bytes =
        none := Option.map_eq_none_iff.mp hnone
    rw [Machine.reachable, hmissing] at hform
    exact hform

end Handlers

end Ringos.Emulator
