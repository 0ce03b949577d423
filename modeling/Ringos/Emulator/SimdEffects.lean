import Ringos.Emulator.Faults
import Ringos.Emulator.SimdSemantics

/-!
# The SIMD handlers perform their operations

Each handler settles: it returns with the machine that its operation leaves, or
gives up with the completion that the operation comes to. Dispatch and the
interpreter loop's body then do, at every SIMD opcode and under every
combination of prefixes.
-/

namespace Ringos.Emulator

open Ringos.Core
open Exec

variable {σ α : Type}

/-- The handler returns with the machine that a step leaves, or gives up with its completion. -/
def Settles (machine : Machine σ) (latest : Option Nat) (x : Exec σ InstructionOutcome)
    (step : Except Completion (Machine σ)) : Prop :=
  Ends machine latest x (fun outcome next _ => outcome = .continueRunning ∧ step = .ok next)
    fun completion => step = .error completion

section Accessors

variable {machine : Machine σ} {latest : Option Nat} {stops : Completion → Prop} {index : UInt32}

theorem getSimdRegister_ends {Q : SimdRegister → Machine σ → Option Nat → Prop}
    (h : Q (machine.simdRegister index) machine latest) :
    Ends machine latest (getSimdRegister index) Q stops :=
  .bind (note_ends fun _ hlatest =>
    Ends.read (g := fun machine => machine.simdRegister index) (hlatest ▸ h))

theorem setSimdRegister_ends {value : SimdRegister} {word : BitVec 128}
    {Q : Unit → Machine σ → Option Nat → Prop} (hvalue : value = .ofBits word)
    (h : Q () (machine.performSimd (.register index word)) latest) :
    Ends machine latest (setSimdRegister index value) Q stops := by
  rw [Machine.performSimd, ← hvalue] at h
  exact .bind (note_ends fun _ hlatest => setMachine_ends (hlatest ▸ h))

variable (hbytes : machine.memory.bytes ≠ 0) {operand : DecodedModrmOperand}

include hbytes

/-- The source operand is a register or sixteen bytes of memory. -/
theorem tryReadSimdOperand_ends {Q : SimdRegister → Machine σ → Option Nat → Prop}
    (h : ∀ source last, machine.simdSource operand = some source.bits → Q source machine last)
    (hrefused : machine.simdSource operand = none → stops .invalidMemoryAccess) :
    Ends machine latest (orInvalidMemory (tryReadSimdOperand operand)) Q stops := by
  unfold tryReadSimdOperand
  unfold Machine.simdSource at h hrefused
  split
  · next hregister =>
    rw [if_pos hregister] at h
    exact .orInvalidMemory (getSimdRegister_ends (h _ _ rfl))
  · next hmemory =>
    rw [if_neg hmemory] at h hrefused
    refine Denotes.ends (fun _ hstart => (hstart ▸ readU128_denotes (hstart ▸ hbytes) _ :
      Denotes _ _ (machine.simdAt operand.rmAddress)).orInvalidMemory) ?_ ?_
    · intro source last hsource
      exact h source last (by rw [hsource]; rfl)
    · intro hnone
      exact hrefused (by rw [hnone]; rfl)

/-- The source operand of `MOVD` is a general register or four bytes of memory. -/
theorem tryReadRm32Operand_ends {Q : UInt32 → Machine σ → Option Nat → Prop}
    (h : ∀ source last, machine.doublewordSource operand = some source.toBitVec →
      Q source machine last)
    (hrefused : machine.doublewordSource operand = none → stops .invalidMemoryAccess) :
    Ends machine latest (orInvalidMemory (tryReadRm32Operand operand)) Q stops := by
  unfold tryReadRm32Operand
  unfold Machine.doublewordSource at h hrefused
  split
  · next hregister =>
    rw [if_pos hregister] at h
    exact .orInvalidMemory (getRegister32_ends (h _ _ rfl))
  · next hmemory =>
    rw [if_neg hmemory] at h hrefused
    refine readU32_ends hbytes ?_ ?_
    · intro source hsource
      exact h source _ (by rw [hsource]; rfl)
    · intro hnone
      exact hrefused (by rw [hnone]; rfl)

/-- A memory operand is written, or refused. -/
theorem writeOperand_ends {bytes : List UInt8} {Q : Unit → Machine σ → Option Nat → Prop}
    (h : ∀ last, machine.simdStore operand bytes = some (.memory operand.rmAddress bytes) →
      Q () (machine.performSimd (.memory operand.rmAddress bytes)) last)
    (hrefused : machine.simdStore operand bytes = none → stops .invalidMemoryAccess) :
    Ends machine latest (orInvalidMemory (writeGuest operand.rmAddress bytes)) Q stops := by
  refine .orInvalidMemory (writeGuest_ends hbytes ?_ ?_)
  · intro hinside
    obtain ⟨offset, hoffset⟩ := Option.isSome_iff_exists.mp hinside
    exact h _ (by rw [Machine.simdStore, hoffset]; rfl)
  · intro hnone
    exact hrefused (by rw [Machine.simdStore, hnone]; rfl)

end Accessors

section Operands

variable {machine : Machine σ} {latest : Option Nat} {operation : SimdOperation}
  {operand : DecodedModrmOperand}

/-- Where the operands are accessible the effect is performed. -/
theorem Machine.afterSimdOperand_of_some {effect : SimdEffect}
    (h : machine.simdEffect operation operand = some effect) :
    machine.afterSimdOperand operation operand =
      .ok ((machine.performSimd effect).jumpTo (operation.behind operand)) := by
  have hform : ¬ (operation = .movqStore ∧ operand.rmIsRegister = true) := by
    rintro ⟨rfl, hregister⟩
    rw [Machine.simdEffect, if_pos hregister] at h
    cases h
  rw [Machine.afterSimdOperand, if_neg hform, h]

theorem Machine.afterSimdOperand_of_none
    (hform : ¬ (operation = .movqStore ∧ operand.rmIsRegister = true))
    (h : machine.simdEffect operation operand = none) :
    machine.afterSimdOperand operation operand = .error .invalidMemoryAccess := by
  rw [Machine.afterSimdOperand, if_neg hform, h]

/-- Behind an effect the handler goes on at the next instruction. -/
theorem continueAt_settles {effect : SimdEffect}
    (h : machine.simdEffect operation operand = some effect) :
    Settles (machine.performSimd effect) latest (continueAt (operation.behind operand))
      (machine.afterSimdOperand operation operand) :=
  continueAt_ends ⟨rfl, machine.afterSimdOperand_of_some h⟩

end Operands

section Selection

variable {machine : Machine σ} {latest : Option Nat} {instruction : DecodedInstruction}
  {secondaryOpcode : UInt8}

theorem simdOperation_eq (hrex : instruction.rexW = false) {mandatoryPrefix : MandatoryPrefix}
    (h : instruction.mandatoryPrefix = some mandatoryPrefix) :
    instruction.simdOperation secondaryOpcode = simdOperationAt secondaryOpcode mandatoryPrefix := by
  rw [DecodedInstruction.simdOperation, hrex, h]
  rfl

/-- Where no prefix selects an operation there is none. -/
theorem simdOperation_eq_none (h : ∀ mandatoryPrefix,
    instruction.mandatoryPrefix = some mandatoryPrefix →
      simdOperationAt secondaryOpcode mandatoryPrefix = none) :
    instruction.simdOperation secondaryOpcode = none := by
  unfold DecodedInstruction.simdOperation
  split
  · rfl
  · exact Option.bind_eq_none_iff.mpr h

/-- An instruction that the prefixes do not select is refused. -/
theorem unsupported_settles {faultOpcode : UInt8}
    (h : instruction.simdOperation secondaryOpcode = none) :
    Settles machine latest (unsupported faultOpcode)
      (machine.afterSimd instruction secondaryOpcode) :=
  unsupported_ends (by rw [Machine.afterSimd, h])

variable (hbytes : machine.memory.bytes ≠ 0) {operation : SimdOperation}
  {f : DecodedModrmOperand → Exec σ InstructionOutcome}

include hbytes

/-- A selected instruction settles as its operation does with the decoded operand. -/
theorem operand_settles (hselected : instruction.simdOperation secondaryOpcode = some operation)
    (h : ∀ operand last, Settles machine last (f operand)
      (machine.afterSimdOperand operation operand)) :
    Settles machine latest
      (orInvalidMemory (tryDecodeModrmOperand instruction (instruction.nextAddress + 1)) >>= f)
      (machine.afterSimd instruction secondaryOpcode) := by
  unfold Machine.afterSimd
  rw [hselected]
  refine .bind (Denotes.ends (fun _ hstart => (hstart ▸ tryDecodeModrmOperand_denotes
    (hstart ▸ hbytes) instruction _ : Denotes _ _ (machine.modrmOperand instruction
      (instruction.nextAddress + 1))).orInvalidMemory) (fun operand last hoperand => ?_)
    fun hnone => by rw [hnone])
  rw [hoperand]
  exact h operand last

/-- A handler of one instruction first refuses every other mandatory prefix. -/
theorem checked_settles (required : MandatoryPrefix) (operation : SimdOperation) {refused : Bool}
    {faultOpcode : UInt8} (hrex : instruction.rexW = false)
    (hrefused : refused = false ↔ instruction.mandatoryPrefix = some required)
    (hrow : ∀ mandatoryPrefix, simdOperationAt secondaryOpcode mandatoryPrefix =
      if mandatoryPrefix = required then some operation else none)
    (h : ∀ operand last, Settles machine last (f operand)
      (machine.afterSimdOperand operation operand)) :
    Settles machine latest
      (if refused then unsupported faultOpcode
        else orInvalidMemory (tryDecodeModrmOperand instruction (instruction.nextAddress + 1)) >>= f)
      (machine.afterSimd instruction secondaryOpcode) := by
  cases hchecked : refused with
  | true =>
    refine unsupported_settles (simdOperation_eq_none fun mandatoryPrefix hpresent => ?_)
    rw [hrow, if_neg]
    rintro rfl
    rw [hrefused.mpr hpresent] at hchecked
    cases hchecked
  | false =>
    refine operand_settles hbytes ?_ h
    rw [simdOperation_eq hrex (hrefused.mp hchecked), hrow, if_pos rfl]

end Selection

section Handlers

variable {machine : Machine σ} {latest : Option Nat} {instruction : DecodedInstruction}
  (hbytes : machine.memory.bytes ≠ 0) (hrex : instruction.rexW = false)

include hbytes hrex

theorem executeX64SecondaryMovXmm_settles :
    Settles machine latest (executeX64SecondaryMovXmm instruction)
      (machine.afterSimd instruction 0x10) := by
  refine checked_settles hbytes .none .load hrex
    (by simp [DecodedInstruction.hasNoSimdPrefix_iff]) (by rintro ⟨⟩ <;> rfl) fun operand last => ?_
  refine .bind (tryReadSimdOperand_ends hbytes (fun source last hsource => ?_) fun hnone => ?_)
  · have heffect : machine.simdEffect .load operand =
        some (.register operand.regIndex source.bits) := by
      rw [Machine.simdEffect, hsource, Option.map_some]
    exact .bind (setSimdRegister_ends source.ofBits_bits.symm (continueAt_settles heffect))
  · apply Machine.afterSimdOperand_of_none (by simp)
    rw [Machine.simdEffect, hnone, Option.map_none]

theorem executeX64SecondaryXorps_settles :
    Settles machine latest (executeX64SecondaryXorps instruction)
      (machine.afterSimd instruction 0x57) := by
  refine checked_settles hbytes .none .xorps hrex
    (by simp [DecodedInstruction.hasNoSimdPrefix_iff]) (by rintro ⟨⟩ <;> rfl) fun operand last => ?_
  refine .bind (tryReadSimdOperand_ends hbytes (fun source last hsource => ?_) fun hnone => ?_)
  · have heffect : machine.simdEffect .xorps operand =
        some (.register operand.regIndex (machine.simdWord operand.regIndex ^^^ source.bits)) := by
      rw [Machine.simdEffect, hsource, Option.map_some]
    exact .bind (getSimdRegister_ends (.bind (setSimdRegister_ends (zipWith_xor_eq _ source)
      (continueAt_settles heffect))))
  · apply Machine.afterSimdOperand_of_none (by simp)
    rw [Machine.simdEffect, hnone, Option.map_none]

theorem executeX64SecondaryPunpcklbw_settles :
    Settles machine latest (executeX64SecondaryPunpcklbw instruction)
      (machine.afterSimd instruction 0x60) := by
  refine checked_settles hbytes .prefix66 .punpcklbw hrex
    (by simp [DecodedInstruction.hasOnlyPrefix66_iff]) (by rintro ⟨⟩ <;> rfl) fun operand last => ?_
  refine .bind (tryReadSimdOperand_ends hbytes (fun source last hsource => ?_) fun hnone => ?_)
  · have heffect : machine.simdEffect .punpcklbw operand = some (.register operand.regIndex
        (punpcklbw (machine.simdWord operand.regIndex) source.bits)) := by
      rw [Machine.simdEffect, hsource, Option.map_some]
    exact .bind (getSimdRegister_ends (.bind (setSimdRegister_ends (punpcklbwValue_eq _ source)
      (continueAt_settles heffect))))
  · apply Machine.afterSimdOperand_of_none (by simp)
    rw [Machine.simdEffect, hnone, Option.map_none]

theorem executeX64SecondaryMovd_settles :
    Settles machine latest (executeX64SecondaryMovd instruction)
      (machine.afterSimd instruction 0x6E) := by
  refine checked_settles hbytes .prefix66 .movd hrex
    (by simp [DecodedInstruction.hasOnlyPrefix66_iff]) (by rintro ⟨⟩ <;> rfl) fun operand last => ?_
  refine .bind (tryReadRm32Operand_ends hbytes (fun source last hsource => ?_) fun hnone => ?_)
  · have heffect : machine.simdEffect .movd operand =
        some (.register operand.regIndex (source.toBitVec.setWidth 128)) := by
      rw [Machine.simdEffect, hsource, Option.map_some]
    exact .bind (setSimdRegister_ends (movdValue_eq source) (continueAt_settles heffect))
  · apply Machine.afterSimdOperand_of_none (by simp)
    rw [Machine.simdEffect, hnone, Option.map_none]

theorem executeX64SecondaryMovqStore_settles :
    Settles machine latest (executeX64SecondaryMovqStore instruction)
      (machine.afterSimd instruction 0xD6) := by
  refine checked_settles hbytes .prefix66 .movqStore hrex
    (by simp [DecodedInstruction.hasOnlyPrefix66_iff]) (by rintro ⟨⟩ <;> rfl) fun operand last => ?_
  split
  · next hregister =>
    exact unsupported_ends (by rw [Machine.afterSimdOperand, if_pos ⟨rfl, hregister⟩])
  · next hmemory =>
    have heffect : machine.simdEffect .movqStore operand = machine.simdStore operand
        (laneBytes 8 (lane 64 0 (machine.simdWord operand.regIndex))) := by
      rw [Machine.simdEffect, if_neg hmemory]
    refine .bind (getSimdRegister_ends (.bind ?_))
    rw [writeU64, toLittleEndian_lowHalf]
    refine writeOperand_ends hbytes (fun last hstore => ?_) fun hnone => ?_
    · exact continueAt_settles (heffect.trans hstore)
    · exact machine.afterSimdOperand_of_none (fun h => hmemory h.2) (heffect.trans hnone)

omit hrex in
/-- The store of a register, into a register or into memory. -/
theorem storeSimdOperand_settles (operand : DecodedModrmOperand) :
    Settles machine latest (storeSimdOperand operand >>= fun _ => continueAt operand.nextInstruction)
      (machine.afterSimdOperand .store operand) := by
  unfold storeSimdOperand
  split
  · next hregister =>
    have heffect : machine.simdEffect .store operand =
        some (.register operand.rmIndex (machine.simdWord operand.regIndex)) := by
      rw [Machine.simdEffect, if_pos hregister]
    exact .bind (.bind (getSimdRegister_ends (setSimdRegister_ends
      (SimdRegister.ofBits_bits _).symm (continueAt_settles heffect))))
  · next hmemory =>
    have heffect : machine.simdEffect .store operand = machine.simdStore operand
        (laneBytes 16 (machine.simdWord operand.regIndex)) := by
      rw [Machine.simdEffect, if_neg hmemory]
    refine .bind (.bind (getSimdRegister_ends ?_))
    rw [writeU128, SimdRegister.toList_eq_laneBytes]
    refine writeOperand_ends hbytes (fun last hstore => ?_) fun hnone => ?_
    · exact continueAt_settles (heffect.trans hstore)
    · exact machine.afterSimdOperand_of_none (by simp) (heffect.trans hnone)

/-- The handler of three stores reads the secondary opcode again to tell them apart. -/
theorem executeX64SecondaryStoreXmm_settles {secondaryOpcode : UInt8}
    (hsecondary : machine.byteAt instruction.nextAddress = some secondaryOpcode)
    (hstore : secondaryOpcode = 0x11 ∨ secondaryOpcode = 0x29 ∨ secondaryOpcode = 0x7F) :
    Settles machine latest (executeX64SecondaryStoreXmm instruction)
      (machine.afterSimd instruction secondaryOpcode) := by
  refine .bind (readU8_ends hbytes (fun opcode last hread => ?_) fun hnone => ?_)
  · obtain rfl : secondaryOpcode = opcode := Option.some.inj (hsecondary.symm.trans hread)
    have hstores (operand : DecodedModrmOperand) (latest : Option Nat) : Settles machine latest _ _ :=
      storeSimdOperand_settles hbytes operand
    rcases hstore with rfl | rfl | rfl
    · exact checked_settles hbytes .none .store hrex
        (by simp [DecodedInstruction.hasNoSimdPrefix_iff]) (by rintro ⟨⟩ <;> rfl) hstores
    · exact checked_settles hbytes .none .store hrex
        (by simp [DecodedInstruction.hasNoSimdPrefix_iff]) (by rintro ⟨⟩ <;> rfl) hstores
    · exact checked_settles hbytes .prefixF3 .store hrex
        (by simp [← DecodedInstruction.hasOnlyPrefixF3_iff]) (by rintro ⟨⟩ <;> rfl) hstores
  · rw [hsecondary] at hnone
    cases hnone

omit hrex in
/-- With an order byte behind the operand. -/
theorem shuffle_settles {operation : SimdOperation} {width : Nat}
    {shuffle : UInt8 → BitVec 128 → BitVec 128} {operand : DecodedModrmOperand}
    (hform : operation = .pshufd ∨ operation = .pshuflw)
    (hvalue : ∀ order source, shuffleValue width order source =
      SimdRegister.ofBits (shuffle order source.bits))
    (heffect : machine.simdEffect operation operand =
      (machine.shuffledSource operand shuffle).map (.register operand.regIndex)) :
    Settles machine latest
      (do
        let immediate ← orInvalidMemory (readU8 operand.nextInstruction)
        let source ← orInvalidMemory (tryReadSimdOperand operand)
        Exec.setSimdRegister operand.regIndex (shuffleValue width immediate source)
        continueAt (operand.nextInstruction + 1))
      (machine.afterSimdOperand operation operand) := by
  have hbehind : operation.behind operand = operand.nextInstruction + 1 := by
    rcases hform with rfl | rfl <;> rfl
  have hstore : ¬ (operation = .movqStore ∧ operand.rmIsRegister = true) := by
    rintro ⟨rfl, -⟩
    simp at hform
  rw [← hbehind]
  refine .bind (readU8_ends hbytes (fun order last horder => ?_) fun hnone => ?_)
  · refine .bind (tryReadSimdOperand_ends hbytes (fun source last hsource => ?_) fun hnone => ?_)
    · refine .bind (setSimdRegister_ends (hvalue order source) (continueAt_settles ?_))
      rw [heffect, Machine.shuffledSource, horder, Option.bind_some, hsource]
      rfl
    · apply Machine.afterSimdOperand_of_none hstore
      rw [heffect, Machine.shuffledSource, horder, Option.bind_some, hnone]
      rfl
  · apply Machine.afterSimdOperand_of_none hstore
    rw [heffect, Machine.shuffledSource, hnone]
    rfl

theorem executeX64SecondaryShuffle_settles :
    Settles machine latest (executeX64SecondaryShuffle instruction)
      (machine.afterSimd instruction 0x70) := by
  unfold executeX64SecondaryShuffle
  cases hd : hasOnlyPrefix66 instruction with
  | true =>
    have hselected : instruction.simdOperation 0x70 = some .pshufd :=
      simdOperation_eq hrex (DecodedInstruction.hasOnlyPrefix66_iff.mp hd)
    exact operand_settles hbytes hselected fun operand last =>
      shuffle_settles hbytes (.inl rfl) shuffleValue_four rfl
  | false =>
    cases hlw : instruction.prefixF2 && !instruction.prefix66 && !instruction.prefixF3 with
    | true =>
      have hselected : instruction.simdOperation 0x70 = some .pshuflw :=
        simdOperation_eq hrex (DecodedInstruction.hasOnlyPrefixF2_iff.mp hlw)
      exact operand_settles hbytes hselected fun operand last =>
        shuffle_settles hbytes (.inr rfl) shuffleValue_two rfl
    | false =>
      refine unsupported_settles (simdOperation_eq_none fun mandatoryPrefix hpresent => ?_)
      cases mandatoryPrefix with
      | none => rfl
      | prefix66 =>
        rw [DecodedInstruction.hasOnlyPrefix66_iff.mpr hpresent] at hd
        cases hd
      | prefixF2 =>
        rw [DecodedInstruction.hasOnlyPrefixF2_iff.mpr hpresent] at hlw
        cases hlw
      | prefixF3 => rfl

end Handlers

section Steps

variable {machine : Machine σ} {latest : Option Nat} {instruction : DecodedInstruction}
  {secondaryOpcode : UInt8} {callbacks : Callbacks σ} (hbytes : machine.memory.bytes ≠ 0)
  (hsecondary : machine.byteAt instruction.nextAddress = some secondaryOpcode)
  (hsimd : secondaryOpcode ∈ simdInstructions.map Prod.fst)

include hbytes hsecondary hsimd

theorem secondaryOpcodeHandler_settles (hrex : instruction.rexW = false) :
    Settles machine latest (secondaryOpcodeHandler callbacks secondaryOpcode instruction)
      (machine.afterSimd instruction secondaryOpcode) := by
  simp only [simdInstructions, List.map_cons, List.map_nil, List.mem_cons, List.not_mem_nil,
    or_false] at hsimd
  rcases hsimd with rfl | rfl | rfl | rfl | rfl | rfl | rfl | rfl | rfl | rfl
  · exact executeX64SecondaryMovXmm_settles hbytes hrex
  · exact executeX64SecondaryStoreXmm_settles hbytes hrex hsecondary (.inl rfl)
  · exact executeX64SecondaryStoreXmm_settles hbytes hrex hsecondary (.inr (.inl rfl))
  · exact executeX64SecondaryStoreXmm_settles hbytes hrex hsecondary (.inr (.inr rfl))
  · exact executeX64SecondaryXorps_settles hbytes hrex
  · exact executeX64SecondaryMovd_settles hbytes hrex
  · exact executeX64SecondaryPunpcklbw_settles hbytes hrex
  · exact executeX64SecondaryShuffle_settles hbytes hrex
  · exact executeX64SecondaryShuffle_settles hbytes hrex
  · exact executeX64SecondaryMovqStore_settles hbytes hrex

theorem dispatch_settles (hopcode : instruction.opcode = 0x0F) :
    Settles machine latest (dispatch callbacks instruction)
      (machine.afterSimd instruction secondaryOpcode) := by
  refine .bind (setResult_ends ?_)
  rw [if_pos hopcode]
  unfold dispatchSecondaryOpcode
  split
  · next hrex =>
    refine unsupported_settles ?_
    rw [DecodedInstruction.simdOperation, if_pos hrex]
  · next hrex =>
    rw [Bool.not_eq_true] at hrex
    refine .bind (Denotes.ends (fun _ hstart => hstart ▸ readOpcode_denotes (hstart ▸ hbytes) _)
      (fun opcode last hread => ?_) fun hnone => ?_)
    · obtain rfl : secondaryOpcode = opcode := Option.some.inj (hsecondary.symm.trans hread)
      exact .bind (setResult_ends (secondaryOpcodeHandler_settles hbytes hsecondary hsimd hrex))
    · rw [hsecondary] at hnone
      cases hnone

/-- The body of the interpreter loop settles at a SIMD opcode as the processor's definition
says. -/
theorem interpretInstruction_settles (hfetch : machine.fetchInstruction = some instruction)
    (hopcode : instruction.opcode = 0x0F) :
    Settles machine latest (interpretInstruction callbacks)
      (machine.afterSimd instruction secondaryOpcode) := by
  refine .bind (Denotes.ends (fun _ hstart => hstart ▸ decodeX64Instruction_denotes
    (hstart ▸ hbytes)) (fun decoded last hdecoded => ?_) fun hnone => ?_)
  · obtain rfl : instruction = decoded := Option.some.inj (hfetch.symm.trans hdecoded)
    refine .bind ((dispatch_settles hbytes hsecondary hsimd hopcode).mono
      (fun outcome next _ hnext => ?_) fun _ h => h)
    exact .bind (setResult_ends (.pure hnext))
  · rw [hfetch] at hnone
    cases hnone

end Steps

section Effects

/-- The machine has moved on to an address, and changed where the effect says and nowhere
else. -/
structure SimdEffect.Performed (effect : SimdEffect) (behind : UInt64) (machine next : Machine σ) :
    Prop where
  instructionPointer : next.state.instructionPointer = behind
  generalRegisters : next.state.generalRegisters = machine.state.generalRegisters
  flags : next.state.flags = machine.state.flags
  memory : next.memory = machine.memory
  world : next.world = machine.world
  written :
    match effect with
    | .register index word =>
      next.simdWord index = word ∧
        (∀ other ≠ index, next.simdRegister other = machine.simdRegister other) ∧
        next.host = machine.host
    | .memory guestAddress bytes =>
      next.bytesAt guestAddress bytes.length = some bytes ∧
        (∀ address, ¬ InRange (machine.hostAddress guestAddress) bytes.length address →
          next.host address = machine.host address) ∧
        next.state.simdRegisters = machine.state.simdRegisters

/-- The effect is on a register of the file, or on bytes of the guest region. -/
def SimdEffect.Inside (machine : Machine σ) : SimdEffect → Prop
  | .register index _ => index < 16
  | .memory guestAddress bytes =>
    (machine.memory.offsetOf guestAddress bytes.length).isSome ∧ bytes.length ≤ 16

variable {machine : Machine σ} {instruction : DecodedInstruction} {modrmAddress : UInt64}
  {operation : SimdOperation} {operand : DecodedModrmOperand} {effect : SimdEffect}

theorem simdStore_inside {bytes : List UInt8} (hlength : bytes.length ≤ 16)
    (h : machine.simdStore operand bytes = some effect) : effect.Inside machine := by
  obtain ⟨offset, hoffset, rfl⟩ := Option.map_eq_some_iff.mp h
  exact ⟨by rw [hoffset]; rfl, hlength⟩

/-- A decoded operand names registers of the file, and a store is checked. -/
theorem simdEffect_inside (hoperand : machine.modrmOperand instruction modrmAddress = some operand)
    (heffect : machine.simdEffect operation operand = some effect) : effect.Inside machine := by
  obtain ⟨hreg, hrm, -⟩ := modrmOperand_spec hoperand
  have hregister {β : Type} {source : Option β} {word : β → BitVec 128}
      (h : (source.map fun value => SimdEffect.register operand.regIndex (word value)) =
        some effect) : effect.Inside machine := by
    obtain ⟨value, -, rfl⟩ := Option.map_eq_some_iff.mp h
    exact hreg
  cases operation with
  | load => exact hregister heffect
  | xorps => exact hregister heffect
  | movd => exact hregister heffect
  | punpcklbw => exact hregister heffect
  | pshufd => exact hregister heffect
  | pshuflw => exact hregister heffect
  | store =>
    rw [Machine.simdEffect] at heffect
    split at heffect
    · cases heffect
      exact hrm
    · exact simdStore_inside (by simp) heffect
  | movqStore =>
    rw [Machine.simdEffect] at heffect
    split at heffect
    · cases heffect
    · exact simdStore_inside (by simp) heffect

/-- Performing an effect changes nothing beside it. -/
theorem performSimd_performed (hinside : effect.Inside machine) (behind : UInt64) :
    effect.Performed behind machine ((machine.performSimd effect).jumpTo behind) := by
  cases effect with
  | register index word =>
    refine ⟨rfl, rfl, rfl, rfl, rfl, ?_, fun other hne => ?_, rfl⟩
    · exact (congrArg SimdRegister.bits
        (machine.simdRegister_setSimdRegister hinside _)).trans (SimdRegister.bits_ofBits word)
    · exact machine.simdRegister_setSimdRegister_ne hne _
  | memory guestAddress bytes =>
    obtain ⟨hregion, hlength⟩ := hinside
    obtain ⟨offset, hoffset⟩ := Option.isSome_iff_exists.mp hregion
    obtain ⟨rfl, -⟩ := EmulatorMemory.offsetOf_bound hoffset
    refine ⟨rfl, rfl, rfl, rfl, rfl, ?_, fun address houtside => ?_, rfl⟩
    · change (machine.memory.offsetOf guestAddress bytes.length).map _ = some bytes
      rw [hoffset, Option.map_some]
      exact congrArg some (loadBytes_storeBytes machine.host _ (by omega))
    · exact storeBytes_of_not_inRange (by omega) houtside

end Effects

/-- The step stops with the unsupported-instruction completion and has no effect. -/
def StopsUnsupported (callbacks : Callbacks σ) (start : ExecutionContext σ) : Prop :=
  ∃ final, interpretInstruction callbacks start = (none, final) ∧
    final.result.completion = .unsupportedInstruction ∧ final.machine = start.machine

/-- The step at a SIMD opcode does what the processor's definition says. -/
structure SimdExact (callbacks : Callbacks σ) (start : ExecutionContext σ)
    (instruction : DecodedInstruction) (secondaryOpcode : UInt8) : Prop where
  retires : ∀ {operation operand effect},
    instruction.simdOperation secondaryOpcode = some operation →
    (tryDecodeModrmOperand instruction (instruction.nextAddress + 1) start).1 = some operand →
    start.machine.simdEffect operation operand = some effect →
    ∃ final, interpretInstruction callbacks start = (some .continueRunning, final) ∧
      final.result.retiredInstructions = start.result.retiredInstructions + 1 ∧
      effect.Performed (operation.behind operand) start.machine final.machine
  refuses : instruction.simdOperation secondaryOpcode = none → StopsUnsupported callbacks start
  /-- The register form at the opcode of the quadword store is not the store. -/
  refusesRegister : ∀ {operand}, instruction.simdOperation secondaryOpcode = some .movqStore →
    (tryDecodeModrmOperand instruction (instruction.nextAddress + 1) start).1 = some operand →
    operand.rmIsRegister = true → StopsUnsupported callbacks start

section Exactness

variable {callbacks : Callbacks σ} {start : ExecutionContext σ} {instruction : DecodedInstruction}
  {secondaryOpcode : UInt8}

/-- What a step has come to that settles. -/
theorem Settles.ran {step : Except Completion (Machine σ)}
    (h : Settles start.machine (latestAccess start.accesses) (interpretInstruction callbacks) step) :
    (∃ final, interpretInstruction callbacks start = (some .continueRunning, final) ∧
      step = .ok final.machine) ∨
    ∃ final, interpretInstruction callbacks start = (none, final) ∧
      step = .error final.result.completion := by
  have hran := Ends.ran h
  rcases hrun : interpretInstruction callbacks start with ⟨_ | outcome, final⟩
  · rw [hrun] at hran
    exact .inr ⟨final, rfl, hran⟩
  · rw [hrun] at hran
    obtain ⟨rfl, hstep⟩ := hran
    exact .inl ⟨final, rfl, hstep⟩

/-- At every SIMD opcode, for every choice of prefixes and operands, the step is exact. -/
theorem interpretInstruction_simdExact (hcallback : callbacks.handleSyscall.isSome)
    (hbytes : start.machine.memory.bytes ≠ 0)
    (hdecoded : (decodeX64Instruction start).1 = some instruction)
    (hopcode : instruction.opcode = 0x0F)
    (hsecondary : (readU8 instruction.nextAddress start).1 = some secondaryOpcode)
    (hsimd : secondaryOpcode ∈ simdInstructions.map Prod.fst) :
    SimdExact callbacks start instruction secondaryOpcode := by
  rw [(decodeX64Instruction_denotes hbytes).fst_eq] at hdecoded
  rw [(readU8_denotes hbytes _).fst_eq] at hsecondary
  have hstep : Settles start.machine (latestAccess start.accesses) (interpretInstruction callbacks)
      (start.machine.afterSimd instruction secondaryOpcode) :=
    interpretInstruction_settles hbytes hsecondary hsimd hdecoded hopcode
  have hsettles := hstep.ran
  have hstops (h : start.machine.afterSimd instruction secondaryOpcode =
      .error .unsupportedInstruction) : StopsUnsupported callbacks start := by
    rw [h] at hsettles
    obtain ⟨final, -, hok⟩ | ⟨final, hrun, hcompletion⟩ := hsettles
    · cases hok
    · refine ⟨final, hrun, (Except.error.inj hcompletion).symm, ?_⟩
      rw [(interpretInstruction_faulted hcallback hbytes hrun).machine, Machine.afterStepFault,
        hdecoded]
      exact afterFault_of_not_pushes (by rw [hopcode]; decide)
  constructor
  · intro operation operand effect hselected hoperand heffect
    rw [(tryDecodeModrmOperand_denotes hbytes _ _).fst_eq] at hoperand
    simp only [Machine.afterSimd, hselected, hoperand,
      Machine.afterSimdOperand_of_some heffect] at hsettles
    obtain ⟨final, hrun, hok⟩ | ⟨final, -, herror⟩ := hsettles
    · refine ⟨final, hrun, (interpretInstruction_stepped hcallback hbytes hrun).progressed.retired,
        ?_⟩
      rw [← Except.ok.inj hok]
      exact performSimd_performed (simdEffect_inside hoperand heffect) _
    · cases herror
  · intro hselected
    exact hstops (by rw [Machine.afterSimd, hselected])
  · intro operand hselected hoperand hregister
    rw [(tryDecodeModrmOperand_denotes hbytes _ _).fst_eq] at hoperand
    exact hstops (by simp only [Machine.afterSimd, hselected, hoperand, Machine.afterSimdOperand,
      hregister, and_self, if_true])

end Exactness

/-- `pshufd xmm0, xmm0, 0x1b`, decoded at the start of the sample region. -/
def shuffleInPlace : DecodedInstruction where
  address := 0x1000
  opcodeAddress := 0x1001
  nextAddress := 0x1002
  opcode := 0x0F
  prefix66 := true
  prefixF2 := false
  prefixF3 := false
  rexW := false
  rexR := false
  rexX := false
  rexB := false

theorem shuffleInPlace_simdExact :
    SimdExact exitingCallbacks
      (ExecutionContext.start (sampleMachine [0x66, 0x0F, 0x70, 0xC0, 0x1B] 0x1000))
      shuffleInPlace 0x70 :=
  interpretInstruction_simdExact rfl (by decide) (by decide +kernel) rfl (by decide +kernel)
    (by decide)

end Ringos.Emulator
