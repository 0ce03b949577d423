import Ringos.Emulator.Faults
import Ringos.Emulator.IntegerEffects

/-!
# Operands without a base register

A ModRM byte with mode 0 and r/m 5 selects an address relative to the next
instruction, and a SIB byte with mode 0 and base 5 selects a bare displacement,
both whatever REX.B is. The operand decoders end an instruction behind its
displacement and test REX.B, so their address is that of the rule exactly if no
immediate follows and REX.B is clear, or if R13 happens to hold it.
-/

namespace Ringos.Emulator

open Ringos.Core
open Exec

variable {σ α : Type}

/-- Where a handler takes the address of its memory operand from. -/
inductive OperandDecoder where
  /-- `try_decode_rm_operand` -/
  | rm
  /-- `try_get_memory_operand_address` -/
  | dataMovement
  /-- `try_decode_modrm_operand` -/
  | simd
  /-- the indirect call of `execute_x64_group_ff` -/
  | call
  deriving DecidableEq

/-- The ModRM operand of an instruction and the immediate bytes behind it. -/
structure OperandForm where
  decoder : OperandDecoder
  modrmAddress : UInt64
  modrm : UInt8
  immediateLength : UInt64
  deriving DecidableEq

/-- The primary opcodes with a ModRM operand that may be in memory, by the operation their handler
admits. -/
def primaryOperand (opcode operation : UInt8) : Option (OperandDecoder × UInt64) :=
  if opcode = 0x0B then some (.rm, 0)
  else if opcode = 0x39 then some (.rm, 0)
  else if opcode = 0x81 ∧ (operation = 0 ∨ operation = 5 ∨ operation = 7) then some (.rm, 4)
  else if opcode = 0x83 ∧ (operation = 0 ∨ operation = 5 ∨ operation = 7) then some (.rm, 1)
  else if opcode = 0xF6 ∧ operation = 0 then some (.rm, 1)
  else if opcode = 0xF7 ∧ operation = 3 then some (.rm, 0)
  else if opcode = 0x80 ∧ operation = 7 then some (.dataMovement, 1)
  else if opcode = 0x89 then some (.dataMovement, 0)
  else if opcode = 0x8B then some (.dataMovement, 0)
  else if opcode = 0x8D then some (.dataMovement, 0)
  else if opcode = 0xC7 ∧ operation = 0 then some (.dataMovement, 4)
  else if opcode = 0xFF ∧ operation = 2 then some (.call, 0)
  else none

/-- The secondary opcodes with a ModRM operand that may be in memory, by the prefixes their
handler admits. -/
def secondaryOperand (instruction : DecodedInstruction) (opcode : UInt8) :
    Option (OperandDecoder × UInt64) :=
  if opcode = 0xB6 then some (.dataMovement, 0)
  else if (opcode = 0x10 ∨ opcode = 0x11 ∨ opcode = 0x29 ∨ opcode = 0x57) ∧
      hasNoSimdPrefix instruction then some (.simd, 0)
  else if opcode = 0x7F ∧ instruction.prefixF3 ∧ !instruction.prefix66 ∧ !instruction.prefixF2 then
    some (.simd, 0)
  else if (opcode = 0x60 ∨ opcode = 0x6E ∨ opcode = 0xD6) ∧ hasOnlyPrefix66 instruction then
    some (.simd, 0)
  else if opcode = 0x70 ∧ (hasOnlyPrefix66 instruction ∨
      instruction.prefixF2 ∧ !instruction.prefix66 ∧ !instruction.prefixF3) then some (.simd, 1)
  else none

namespace Machine

variable (machine : Machine σ) (instruction : DecodedInstruction)

/-- The operand form of a supported instruction. -/
def operandForm : Option OperandForm :=
  if instruction.opcode = 0x0F then
    if instruction.rexW then none
    else do
      let opcode ← machine.byteAt instruction.nextAddress
      let modrm ← machine.byteAt (instruction.nextAddress + 1)
      let (decoder, immediateLength) ← secondaryOperand instruction opcode
      some ⟨decoder, instruction.nextAddress + 1, modrm, immediateLength⟩
  else do
    let modrm ← machine.byteAt instruction.nextAddress
    let (decoder, immediateLength) ← primaryOperand instruction.opcode (regField modrm)
    some ⟨decoder, instruction.nextAddress, modrm, immediateLength⟩

/-- The address that the rule gives an operand without a base register: the end of the
instruction plus a displacement, or a scaled index plus a displacement. -/
def ruleAddress (form : OperandForm) : Option UInt64 :=
  if rmField form.modrm = 5 then
    (machine.wordAt (form.modrmAddress + 1)).map fun displacement =>
      form.modrmAddress + 5 + form.immediateLength + displacement32 displacement.toInt32
  else
    (machine.byteAt (form.modrmAddress + 1)).bind fun sib =>
      (machine.wordAt (form.modrmAddress + 2)).map fun displacement =>
        machine.scaledIndex instruction sib + displacement32 displacement.toInt32

end Machine

namespace OperandForm

variable (form : OperandForm) (machine : Machine σ) (instruction : DecodedInstruction)

/-- The ModRM byte, or the SIB byte behind it, selects an operand without a base register. -/
def Baseless : Prop :=
  modField form.modrm = 0 ∧
    (rmField form.modrm = 5 ∨ rmField form.modrm = 4 ∧
      ∃ sib, machine.byteAt (form.modrmAddress + 1) = some sib ∧ rmField sib = 5)

/-- The address the handler's decoder yields; of an indirect call, the address it reads the
target from. -/
def Uses (start : ExecutionContext σ) (address : UInt64) : Prop :=
  match form.decoder with
  | .rm => ∃ operand next,
    tryDecodeRmOperand instruction form.modrmAddress start = (some operand, next) ∧
      operand.rmAddress = address
  | .dataMovement => ∃ decoded next,
    tryGetMemoryOperandAddress instruction form.modrmAddress form.modrm start =
      (some decoded, next) ∧ decoded.1 = address
  | .simd => ∃ operand next,
    tryDecodeModrmOperand instruction form.modrmAddress start = (some operand, next) ∧
      operand.rmAddress = address
  | .call => ∃ target next, indirectCallTarget instruction form.modrm start = (some target, next) ∧
    next.accesses.head? =
      some (.guestRead (address - start.machine.memory.baseAddress) 8)

/-- Whatever address is used is the one of the rule. -/
def FollowsRule (start : ExecutionContext σ) : Prop :=
  ∀ address, form.Uses instruction start address →
    start.machine.ruleAddress instruction form = some address

/-- The handler calls through the operand, or REX.B is clear and no immediate follows an address
relative to the next instruction, or REX.B is set and R13 happens to make up the address. -/
def Conforms : Prop :=
  form.decoder = .call ∨
    instruction.rexB = false ∧ (rmField form.modrm = 5 →
      form.immediateLength = 0 ∨ machine.wordAt (form.modrmAddress + 1) = none) ∨
    instruction.rexB = true ∧ ∃ displacement,
      if rmField form.modrm = 5 then
        machine.wordAt (form.modrmAddress + 1) = some displacement ∧
          machine.register 13 = form.modrmAddress + 5 + form.immediateLength +
            displacement32 displacement.toInt32
      else
        machine.wordAt (form.modrmAddress + 2) = some displacement ∧
          machine.register 13 = displacement32 displacement.toInt32

end OperandForm

/-- Code that denotes a value returns exactly that value. -/
theorem Denotes.returns_iff {start : ExecutionContext σ} {x : Exec σ α} {value : Option α}
    (h : Denotes start x value) (f : α → UInt64) (address : UInt64) :
    (∃ a next, x start = (some a, next) ∧ f a = address) ↔ value.map f = some address := by
  rw [Option.map_eq_some_iff, ← h.fst_eq]
  constructor
  · rintro ⟨a, next, hrun, rfl⟩
    exact ⟨a, congrArg Prod.fst hrun, rfl⟩
  · rintro ⟨a, hreturned, rfl⟩
    exact ⟨a, (x start).2, Prod.ext hreturned rfl, rfl⟩

section Decoders

variable {start : ExecutionContext σ} {instruction : DecodedInstruction} {form : OperandForm}
  (hbytes : start.machine.memory.bytes ≠ 0)

include hbytes

/-- The three decoders use the effective address. -/
theorem uses_iff (instruction : DecodedInstruction)
    (hmodrm : start.machine.byteAt form.modrmAddress = some form.modrm)
    (hmod : modField form.modrm = 0) (hdecoder : form.decoder ≠ .call) (address : UInt64) :
    form.Uses instruction start address ↔
      (start.machine.effectiveAddress instruction form.modrmAddress form.modrm).map Prod.fst =
        some address := by
  have hmem : modField form.modrm ≠ 3 := by
    rw [hmod]
    decide
  unfold OperandForm.Uses
  cases hcase : form.decoder with
  | rm =>
    refine ((tryDecodeRmOperand_denotes hbytes instruction form.modrmAddress).returns_iff
      DecodedRmOperand.rmAddress address).trans ?_
    rw [Machine.rmOperand, hmodrm, Option.bind_some, if_neg hmem, Option.map_map]
    rfl
  | dataMovement =>
    exact (tryGetMemoryOperandAddress_denotes hbytes instruction form.modrmAddress
      hmem).returns_iff Prod.fst address
  | simd =>
    refine ((tryDecodeModrmOperand_denotes hbytes instruction form.modrmAddress).returns_iff
      DecodedModrmOperand.rmAddress address).trans ?_
    rw [Machine.modrmOperand, hmodrm, Option.bind_some, if_neg hmem, Option.map_map]
    rfl
  | call => exact absurd hcase hdecoder

/-- A quadword read that returns is the latest entry of the log. -/
theorem readU64_logs (guestAddress : UInt64) :
    Attempt.Triple (Untouched start) (readU64 guestAddress)
      (fun _ context => context.accesses.head? =
        some (.guestRead (guestAddress - start.machine.memory.baseAddress) 8))
      (fun _ => True) := by
  refine Attempt.Triple.bind (Q := fun _ context => context.accesses.head? =
    some (.guestRead (guestAddress - start.machine.memory.baseAddress) 8)) ?_ fun _ =>
      Attempt.Triple.pure fun _ hlog => hlog
  refine Attempt.Triple.bind ((translateGuestPointer_denotes hbytes guestAddress 8).conseq
    (fun _ hs => hs) (fun _ _ hs => hs) fun _ _ => trivial) fun offset => ?_
  refine Attempt.Triple.bind (Q := fun _ context => context.accesses.head? =
    some (.guestRead (guestAddress - start.machine.memory.baseAddress) 8))
      (Attempt.Triple.update ?_) fun _ => Attempt.Triple.read fun _ hlog => hlog
  rintro context ⟨hoffset, -⟩
  obtain ⟨rfl, -⟩ := EmulatorMemory.offsetOf_bound hoffset
  rfl

/-- An indirect call with mode 0 reads its target relative to the next instruction, or is
refused. -/
theorem indirectCallTarget_logs {modrm : UInt8} (hmod : modField modrm = 0) :
    Attempt.Triple (Untouched start) (indirectCallTarget instruction modrm)
      (fun _ context => rmField modrm = 5 ∧ ∃ displacement,
        start.machine.wordAt (instruction.nextAddress + 1) = some displacement ∧
          context.accesses.head? = some (.guestRead
            (instruction.nextAddress + 5 + displacement32 displacement.toInt32 -
              start.machine.memory.baseAddress) 8))
      (fun _ => True) := by
  have hmem : modField modrm ≠ 3 := by
    rw [hmod]
    decide
  unfold indirectCallTarget
  rw [if_neg hmem]
  split
  · next hrip =>
    refine (readI32_denotes hbytes _).orInvalidMemory.then (fun _ _ _ => trivial)
      fun displacement hdisplacement => ?_
    obtain ⟨word, hword, rfl⟩ := Option.map_eq_some_iff.mp hdisplacement
    refine Attempt.Triple.bind (Attempt.Triple.onFailure (readU64_logs hbytes _) fun _ _ => trivial)
      fun target => Attempt.Triple.pure fun context hlog => ?_
    exact ⟨hrip.2.1, word, hword, hlog⟩
  · exact (unsupported_triple _).conseq (fun _ hs => hs) (fun _ _ hs => hs) fun _ _ => trivial

/-- An indirect call follows the rule. -/
theorem followsRule_call (hcall : form.decoder = .call)
    (haddress : form.modrmAddress = instruction.nextAddress) (himmediate : form.immediateLength = 0)
    (hmod : modField form.modrm = 0) : form.FollowsRule instruction start := by
  intro address huses
  rw [OperandForm.Uses, hcall] at huses
  obtain ⟨target, next, hrun, hlog⟩ := huses
  obtain ⟨hrm, displacement, hword, hread⟩ :=
    (indirectCallTarget_logs hbytes hmod start (Untouched.refl start)).1 target next hrun
  rw [hread, Option.some.injEq, Access.guestRead.injEq] at hlog
  have heq := congrArg (· + start.machine.memory.baseAddress) hlog.1
  simp only [UInt64.sub_add_cancel] at heq
  rw [Machine.ruleAddress, if_pos hrm, haddress, hword, Option.map_some, himmediate, ← heq,
    UInt64.add_zero]

end Decoders

section Addresses

theorem displacementAt_four (machine : Machine σ) (guestAddress : UInt64) :
    machine.displacementAt guestAddress 4 =
      (machine.wordAt guestAddress).map fun word => displacement32 word.toInt32 := rfl

variable {machine : Machine σ} {instruction : DecodedInstruction} {form : OperandForm}
  (hmod : modField form.modrm = 0)

include hmod

/-- Without REX.B the displacement is counted from the end of the operand bytes. -/
theorem effectiveAddress_rip (hrm : rmField form.modrm = 5) (hrex : instruction.rexB = false) :
    (machine.effectiveAddress instruction form.modrmAddress form.modrm).map Prod.fst =
      (machine.wordAt (form.modrmAddress + 1)).map fun displacement =>
        form.modrmAddress + 5 + displacement32 displacement.toInt32 := by
  rw [Machine.effectiveAddress, if_neg (by rw [hrm]; decide), if_pos ⟨hmod, hrm, by rw [hrex]; rfl⟩,
    displacementAt_four, Option.map_map, Option.map_map]
  rfl

/-- With REX.B the operand is the one R13 points to. -/
theorem effectiveAddress_r13 (hrm : rmField form.modrm = 5) (hrex : instruction.rexB = true) :
    (machine.effectiveAddress instruction form.modrmAddress form.modrm).map Prod.fst =
      some (machine.register 13) := by
  rw [Machine.effectiveAddress, if_neg (by rw [hrm]; decide), if_neg (by simp [hrex]), hmod,
    displacementWidth_zero, Machine.displacementAt, Option.map_some, Option.map_some,
    UInt64.add_zero, hrm, hrex]
  rfl

variable {sib : UInt8} (hsib : machine.byteAt (form.modrmAddress + 1) = some sib)
  (hbase : rmField sib = 5) (hrm : rmField form.modrm = 4)

include hsib hbase hrm

/-- Without REX.B there is no base register behind a SIB byte with base 5. -/
theorem effectiveAddress_sib (hrex : instruction.rexB = false) :
    (machine.effectiveAddress instruction form.modrmAddress form.modrm).map Prod.fst =
      (machine.wordAt (form.modrmAddress + 2)).map fun displacement =>
        machine.scaledIndex instruction sib + displacement32 displacement.toInt32 := by
  rw [Machine.effectiveAddress, if_pos hrm, Machine.sibAddress, hsib, Option.bind_some,
    if_pos ⟨hmod, hbase, by rw [hrex]; rfl⟩, displacementAt_four, Option.map_map, Option.map_map]
  rfl

/-- With REX.B the base register is R13. -/
theorem effectiveAddress_sib_r13 (hrex : instruction.rexB = true) :
    (machine.effectiveAddress instruction form.modrmAddress form.modrm).map Prod.fst =
      some (machine.register 13 + machine.scaledIndex instruction sib) := by
  rw [Machine.effectiveAddress, if_pos hrm, Machine.sibAddress, hsib, Option.bind_some,
    if_neg (by simp [hrex]), hmod, displacementWidth_zero, Machine.displacementAt, Option.map_some,
    Option.map_some, UInt64.add_zero, hbase, hrex]
  rfl

end Addresses

/-- A property of both entries of a test holds of the chosen one. -/
theorem ite_entry {β : Type} {c : Prop} [Decidable c] {P : β → Prop} {x y : Option β}
    (hx : ∀ b, x = some b → P b) (hy : ∀ b, y = some b → P b) (b : β)
    (h : (if c then x else y) = some b) : P b := by
  split at h
  · exact hx b h
  · exact hy b h

/-- No immediate follows the operand of an indirect call. -/
theorem primaryOperand_call (opcode operation : UInt8) (entry : OperandDecoder × UInt64)
    (h : primaryOperand opcode operation = some entry) : entry.1 = .call → entry.2 = 0 := by
  revert entry
  unfold primaryOperand
  iterate 12 refine ite_entry (by simp) ?_
  simp

/-- No secondary opcode calls. -/
theorem secondaryOperand_decoder (instruction : DecodedInstruction) (opcode : UInt8)
    (entry : OperandDecoder × UInt64) (h : secondaryOperand instruction opcode = some entry) :
    entry.1 ≠ .call := by
  revert entry
  unfold secondaryOperand
  iterate 5 refine ite_entry (by simp) ?_
  simp

/-- What is known of a form that an instruction has. -/
theorem operandForm_spec {machine : Machine σ} {instruction : DecodedInstruction}
    {form : OperandForm} (h : machine.operandForm instruction = some form) :
    machine.byteAt form.modrmAddress = some form.modrm ∧ (form.decoder = .call →
      form.modrmAddress = instruction.nextAddress ∧ form.immediateLength = 0) := by
  unfold Machine.operandForm at h
  split at h
  · split at h
    · cases h
    obtain ⟨opcode, -, h⟩ := Option.bind_eq_some_iff.mp h
    obtain ⟨modrm, hmodrm, h⟩ := Option.bind_eq_some_iff.mp h
    obtain ⟨⟨decoder, immediateLength⟩, hentry, h⟩ := Option.bind_eq_some_iff.mp h
    cases h
    refine ⟨hmodrm, fun hcall => ?_⟩
    exact absurd hcall (secondaryOperand_decoder instruction opcode _ hentry)
  · obtain ⟨modrm, hmodrm, h⟩ := Option.bind_eq_some_iff.mp h
    obtain ⟨⟨decoder, immediateLength⟩, hentry, h⟩ := Option.bind_eq_some_iff.mp h
    cases h
    refine ⟨hmodrm, fun hcall => ⟨rfl, ?_⟩⟩
    exact primaryOperand_call instruction.opcode (regField modrm) _ hentry hcall

/-- An operand without a base register is used at the address of the rule exactly if it conforms:
no immediate follows it and REX.B is clear, or R13 happens to make up the address. -/
theorem operandForm_followsRule_iff {start : ExecutionContext σ}
    (hbytes : start.machine.memory.bytes ≠ 0) {instruction : DecodedInstruction}
    {form : OperandForm} (hform : start.machine.operandForm instruction = some form)
    (hbaseless : form.Baseless start.machine) :
    form.FollowsRule instruction start ↔ form.Conforms start.machine instruction := by
  obtain ⟨hmodrm, hcallForm⟩ := operandForm_spec hform
  obtain ⟨hmod, hkind⟩ := hbaseless
  by_cases hcall : form.decoder = .call
  · exact iff_of_true (followsRule_call hbytes hcall (hcallForm hcall).1 (hcallForm hcall).2 hmod)
      (.inl hcall)
  have huses := uses_iff hbytes instruction hmodrm hmod hcall
  simp only [OperandForm.FollowsRule, OperandForm.Conforms, huses, hcall, false_or]
  rcases hkind with hrm | ⟨hrm, sib, hsib, hbase⟩
  · simp only [Machine.ruleAddress, hrm, if_true, true_imp_iff]
    cases hrex : instruction.rexB with
    | false =>
      rw [effectiveAddress_rip hmod hrm hrex]
      cases start.machine.wordAt (form.modrmAddress + 1) with
      | none => simp
      | some word => simp
    | true =>
      rw [effectiveAddress_r13 hmod hrm hrex]
      simp only [Option.some.injEq, forall_eq', Option.map_eq_some_iff, Bool.true_eq_false, false_and,
        true_and, false_or]
      exact exists_congr fun word => and_congr_right fun _ => eq_comm
  · have hne : rmField form.modrm ≠ 5 := by
      rw [hrm]
      decide
    simp only [Machine.ruleAddress, if_neg hne, hsib, Option.bind_some]
    cases hrex : instruction.rexB with
    | false =>
      rw [effectiveAddress_sib hmod hsib hbase hrm hrex]
      simp [hne]
    | true =>
      rw [effectiveAddress_sib_r13 hmod hsib hbase hrm hrex]
      simp only [Option.some.injEq, forall_eq', Option.map_eq_some_iff, Bool.true_eq_false, false_and,
        true_and, false_or]
      refine exists_congr fun word => and_congr_right fun _ => ?_
      rw [UInt64.add_comm, UInt64.add_left_inj, eq_comm]

/-- `lea rax, [rip + 0x10]`. -/
def loadAddressSample : ExecutionContext Unit :=
  .start (sampleMachine [0x48, 0x8D, 0x05, 0x10, 0x00, 0x00, 0x00] 0x1010)

theorem loadAddressSample_followsRule :
    OperandForm.FollowsRule ⟨.dataMovement, 0x1002, 0x05, 0⟩
      { DecodedInstruction.initial 0x1000 with
        opcode := 0x8D, opcodeAddress := 0x1001, nextAddress := 0x1002, rexW := true }
      loadAddressSample := by
  have hbytes : loadAddressSample.machine.memory.bytes ≠ 0 := by decide
  have hform : loadAddressSample.machine.operandForm
      { DecodedInstruction.initial 0x1000 with
        opcode := 0x8D, opcodeAddress := 0x1001, nextAddress := 0x1002, rexW := true } =
      some ⟨.dataMovement, 0x1002, 0x05, 0⟩ := by
    decide +kernel
  exact (operandForm_followsRule_iff hbytes hform ⟨by decide, .inl (by decide)⟩).mpr
    (.inr (.inl ⟨rfl, fun _ => .inl rfl⟩))

/-- `cmp dword ptr [rip], 5`, whose operand begins behind the instruction. -/
def compareImmediateSample : ExecutionContext Unit :=
  .start (sampleMachine [0x83, 0x3D, 0x00, 0x00, 0x00, 0x00, 0x05] 0x1010)

/-- The decoder counts the displacement from the last byte of the instruction instead. -/
theorem compareImmediate_breaksRule : ∃ instruction form,
    compareImmediateSample.machine.fetchInstruction = some instruction ∧
      compareImmediateSample.machine.operandForm instruction = some form ∧
      form.Baseless compareImmediateSample.machine ∧
      ¬ form.FollowsRule instruction compareImmediateSample := by
  refine ⟨{ DecodedInstruction.initial 0x1000 with opcode := 0x83, nextAddress := 0x1001 },
    ⟨.rm, 0x1001, 0x3D, 1⟩, by decide +kernel, by decide +kernel,
    ⟨by decide, .inl (by decide)⟩, fun hfollows => ?_⟩
  have huses := hfollows 0x1006
    ((uses_iff (by decide) _ (by decide +kernel) (by decide) (by decide) _).mpr (by decide +kernel))
  exact absurd huses (by decide +kernel)

end Ringos.Emulator
