import Ringos.Emulator.DecoderEffects

/-!
# The copies of the operand decoder

The ModRM grammar is written out for the arithmetic, the data movement and the
SIMD instructions, again to skip the operand of a multi-byte `nop`, and once
more for the indirect call. Whether two copies agree is asked of any context:
they end alike where they return the same addresses or leave the same fault
addresses in the record. Between the copies only the completion and the log may
differ, so the copies are compared along the relation that leaves these out.
-/

namespace Ringos.Emulator

open Ringos.Core
open Exec

variable {σ α β : Type}

/-- The fault addresses that a record holds. -/
def EmulatorResult.faultAddresses (result : EmulatorResult) : UInt64 × UInt64 :=
  (result.faultAddress, result.fault.memoryAddress)

/-- How a decoder ends: with what it returns, or with the fault addresses that it leaves. -/
def Exec.ending (x : Exec σ α) (context : ExecutionContext σ) : Except (UInt64 × UInt64) α :=
  match x context with
  | (some a, _) => .ok a
  | (none, next) => .error next.result.faultAddresses

/-- How the operand decoder of the arithmetic instructions ends, as the operand address and the
address behind the operand. -/
def rmEnding (instruction : DecodedInstruction) (modrmAddress : UInt64)
    (context : ExecutionContext σ) : Except (UInt64 × UInt64) (UInt64 × UInt64) :=
  ((tryDecodeRmOperand instruction modrmAddress).ending context).map fun operand =>
    (operand.rmAddress, operand.nextInstruction)

/-- The same of the SIMD instructions. -/
def modrmEnding (instruction : DecodedInstruction) (modrmAddress : UInt64)
    (context : ExecutionContext σ) : Except (UInt64 × UInt64) (UInt64 × UInt64) :=
  ((tryDecodeModrmOperand instruction modrmAddress).ending context).map fun operand =>
    (operand.rmAddress, operand.nextInstruction)

/-- How the data movement handlers come to a memory operand: they read the ModRM byte
themselves. -/
def memoryOperand (instruction : DecodedInstruction) (modrmAddress : UInt64) :
    Exec σ (UInt64 × UInt64) := do
  let modrm ← orInvalidMemory (readU8 modrmAddress)
  tryGetMemoryOperandAddress instruction modrmAddress modrm

/-- An indirect call that finds its target by the operand decoder of the arithmetic
instructions. -/
def callThroughOperand (instruction : DecodedInstruction) : Exec σ InstructionOutcome := do
  let operand ← orInvalidMemory (tryDecodeRmOperand instruction instruction.nextAddress)
  let target ← orInvalidMemory (readU64 operand.rmAddress)
  orInvalidMemory (pushU64 operand.nextInstruction)
  continueAt target

/-- The ModRM byte, where it can be read, is of a kind. -/
def ModrmIs (kind : UInt8 → Prop) (modrmAddress : UInt64) (context : ExecutionContext σ) : Prop :=
  ∀ modrm, (readU8 modrmAddress context).1 = some modrm → kind modrm

/-- The ModRM byte of a call through a cell at a distance from the instruction's end. -/
def IsRelativeCall (modrm : UInt8) : Prop :=
  modField modrm = 0 ∧ regField modrm = 2 ∧ rmField modrm = 5

/-- What makes the copies one decoder. -/
structure DecodersAgree (instruction : DecodedInstruction) (modrmAddress : UInt64)
    (context : ExecutionContext σ) : Prop where
  simd : modrmEnding instruction modrmAddress context = rmEnding instruction modrmAddress context
  dataMovement : ModrmIs (fun modrm => modField modrm ≠ 3) modrmAddress context →
    (memoryOperand instruction modrmAddress).ending context =
      rmEnding instruction modrmAddress context
  skipping : ModrmIs (fun modrm => regField modrm = 0) modrmAddress context →
    (trySkipModrmOperand instruction modrmAddress).ending context =
      (rmEnding instruction modrmAddress context).map Prod.snd
  /-- The handler does the same as one with the decoder, to the guest and to the record. -/
  indirectCall : instruction.rexB = false →
    ModrmIs IsRelativeCall instruction.nextAddress context →
    executeX64GroupFf instruction context = callThroughOperand instruction context

/-- Two contexts with the same guest and the same fault on record. -/
structure SameFaults (left right : ExecutionContext σ) : Prop where
  machine : left.machine = right.machine
  faultAddress : left.result.faultAddress = right.result.faultAddress
  fault : left.result.fault = right.result.fault

namespace SameFaults

variable {left right : ExecutionContext σ}

theorem refl (context : ExecutionContext σ) : SameFaults context context := ⟨rfl, rfl, rfl⟩

theorem note (h : SameFaults left right) (access access' : Access) :
    SameFaults (left.note access) (right.note access') :=
  ⟨h.machine, h.faultAddress, h.fault⟩

theorem noteLeft (h : SameFaults left right) (access : Access) :
    SameFaults (left.note access) right := ⟨h.machine, h.faultAddress, h.fault⟩

theorem mark (h : SameFaults left right) :
    SameFaults left (right.mapResult EmulatorResult.markInvalidMemoryAccess) :=
  ⟨h.machine, h.faultAddress, h.fault⟩

theorem setInvalidMemoryAccess (h : SameFaults left right) (guestAddress : UInt64) :
    SameFaults
      (left.mapResult (EmulatorResult.setInvalidMemoryAccess guestAddress left.result.fault.opcode))
      (right.mapResult
        (EmulatorResult.setInvalidMemoryAccess guestAddress right.result.fault.opcode)) where
  machine := h.machine
  faultAddress := rfl
  fault := by
    simp only [ExecutionContext.mapResult, EmulatorResult.setInvalidMemoryAccess, h.fault]

end SameFaults

/-- Code that does the same with the same guest and the same fault on record. -/
abbrev Faithful (x : Exec σ α) : Prop := Attempt.Respects SameFaults x

/-- Two programs that end alike on the same guest, where `V` relates what they return. -/
abbrev EndAlike (V : α → β → Prop) (x : Exec σ α) (y : Exec σ β) : Prop :=
  Attempt.Agree SameFaults V x y

section Reads

theorem faithful_read (f : Machine σ → α) :
    Faithful (Attempt.read fun context : ExecutionContext σ => f context.machine) :=
  .read fun _ _ h => congrArg f h.machine

instance (access : Access) : Faithful (Exec.note access : Exec σ Unit) :=
  .update fun _ _ h => h.note access access

instance (guestAddress : UInt64) (length : Nat) :
    Faithful (translateGuestPointer guestAddress length : Exec σ UInt64) where
  related {left right} h := by
    have hrun (context : ExecutionContext σ) :
        translateGuestPointer guestAddress length context =
          if context.machine.memory.bytes = 0 then (none, context)
          else if context.machine.memory.contains guestAddress length then
            (some (guestAddress - context.machine.memory.baseAddress), context)
          else (none, context.mapResult
            (EmulatorResult.setInvalidMemoryAccess guestAddress context.result.fault.opcode)) := by
      change (if _ then _ else _ : Exec σ UInt64) context = _
      split
      · rfl
      · split <;> rfl
    rw [hrun, hrun, h.machine]
    split
    · exact ⟨rfl, h⟩
    · split
      · exact ⟨rfl, h⟩
      · exact ⟨rfl, h.setInvalidMemoryAccess guestAddress⟩

instance (guestAddress : UInt64) (length : Nat) :
    Faithful (readGuest guestAddress length : Exec σ (List UInt8)) :=
  @Attempt.Respects.bind _ _ _ _ _ _ inferInstance fun offset =>
    @Attempt.Respects.bind _ _ _ _ _ _ inferInstance fun _ =>
      faithful_read fun machine => loadBytes machine.host (machine.memory.bytes + offset) length

instance (guestAddress : UInt64) : Faithful (readU8 guestAddress : Exec σ UInt8) := by
  unfold readU8
  infer_instance

instance (guestAddress : UInt64) : Faithful (readU32 guestAddress : Exec σ UInt32) := by
  unfold readU32
  infer_instance

instance (guestAddress : UInt64) : Faithful (readI8 guestAddress : Exec σ Int8) := by
  unfold readI8
  infer_instance

instance (guestAddress : UInt64) : Faithful (readI32 guestAddress : Exec σ Int32) := by
  unfold readI32
  infer_instance

instance (registerIndex : UInt32) : Faithful (getRegister64 registerIndex : Exec σ UInt64) :=
  @Attempt.Respects.bind _ _ _ _ _ _ inferInstance fun _ =>
    faithful_read fun machine => machine.register registerIndex

/-- The completion that the second program marks is left out of the comparison. -/
theorem EndAlike.orInvalidMemory {V : α → β → Prop} {x : Exec σ α} {y : Exec σ β}
    (h : EndAlike V x y) : EndAlike V x (orInvalidMemory y) :=
  h.onFailure fun _ _ hsame => hsame.mark

/-- The register accesses of the first program are left out of the comparison. -/
theorem EndAlike.ofRegister {V : α → β → Prop} {registerIndex : UInt32} {f : UInt64 → Exec σ α}
    {y : Exec σ β} (h : ∀ value, EndAlike V (f value) y) :
    EndAlike V (getRegister64 registerIndex >>= f) y :=
  .silent (fun _ _ hsame => ⟨_, _, rfl, hsame.noteLeft (.generalRegister registerIndex)⟩) h

/-- Programs that end alike show the same ending. -/
theorem EndAlike.ending_eq {x : Exec σ α} {y : Exec σ β} {f : α → β}
    (h : EndAlike (fun a b => f a = b) x y) (context : ExecutionContext σ) :
    (x.ending context).map f = y.ending context := by
  obtain ⟨hvalue, hstate⟩ := h context context (.refl context)
  unfold Exec.ending
  rcases hx : x context with ⟨_ | a, left⟩ <;> rcases hy : y context with ⟨_ | b, right⟩ <;>
    rw [hx, hy] at hvalue hstate
  · change Except.error _ = Except.error _
    rw [EmulatorResult.faultAddresses, EmulatorResult.faultAddresses, hstate.faultAddress,
      hstate.fault]
  · cases hvalue
  · cases hvalue
  · cases hvalue with
    | some hsame => exact congrArg Except.ok hsame

end Reads

section Copies

variable (instruction : DecodedInstruction) (modrmAddress : UInt64)

instance (indexField : UInt8) :
    Faithful (sibIndexValue instruction indexField : Exec σ UInt64) := by
  unfold sibIndexValue
  infer_instance

/-- The index register is read or not, and either way the decoder goes on. -/
theorem EndAlike.ofSibIndex {instruction : DecodedInstruction} {V : α → β → Prop}
    {indexField : UInt8} {f : UInt64 → Exec σ α} {y : Exec σ β} (h : ∀ value, EndAlike V (f value) y) :
    EndAlike V (sibIndexValue instruction indexField >>= f) y := by
  unfold sibIndexValue
  split
  · exact .ofRegister h
  · exact h 0

/-- A copy that marks the completion where a read fails. -/
theorem EndAlike.guarded (x : Exec σ α) (f : α → Exec σ β) [Faithful x] [∀ a, Faithful (f a)] :
    EndAlike Eq (x >>= f) (Exec.orInvalidMemory x >>= f) := by
  refine .bind (EndAlike.orInvalidMemory (.ofRespects x)) ?_
  rintro a _ rfl
  exact .ofRespects (f a)

/-- The SIB decoder of the data movement instructions is that of the arithmetic ones. -/
theorem endAlike_tryReadSibAddress (mod : UInt8) :
    EndAlike (σ := σ) Eq (tryReadSibOperandAddress instruction modrmAddress mod)
      (tryReadSibAddress instruction modrmAddress mod) := by
  refine .bind (EndAlike.orInvalidMemory (.ofRespects (readU8 _))) ?_
  rintro sib _ rfl
  refine .bind (.ofRespects (sibIndexValue instruction _)) ?_
  rintro indexValue _ rfl
  dsimp only
  split
  · split
    · exact EndAlike.guarded _ _
    · exact .ofRespects _
  · split
    · exact EndAlike.guarded _ _
    · split
      · exact EndAlike.guarded _ _
      · exact .ofRespects _

/-- The data movement decoder is the arithmetic one, where there is an operand in memory. -/
theorem endAlike_tryGetMemoryOperandAddress {modrm : UInt8} (hmod : modField modrm ≠ 3) :
    EndAlike (σ := σ) Eq (decodeModrmAddress instruction modrmAddress modrm)
      (tryGetMemoryOperandAddress instruction modrmAddress modrm) := by
  unfold decodeModrmAddress tryGetMemoryOperandAddress
  simp only [if_neg hmod]
  by_cases hrm : rmField modrm = 4
  · simp only [if_pos hrm]
    rcases modField_cases modrm with h | h | h | h
    · rw [if_pos h]
      exact endAlike_tryReadSibAddress _ _ _
    · rw [if_neg (by rw [h]; decide), if_pos h]
      exact endAlike_tryReadSibAddress _ _ _
    · rw [if_neg (by rw [h]; decide), if_neg (by rw [h]; decide), if_pos h]
      exact endAlike_tryReadSibAddress _ _ _
    · exact absurd h hmod
  · simp only [if_neg hrm]
    split
    · split
      · exact EndAlike.guarded _ _
      · exact .ofRespects _
    · split
      · exact EndAlike.guarded _ _
      · split
        · exact EndAlike.guarded _ _
        · exact .ofRespects _

/-- The skipped displacement is the one that is read as a number. -/
theorem endAlike_skip8 (displacementAddress : UInt64) :
    EndAlike (σ := σ) (fun _ _ => True) (readI8 displacementAddress)
      (readU8 displacementAddress) := by
  have hskip : (readU8 displacementAddress : Exec σ UInt8) =
      readU8 displacementAddress >>= fun byte => pure byte := (bind_pure _).symm
  rw [hskip]
  exact .bind (.ofRespects (readU8 displacementAddress)) fun _ _ _ => .pure trivial

theorem endAlike_skip32 (displacementAddress : UInt64) :
    EndAlike (σ := σ) (fun _ _ => True) (readI32 displacementAddress)
      (readU32 displacementAddress) := by
  have hskip : (readU32 displacementAddress : Exec σ UInt32) =
      readU32 displacementAddress >>= fun word => pure word := (bind_pure _).symm
  rw [hskip]
  exact .bind (.ofRespects (readU32 displacementAddress)) fun _ _ _ => .pure trivial

/-- The part of `try_skip_modrm_operand` behind the ModRM byte and the base. -/
def skipDisplacement (mod : UInt8) (nextInstruction : UInt64) : Exec σ UInt64 :=
  if mod = 1 then do
    let _ ← readU8 nextInstruction
    pure (nextInstruction + 1)
  else if mod = 2 then do
    let _ ← readU32 nextInstruction
    pure (nextInstruction + 4)
  else pure nextInstruction

theorem endAlike_skipSib {mod : UInt8} (hmod : mod = 0 ∨ mod = 1 ∨ mod = 2) :
    EndAlike (σ := σ) (fun decoded behind => decoded.2 = behind)
      (tryReadSibOperandAddress instruction modrmAddress mod)
      (skipBaseBytes instruction mod 4 (modrmAddress + 1) >>= skipDisplacement mod) := by
  unfold skipBaseBytes
  rw [if_pos rfl, bind_assoc]
  refine .bind (.ofRespects (readU8 _)) ?_
  rintro sib _ rfl
  refine EndAlike.ofSibIndex fun indexValue => ?_
  have hbehind : modrmAddress + 1 + 1 = modrmAddress + 2 := by
    rw [UInt64.add_assoc]
    rfl
  rw [hbehind]
  rcases hmod with rfl | rfl | rfl
  · by_cases hnobase : rmField sib = 5 ∧ !instruction.rexB
    · rw [if_pos rfl, if_pos hnobase, if_pos ⟨rfl, hnobase⟩, bind_assoc]
      exact .bind (endAlike_skip32 _) fun _ _ _ => .pure rfl
    · rw [if_pos rfl, if_neg hnobase, if_neg fun h => hnobase h.2]
      exact EndAlike.ofRegister fun _ => .pure rfl
  · rw [if_neg (by decide), if_pos rfl, if_neg (by simp), pure_bind, skipDisplacement, if_pos rfl]
    refine .bind (endAlike_skip8 _) fun _ _ _ => ?_
    exact EndAlike.ofRegister fun _ => .pure rfl
  · rw [if_neg (by decide), if_neg (by decide), if_pos rfl, if_neg (by simp), pure_bind,
      skipDisplacement, if_neg (by decide), if_pos rfl]
    refine .bind (endAlike_skip32 _) fun _ _ _ => ?_
    exact EndAlike.ofRegister fun _ => .pure rfl

/-- An operand in memory is skipped as it is decoded. -/
theorem endAlike_skipOperand {modrm : UInt8} (hmod : modField modrm ≠ 3) :
    EndAlike (σ := σ) (fun decoded behind => decoded.2 = behind)
      (decodeModrmAddress instruction modrmAddress modrm)
      (skipBaseBytes instruction (modField modrm) (rmField modrm) (modrmAddress + 1) >>=
        skipDisplacement (modField modrm)) := by
  have hmem : modField modrm = 0 ∨ modField modrm = 1 ∨ modField modrm = 2 := by
    simpa only [hmod, or_false] using modField_cases modrm
  unfold decodeModrmAddress
  simp only [if_neg hmod]
  by_cases hrm : rmField modrm = 4
  · rw [if_pos hrm, hrm]
    exact endAlike_skipSib _ _ hmem
  · unfold skipBaseBytes
    rw [if_neg hrm, if_neg hrm]
    rcases hmem with h | h | h
    · rw [h, if_pos rfl]
      by_cases hrip : rmField modrm = 5 ∧ !instruction.rexB
      · have hbehind : modrmAddress + 1 + 4 = modrmAddress + 5 := by
          rw [UInt64.add_assoc]
          rfl
        rw [if_pos hrip, if_pos ⟨rfl, hrip⟩, bind_assoc, hbehind]
        exact .bind (endAlike_skip32 _) fun _ _ _ => .pure rfl
      · rw [if_neg hrip, if_neg fun h => hrip h.2]
        exact EndAlike.ofRegister fun _ => .pure rfl
    · have hbehind : modrmAddress + 1 + 1 = modrmAddress + 2 := by
        rw [UInt64.add_assoc]
        rfl
      rw [h, if_neg (by decide), if_pos rfl, if_neg (by simp), pure_bind, skipDisplacement,
        if_pos rfl, hbehind]
      refine .bind (endAlike_skip8 _) fun _ _ _ => ?_
      exact EndAlike.ofRegister fun _ => .pure rfl
    · have hbehind : modrmAddress + 1 + 4 = modrmAddress + 5 := by
        rw [UInt64.add_assoc]
        rfl
      rw [h, if_neg (by decide), if_neg (by decide), if_pos rfl, if_neg (by simp), pure_bind,
        skipDisplacement, if_neg (by decide), if_pos rfl, hbehind]
      refine .bind (endAlike_skip32 _) fun _ _ _ => ?_
      exact EndAlike.ofRegister fun _ => .pure rfl

end Copies

section Endings

variable {context next : ExecutionContext σ}

theorem Exec.ending_of_some {x : Exec σ α} {a : α} (h : x context = (some a, next)) :
    x.ending context = .ok a := by
  rw [Exec.ending, h]

theorem Exec.ending_of_none {x : Exec σ α} (h : x context = (none, next)) :
    x.ending context = .error next.result.faultAddresses := by
  rw [Exec.ending, h]

theorem Exec.ending_bind_of_some {x : Exec σ α} {f : α → Exec σ β} {a : α}
    (h : x context = (some a, next)) : (x >>= f).ending context = (f a).ending next := by
  rw [Exec.ending, Exec.ending, Attempt.bind_of_some h]

theorem Exec.ending_bind_of_none {x : Exec σ α} {f : α → Exec σ β} (h : x context = (none, next)) :
    (x >>= f).ending context = .error next.result.faultAddresses :=
  Exec.ending_of_none (Attempt.bind_of_none h)

/-- What is returned may be mapped before or after. -/
theorem Exec.ending_map (x : Exec σ α) (f : α → β) (context : ExecutionContext σ) :
    (x >>= fun a => Pure.pure (f a)).ending context = (x.ending context).map f := by
  rcases hrun : x context with ⟨_ | a, next⟩
  · rw [ending_bind_of_none hrun, ending_of_none hrun]
    rfl
  · rw [ending_bind_of_some hrun, ending_of_some hrun]
    rfl

end Endings

section Agreement

theorem orInvalidMemory_of_some {x : Exec σ α} {a : α} {context next : ExecutionContext σ}
    (h : x context = (some a, next)) : orInvalidMemory x context = (some a, next) := by
  rw [orInvalidMemory, Attempt.onFailure, h]

theorem orInvalidMemory_of_none {x : Exec σ α} {context next : ExecutionContext σ}
    (h : x context = (none, next)) :
    orInvalidMemory x context =
      (none, next.mapResult EmulatorResult.markInvalidMemoryAccess) := by
  rw [orInvalidMemory, Attempt.onFailure, h]

variable (instruction : DecodedInstruction) (modrmAddress : UInt64) (context : ExecutionContext σ)

/-- The operand decoder reads the ModRM byte and decodes the address by it. -/
theorem rmEnding_eq :
    rmEnding instruction modrmAddress context =
      Exec.ending (readU8 modrmAddress >>= decodeModrmAddress instruction modrmAddress)
        context := by
  unfold rmEnding tryDecodeRmOperand
  rcases hrun : readU8 modrmAddress context with ⟨_ | modrm, next⟩
  · rw [Exec.ending_bind_of_none hrun, Exec.ending_bind_of_none hrun]
    rfl
  · rw [Exec.ending_bind_of_some hrun, Exec.ending_bind_of_some hrun, ← Exec.ending_map]
    refine (congrArg (Exec.ending · next) (bind_assoc _ _ _)).trans ?_
    exact congrArg (Exec.ending · next) (bind_pure _)

theorem modrmEnding_eq :
    modrmEnding instruction modrmAddress context =
      rmEnding instruction modrmAddress context := by
  rw [rmEnding_eq]
  unfold modrmEnding tryDecodeModrmOperand
  rcases hrun : readU8 modrmAddress context with ⟨_ | modrm, next⟩
  · rw [Exec.ending_bind_of_none hrun, Exec.ending_bind_of_none hrun]
    rfl
  · rw [Exec.ending_bind_of_some hrun, Exec.ending_bind_of_some hrun, ← Exec.ending_map]
    refine (congrArg (Exec.ending · next) (bind_assoc _ _ _)).trans ?_
    exact congrArg (Exec.ending · next) (bind_pure _)

theorem memoryOperand_ending
    (hmod : ModrmIs (fun modrm => modField modrm ≠ 3) modrmAddress context) :
    (memoryOperand instruction modrmAddress).ending context =
      rmEnding instruction modrmAddress context := by
  rw [rmEnding_eq]
  unfold memoryOperand
  rcases hrun : readU8 modrmAddress context with ⟨_ | modrm, next⟩
  · rw [Exec.ending_bind_of_none hrun, Exec.ending_bind_of_none (orInvalidMemory_of_none hrun)]
    rfl
  · rw [Exec.ending_bind_of_some hrun, Exec.ending_bind_of_some (orInvalidMemory_of_some hrun)]
    have halike : EndAlike (σ := σ) (fun a b => id a = b) _ _ :=
      endAlike_tryGetMemoryOperandAddress instruction modrmAddress (hmod modrm (by rw [hrun]))
    rw [← halike.ending_eq next]
    cases (decodeModrmAddress instruction modrmAddress modrm).ending next <;> rfl

theorem trySkipModrmOperand_ending
    (hreg : ModrmIs (fun modrm => regField modrm = 0) modrmAddress context) :
    (trySkipModrmOperand instruction modrmAddress).ending context =
      (rmEnding instruction modrmAddress context).map Prod.snd := by
  rw [rmEnding_eq]
  unfold trySkipModrmOperand
  rcases hrun : readU8 modrmAddress context with ⟨_ | modrm, next⟩
  · rw [Exec.ending_bind_of_none hrun, Exec.ending_bind_of_none hrun]
    rfl
  · rw [Exec.ending_bind_of_some hrun, Exec.ending_bind_of_some hrun,
      if_neg (not_not.mpr (hreg modrm (by rw [hrun])))]
    by_cases hmod : modField modrm = 3
    · rw [if_pos hmod, decodeModrmAddress]
      simp only [if_pos hmod]
      rfl
    · rw [if_neg hmod]
      exact ((endAlike_skipOperand instruction modrmAddress hmod).ending_eq next).symm

theorem executeX64GroupFf_eq (hrex : instruction.rexB = false)
    (hcall : ModrmIs IsRelativeCall instruction.nextAddress context) :
    executeX64GroupFf instruction context = callThroughOperand instruction context := by
  unfold executeX64GroupFf callThroughOperand
  rcases hrun : readU8 instruction.nextAddress context with ⟨_ | modrm, next⟩
  · have hoperand : tryDecodeRmOperand instruction instruction.nextAddress context =
        (none, next) := Attempt.bind_of_none hrun
    rw [Attempt.bind_of_none (orInvalidMemory_of_none hrun),
      Attempt.bind_of_none (orInvalidMemory_of_none hoperand)]
  · obtain ⟨hmod, hreg, hrm⟩ := hcall modrm (by rw [hrun])
    have hdecode : (decodeModrmAddress instruction instruction.nextAddress modrm : Exec σ _) =
        readI32 (instruction.nextAddress + 1) >>= fun displacement =>
          pure (instruction.nextAddress + 5 + displacement32 displacement,
            instruction.nextAddress + 5) := by
      simp [decodeModrmAddress, hmod, hrm, hrex]
    have htarget : (indirectCallTarget instruction modrm : Exec σ _) =
        orInvalidMemory (readI32 (instruction.nextAddress + 1)) >>= fun displacement =>
          orInvalidMemory
            (readU64 (instruction.nextAddress + 5 + displacement32 displacement)) >>= fun target =>
              pure (target, instruction.nextAddress + 5) := by
      simp [indirectCallTarget, hmod, hrm, hrex]
    rw [Attempt.bind_of_some (orInvalidMemory_of_some hrun)]
    dsimp only
    rw [hreg, if_neg (by decide), if_neg (by decide), htarget]
    rcases hword : readI32 (instruction.nextAddress + 1) next with ⟨_ | displacement, behind⟩
    · have hoperand : tryDecodeRmOperand instruction instruction.nextAddress context =
          (none, behind) := by
        rw [tryDecodeRmOperand, Attempt.bind_of_some hrun, hdecode]
        exact Attempt.bind_of_none (Attempt.bind_of_none hword)
      rw [Attempt.bind_of_none (Attempt.bind_of_none (orInvalidMemory_of_none hword)),
        Attempt.bind_of_none (orInvalidMemory_of_none hoperand)]
    · obtain ⟨operand, hoperand, haddress, hbehind⟩ : ∃ operand : DecodedRmOperand,
          tryDecodeRmOperand instruction instruction.nextAddress context =
            (some operand, behind) ∧
          operand.rmAddress = instruction.nextAddress + 5 + displacement32 displacement ∧
          operand.nextInstruction = instruction.nextAddress + 5 := by
        refine ⟨⟨modField modrm, regField modrm, registerIndex (rmField modrm) instruction.rexB,
          modField modrm = 3, _, _⟩, ?_, rfl, rfl⟩
        rw [tryDecodeRmOperand, Attempt.bind_of_some hrun, hdecode, bind_assoc,
          Attempt.bind_of_some hword]
        rfl
      rw [Attempt.bind_of_some (orInvalidMemory_of_some hoperand), haddress, hbehind, bind_assoc,
        Attempt.bind_of_some (orInvalidMemory_of_some hword), bind_assoc]
      rfl

/-- All the copies of the operand decoder are one, whatever the guest, the instruction's prefixes
and the address of the ModRM byte. -/
theorem decodersAgree : DecodersAgree instruction modrmAddress context where
  simd := modrmEnding_eq instruction modrmAddress context
  dataMovement := memoryOperand_ending instruction modrmAddress context
  skipping := trySkipModrmOperand_ending instruction modrmAddress context
  indirectCall := executeX64GroupFf_eq instruction context

end Agreement

end Ringos.Emulator
