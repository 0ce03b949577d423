import Ringos.Emulator.IntegerHandlers
import Ringos.Emulator.SizedHandlers

/-!
# When operand size prefixes are honoured

The handlers do not look at the operand size prefix and `nop` does not look at
REX.B. An instruction with such a prefix therefore does what its operation
demands exactly if the 32-bit operation happens to do the same.
-/

namespace Ringos.Emulator

open Ringos.Core
open Exec

variable {σ : Type}

section Truncation

/-- The lowest bits of a difference. -/
theorem setWidth_sub_of_le {v w : Nat} (x y : BitVec w) (h : v ≤ w) :
    (x - y).setWidth v = x.setWidth v - y.setWidth v := by
  rw [BitVec.sub_eq_add_neg, BitVec.setWidth_add _ _ h, BitVec.setWidth_neg_of_le h,
    BitVec.sub_eq_add_neg]

/-- The lowest bits of the result of an operation are the result on the lowest bits. -/
theorem BinaryOperation.result_setWidth (operation : BinaryOperation) (x y : BitVec 32) :
    (operation.result x y).setWidth 16 =
      operation.result (x.setWidth 16) (y.setWidth 16) := by
  cases operation with
  | add => exact BitVec.setWidth_add x y (by decide)
  | sub => exact setWidth_sub_of_le x y (by decide)
  | cmp => exact setWidth_sub_of_le x y (by decide)
  | or => exact BitVec.setWidth_or
  | xor => exact BitVec.setWidth_xor
  | test => exact BitVec.setWidth_and

theorem UnaryOperation.result_setWidth (operation : UnaryOperation) (x : BitVec 32) :
    (operation.result x).setWidth 16 = operation.result (x.setWidth 16) := by
  cases operation with
  | neg => exact BitVec.setWidth_neg_of_le (by decide)
  | inc => exact BitVec.setWidth_add x 1#32 (by decide)
  | dec => exact setWidth_sub_of_le x 1#32 (by decide)

theorem ofInt_setWidth (value : Int) :
    (BitVec.ofInt 32 value).setWidth 16 = BitVec.ofInt 16 value := by
  apply BitVec.eq_of_toNat_eq
  rw [BitVec.toNat_setWidth, BitVec.toNat_ofInt, BitVec.toNat_ofInt]
  omega

end Truncation

section Integers

variable {machine next : Machine σ} {behind : UInt64}

/-- A zero-extended value is the register with its lowest 16 bits replaced. -/
theorem zeroExtended_eq_iff (index : UInt32) (value : BitVec 32) :
    @zeroExtended false value =
        ⟨replacePart (machine.register index).toBitVec 0 (value.setWidth 16)⟩ ↔
      machine.KeepsUpper value (.register index) := by
  have htruncated : (value.setWidth 64).setWidth 16 = value.setWidth 16 :=
    BitVec.setWidth_setWidth_of_le value (by decide)
  rw [Machine.KeepsUpper, ← eq_replacePart_iff, htruncated, zeroExtended, ← UInt64.toBitVec_inj]

/-- The machine a 32-bit effect leaves is the one its 16-bit counterpart leaves exactly if the
upper bits agree and the flags do. -/
theorem left_iff {effect : Effect false} {halfword : HalfwordEffect}
    (hleft : effect.Left machine behind next)
    (hregister : ∀ place value, effect.written = some (place, value) → ¬ place.InMemory)
    (hwritten : halfword.written = effect.written.map fun written =>
      (written.1, BitVec.setWidth 16 written.2)) :
    (∃ flags, statusFlags flags = halfword.status.getD (statusFlags machine.state.flags) ∧
        next = ((halfword.leaves machine).setFlags flags).jumpTo behind) ↔
      (∀ place value, effect.written = some (place, value) → machine.KeepsUpper value place) ∧
        effect.status.getD (statusFlags machine.state.flags) =
          halfword.status.getD (statusFlags machine.state.flags) := by
  obtain ⟨hholds, flags, hflags, rfl⟩ := hleft
  obtain ⟨written, status⟩ := effect
  obtain ⟨_, halfwordStatus⟩ := halfword
  subst hwritten
  rcases written with _ | ⟨index | guestAddress, value⟩
  · constructor
    · rintro ⟨others, hothers, heq⟩
      have hsame : flags = others := congrArg (fun machine => machine.state.flags) heq
      exact ⟨by simp, by rw [← hflags, hsame, hothers]⟩
    · rintro ⟨-, hstatus⟩
      exact ⟨flags, hflags.trans hstatus, rfl⟩
  · have hindex : index < 16 := hholds _ _ rfl
    constructor
    · rintro ⟨others, hothers, heq⟩
      have hsame : flags = others := congrArg (fun machine => machine.state.flags) heq
      have hvalue : @zeroExtended false value =
          ⟨replacePart (machine.register index).toBitVec 0 (value.setWidth 16)⟩ := by
        rw [← machine.register_setRegister hindex (zeroExtended value)]
        exact (congrArg (fun machine => machine.register index) heq).trans
          (machine.register_setRegister hindex _)
      refine ⟨?_, by rw [← hflags, hsame, hothers]⟩
      intro place written h
      cases h
      exact (zeroExtended_eq_iff index value).mp hvalue
    · rintro ⟨hkeeps, hstatus⟩
      refine ⟨flags, hflags.trans hstatus, ?_⟩
      have hvalue := (zeroExtended_eq_iff index value).mpr (hkeeps _ _ rfl)
      show ((machine.setRegister index (zeroExtended value)).setFlags flags).jumpTo behind = _
      rw [hvalue]
      rfl
  · exact absurd trivial (hregister _ _ rfl)

variable {integer : IntegerInstruction} {effect : Effect false}

/-- The value of a place that is a register. -/
theorem valueAt_register {place : Place} (hplace : ¬ place.InMemory) :
    machine.valueAt false place = some (machine.lowOperand place) ∧
      machine.halfwordAt place = some ((machine.lowOperand place).setWidth 16) := by
  cases place with
  | register index =>
    refine ⟨rfl, ?_⟩
    rw [Machine.halfwordAt, Machine.lowOperand, BitVec.setWidth_setWidth_of_le _ (by decide)]
  | memory guestAddress => exact absurd trivial hplace

theorem sourceValue_register {source : Source} (hsource : ¬ source.InMemory) :
    machine.sourceValue false source = some (machine.lowSource source) ∧
      machine.halfwordSource source = some ((machine.lowSource source).setWidth 16) := by
  cases source with
  | place place => exact valueAt_register hsource
  | immediate value =>
    refine ⟨rfl, ?_⟩
    rw [Machine.halfwordSource, Machine.lowSource, ofInt_setWidth]

/-- An integer instruction without operands in guest memory has been performed on 16 bits exactly
if the 32-bit operation coincides. -/
theorem performed_iff (hmemory : ¬ integer.UsesMemory)
    (heffect : integer.effect false machine = some effect)
    (hleft : effect.Left machine behind next) :
    integer.PerformedAt machine behind next .bits16 ↔ integer.Coincides machine := by
  -- the 16-bit effect writes the lowest bits of what the 32-bit effect writes
  have hperformed {halfword : HalfwordEffect} (hregister : ∀ place value,
        effect.written = some (place, value) → ¬ place.InMemory)
      (hhalfword : integer.halfwordEffect machine = some halfword)
      (hwritten : halfword.written = effect.written.map fun written =>
        (written.1, BitVec.setWidth 16 written.2)) :
      integer.PerformedAt machine behind next .bits16 ↔
        (∀ place value, effect.written = some (place, value) → machine.KeepsUpper value place) ∧
          effect.status.getD (statusFlags machine.state.flags) =
            halfword.status.getD (statusFlags machine.state.flags) := by
    rw [← left_iff hleft hregister hwritten, IntegerInstruction.PerformedAt, hhalfword]
    simp
  cases integer with
  | binary operation destination source =>
    obtain ⟨hdestination, hsource⟩ := not_or.mp hmemory
    obtain ⟨hx, hx16⟩ := @valueAt_register _ machine _ hdestination
    obtain ⟨hy, hy16⟩ := @sourceValue_register _ machine _ hsource
    simp only [IntegerInstruction.effect, hx, hy, Option.bind_eq_bind, Option.bind_some,
      Option.some.injEq] at heffect
    subst heffect
    have hhalfword : (IntegerInstruction.binary operation destination source).halfwordEffect machine =
        some ⟨if operation.writes then some (destination, operation.result
            ((machine.lowOperand destination).setWidth 16) ((machine.lowSource source).setWidth 16))
          else none, some (operation.status
            ((machine.lowOperand destination).setWidth 16) ((machine.lowSource source).setWidth 16))⟩ := by
      simp only [IntegerInstruction.halfwordEffect, hx16, hy16, Option.bind_eq_bind,
        Option.bind_some]
    rw [hperformed ?_ hhalfword ?_, IntegerInstruction.Coincides]
    · cases operation.writes <;> simp [hdestination, hsource]
    · cases operation.writes <;> simp [hdestination]
    · cases operation.writes
      · rfl
      · simp only [if_true, Option.map_some, ← operation.result_setWidth]
  | unary operation destination =>
    obtain ⟨hx, hx16⟩ := @valueAt_register _ machine _ hmemory
    simp only [IntegerInstruction.effect, hx, Option.bind_eq_bind, Option.bind_some,
      Option.some.injEq] at heffect
    subst heffect
    have hhalfword : (IntegerInstruction.unary operation destination).halfwordEffect machine =
        some ⟨some (destination, operation.result ((machine.lowOperand destination).setWidth 16)),
          some (operation.status ((machine.lowOperand destination).setWidth 16)
            (flagSet machine.state.flags rflagsCarry))⟩ := by
      simp only [IntegerInstruction.halfwordEffect, hx16, Option.bind_eq_bind, Option.bind_some]
    have hdestination : ¬ destination.InMemory := hmemory
    rw [hperformed ?_ hhalfword ?_, IntegerInstruction.Coincides]
    · simp [hdestination]
    · rintro place value h
      cases h
      exact hdestination
    · simp only [Option.map_some, ← operation.result_setWidth]
  | move destination source =>
    obtain ⟨hdestination, hsource⟩ := not_or.mp hmemory
    obtain ⟨hy, hy16⟩ := @sourceValue_register _ machine _ hsource
    simp only [IntegerInstruction.effect, hy, Option.bind_eq_bind, Option.bind_some,
      Option.some.injEq] at heffect
    subst heffect
    have hhalfword : (IntegerInstruction.move destination source).halfwordEffect machine =
        some ⟨some (destination, (machine.lowSource source).setWidth 16), none⟩ := by
      simp only [IntegerInstruction.halfwordEffect, hy16, Option.bind_eq_bind, Option.bind_some]
    rw [hperformed ?_ hhalfword rfl, IntegerInstruction.Coincides]
    · simp [hdestination, hsource]
    · rintro place value h
      cases h
      exact hdestination
  | loadAddress destination guestAddress =>
    cases heffect
    have hdestination : ¬ destination.InMemory := hmemory
    rw [hperformed ?_ rfl ?_, IntegerInstruction.Coincides]
    · simp [lowBits, operandBits]
    · rintro place value h
      cases h
      exact hdestination
    · simp [lowBits, operandBits]

end Integers

section Sizes

variable {α : Type} {machine : Machine σ} {instruction : DecodedInstruction}

/-- The operation is a push or a pop. -/
def SizedOperation.OnStack : SizedOperation → Prop
  | .push _ | .pop _ => True
  | _ => False

/-- What the second computation yields where the first one does. -/
def Yields (x y : Except Completion α) : Prop := ∀ a, x = .ok a → y = .ok a

theorem Yields.refl (x : Except Completion α) : Yields x x := fun _ h => h

theorem Yields.bind {β : Type} {x y : Except Completion α} {f g : α → Except Completion β}
    (hx : Yields x y) (hf : ∀ a, Yields (f a) (g a)) : Yields (x >>= f) (y >>= g) := by
  intro b h
  cases hvalue : x with
  | error completion =>
    rw [hvalue] at h
    cases h
  | ok a =>
    rw [hvalue] at h
    rw [hx a hvalue]
    exact hf a b h

/-- The operation, if there is one, does not use the stack and ends at an address. -/
def EndsAt (behind : UInt64) (x : Except Completion (SizedOperation × UInt64)) : Prop :=
  ∀ operation address, x = .ok (operation, address) → address = behind ∧ ¬ operation.OnStack

theorem EndsAt.bind {behind : UInt64} (x : Except Completion α)
    {f : α → Except Completion (SizedOperation × UInt64)} (hf : ∀ a, EndsAt behind (f a)) :
    EndsAt behind (x >>= f) := by
  intro operation address h
  cases hvalue : x with
  | error completion =>
    rw [hvalue] at h
    cases h
  | ok a =>
    rw [hvalue] at h
    exact hf a operation address h

theorem EndsAt.integer (integer : IntegerInstruction) (behind : UInt64) :
    EndsAt behind (.ok (.integer integer, behind)) := by
  intro operation address h
  cases h
  exact ⟨rfl, id⟩

/-- Two bytes lie in the guest region where four do. -/
theorem reachable_yields (place : Place) :
    Yields (machine.reachable .bits32 place) (machine.reachable .bits16 place) := by
  intro a h
  cases place with
  | register index => exact h
  | memory guestAddress =>
    have hcontains : machine.memory.contains guestAddress 2 = true := by
      have hfour : machine.memory.contains guestAddress 4 = true := by
        by_contra hnot
        have hnone : machine.memory.offsetOf guestAddress OperandSize.bits32.bytes = none :=
          if_neg hnot
        rw [Machine.reachable, hnone] at h
        cases h
      simp only [EmulatorMemory.contains, Bool.and_eq_true, Bool.not_eq_true',
        decide_eq_false_iff_not] at hfour ⊢
      exact ⟨hfour.1, fun h => hfour.2 (by omega)⟩
    have hsome : machine.memory.offsetOf guestAddress OperandSize.bits16.bytes =
        some (guestAddress - machine.memory.baseAddress) := if_pos hcontains
    rw [Machine.reachable, hsome]
    rfl

theorem rmForm_yields (build : DecodedRmOperand → UInt8 → IntegerInstruction) :
    Yields (machine.rmForm .bits32 instruction build) (machine.rmForm .bits16 instruction build) :=
  .bind (.refl _) fun _ => .bind (.refl _) fun _ => .bind (reachable_yields _) fun _ => .refl _

theorem registerForm_yields (build : DecodedRmOperand → UInt8 → IntegerInstruction) :
    Yields (machine.registerForm .bits32 instruction build)
      (machine.registerForm .bits16 instruction build) :=
  .bind (.refl _) fun _ => .bind (.refl _) fun _ => rmForm_yields build

/-- How an operation at 32 bits and the one at 16 bits compare: they end at different addresses if
there is a long immediate, they are the same otherwise unless they use the stack, and then both
do. -/
def Compares (opcode : UInt8) (x y : Except Completion (SizedOperation × UInt64)) : Prop :=
  ∀ operation behind, x = .ok (operation, behind) →
    (¬ HasLongImmediate opcode → ¬ operation.OnStack → y = .ok (operation, behind)) ∧
    ∀ other address, y = .ok (other, address) →
      (HasLongImmediate opcode → address ≠ behind) ∧ (operation.OnStack → other.OnStack)

namespace Compares

variable {opcode : UInt8} {x y : Except Completion (SizedOperation × UInt64)}

theorem same (hshort : ¬ HasLongImmediate opcode) (h : Yields x y) : Compares opcode x y := by
  intro operation behind hx
  have hy := h _ hx
  refine ⟨fun _ _ => hy, fun other address hother => ?_⟩
  rw [hy] at hother
  cases hother
  exact ⟨fun hlong => absurd hlong hshort, fun hstack => hstack⟩

theorem long {address : UInt64} (hlong : HasLongImmediate opcode) (hx : EndsAt (address + 4) x)
    (hy : EndsAt (address + 2) y) : Compares opcode x y := by
  intro operation behind hoperation
  obtain ⟨hbehind, hinteger⟩ := hx _ _ hoperation
  refine ⟨fun hshort => absurd hlong hshort, fun other end' hother => ⟨fun _ => ?_, fun h =>
    absurd h hinteger⟩⟩
  rw [hbehind, (hy _ _ hother).1]
  simp

/-- A branch of the opcode table at both sizes. -/
theorem ite {c : Prop} [Decidable c] {x' y' : Except Completion (SizedOperation × UInt64)}
    (hx : c → Compares opcode x x') (hy : ¬ c → Compares opcode y y') :
    Compares opcode (if c then x else y) (if c then x' else y') := by
  split
  · next hc => exact hx hc
  · next hc => exact hy hc

/-- What is done before does not depend on the size. -/
theorem bind (x : Except Completion α) {f g : α → Except Completion (SizedOperation × UInt64)}
    (h : ∀ a, Compares opcode (f a) (g a)) : Compares opcode (x >>= f) (x >>= g) := by
  cases hvalue : x with
  | error completion => exact fun _ _ h => nomatch h
  | ok a => exact h a

/-- Stack operations are that at both sizes. -/
theorem stack (hx : ∀ operation behind, x = .ok (operation, behind) → operation.OnStack)
    (hy : ∀ operation behind, y = .ok (operation, behind) → operation.OnStack)
    (hshort : ¬ HasLongImmediate opcode) : Compares opcode x y := by
  intro operation behind hoperation
  exact ⟨fun _ hnot => absurd (hx _ _ hoperation) hnot, fun other address hother =>
    ⟨fun hlong => absurd hlong hshort, fun _ => hy _ _ hother⟩⟩

end Compares

theorem pushForm_onStack (size : OperandSize) {operation : SizedOperation} {behind : UInt64}
    (h : machine.pushForm size instruction = .ok (operation, behind)) : operation.OnStack := by
  unfold Machine.pushForm at h
  simp only at h
  split at h
  · cases h
  · cases hreach : machine.reachable size.onStack
      (.memory (machine.register rsp - size.onStack.bytes.toUInt64)) with
    | error completion =>
      rw [hreach] at h
      cases h
    | ok a =>
      rw [hreach] at h
      cases h
      trivial

theorem popForm_onStack (size : OperandSize) {operation : SizedOperation} {behind : UInt64}
    (h : machine.popForm size instruction = .ok (operation, behind)) : operation.OnStack := by
  unfold Machine.popForm at h
  cases hreach : machine.reachable size.onStack (.memory (machine.register rsp)) with
  | error completion =>
    rw [hreach] at h
    cases h
  | ok a =>
    rw [hreach] at h
    cases h
    trivial

/-- An operation with an immediate ends behind it. -/
theorem EndsAt.behindImmediate {behind : UInt64} (x : Except Completion Int)
    {f : Int × UInt64 → Except Completion (SizedOperation × UInt64)}
    (hf : ∀ immediate, EndsAt behind (f (immediate, behind))) :
    EndsAt behind ((x >>= fun immediate => Pure.pure (immediate, behind)) >>= f) := by
  cases x with
  | error completion => exact fun _ _ h => nomatch h
  | ok immediate => exact hf immediate

theorem arithmetic_endsAt (operand : DecodedRmOperand) (size : OperandSize) (immediate : Int)
    (behind : UInt64) :
    EndsAt behind (do
      machine.reachable size operand.place
      match arithmeticOperation operand.operation with
      | none => .error .unsupportedInstruction
      | some operation =>
        pure (.integer (.binary operation operand.place (.immediate immediate)), behind)) := by
  refine .bind _ fun _ => ?_
  split
  · exact fun _ _ h => nomatch h
  · exact .integer _ _

/-- The opcodes below the immediate moves have no long immediate. -/
theorem not_hasLongImmediate {opcode : UInt8} (h : opcode ≤ 0x5F) : ¬ HasLongImmediate opcode := by
  rintro (hmem | ⟨hlow, -⟩)
  · simp only [List.mem_cons, List.not_mem_nil, or_false] at hmem
    rcases hmem with rfl | rfl | rfl <;> exact absurd h (by decide)
  · exact absurd (UInt8.le_trans hlow h) (by decide)

/-- The operations of an instruction at 32 and at 16 bits compare. -/
theorem operationAt_compares :
    Compares instruction.opcode (machine.operationAt .bits32 instruction)
      (machine.operationAt .bits16 instruction) := by
  unfold Machine.operationAt
  refine .ite (fun h => .stack (fun _ _ => pushForm_onStack _) (fun _ _ => pushForm_onStack _)
    (not_hasLongImmediate (UInt8.le_trans h.2 (by decide)))) fun _ => ?_
  refine .ite (fun h => .stack (fun _ _ => popForm_onStack _) (fun _ _ => popForm_onStack _)
    (not_hasLongImmediate h.2)) fun _ => ?_
  refine .ite (fun h => .long (.inr h) (.bind _ fun _ => .integer _ _)
    (.bind _ fun _ => .integer _ _)) fun _ => ?_
  refine .ite (fun h => .same (by rw [h]; decide) (.refl _)) fun _ => ?_
  refine .ite (fun h => .long (by rw [h]; decide) (.bind _ fun _ => .integer _ _)
    (.bind _ fun _ => .integer _ _)) fun _ => ?_
  refine .ite (fun h => .bind _ fun operand => .long (by rw [h]; decide)
    (.behindImmediate _ fun _ => arithmetic_endsAt _ _ _ _)
    (.behindImmediate _ fun _ => arithmetic_endsAt _ _ _ _)) fun _ => ?_
  refine .ite (fun h => .same (by rw [h]; decide) (.bind (.refl _) fun _ => .bind (.refl _) fun _ =>
    .bind (reachable_yields _) fun _ => .refl _)) fun _ => ?_
  refine .ite (fun h => .bind _ fun _ => .bind _ fun _ => .bind _ fun _ => .long (by rw [h]; decide)
    (.bind _ fun _ => .bind _ fun _ => .integer _ _)
    (.bind _ fun _ => .bind _ fun _ => .integer _ _)) fun _ => ?_
  refine .ite (fun h => .same (by rw [h]; decide) (.refl _)) fun _ => ?_
  refine .ite (fun h => .same (by rw [h]; decide) (registerForm_yields _)) fun _ => ?_
  refine .ite (fun h => .same (by rw [h]; decide) (registerForm_yields _)) fun _ => ?_
  refine .ite (fun h => .same (by rw [h]; decide) (registerForm_yields _)) fun _ => ?_
  refine .ite (fun h => .same (by rw [h]; decide) (rmForm_yields _)) fun _ => ?_
  refine .ite (fun h => .same (by rw [h]; decide) (rmForm_yields _)) fun _ => ?_
  refine .ite (fun h => .same (by rw [h]; decide) (rmForm_yields _)) fun _ => ?_
  refine .ite (fun h => .same (by rw [h]; decide) (rmForm_yields _)) fun _ => ?_
  refine .ite (fun h => .same (by rw [h]; decide) (.bind (.refl _) fun _ =>
    .bind (.refl _) fun _ => rmForm_yields _)) fun _ => ?_
  exact fun _ _ h => nomatch h

end Sizes

section Exchanges

variable {machine : Machine σ}

/-- Writing back what a register holds changes nothing. -/
theorem setRegister_register (index : UInt32) :
    machine.setRegister index (machine.register index) = machine := by
  have hregisters : machine.state.generalRegisters.setIfInBounds index.toNat
      (machine.register index) = machine.state.generalRegisters := by
    ext i hi
    rw [Vector.getElem_setIfInBounds]
    split
    · next heq =>
      subst heq
      simp [Machine.register, hi]
    · rfl
  rw [Machine.setRegister, Machine.mapState, hregisters]

/-- An exchange changes nothing exactly if what it writes is there already. -/
theorem exchange_eq_iff {index : UInt32} (hindex : index < 16) (size : OperandSize)
    (behind : UInt64) :
    machine.jumpTo behind = (machine.exchange size index).jumpTo behind ↔
      size.merge (machine.register rax) (machine.register index) = machine.register rax ∧
        size.merge (machine.register index) (machine.register rax) = machine.register index := by
  constructor
  · intro h
    have hother : machine.register index =
        size.merge (machine.register index) (machine.register rax) :=
      (congrArg (fun machine => machine.register index) h).trans
        (Machine.register_setRegister _ hindex _)
    refine ⟨?_, hother.symm⟩
    by_cases hsame : rax = index
    · rw [← hsame] at hother ⊢
      exact hother.symm
    · have hfirst : machine.register rax =
          size.merge (machine.register rax) (machine.register index) :=
        (congrArg (fun machine => machine.register rax) h).trans
          ((Machine.register_setRegister_ne _ hsame _).trans
            (Machine.register_setRegister _ (by decide) _))
      exact hfirst.symm
  · rintro ⟨hfirst, hother⟩
    simp only [Machine.exchange]
    rw [hfirst, hother, setRegister_register, setRegister_register]

/-- The exchange of a register with itself, or of two registers, at the sizes. -/
theorem exchange_coincides (index : UInt32) (size : OperandSize) :
    (size.merge (machine.register rax) (machine.register index) = machine.register rax ∧
        size.merge (machine.register index) (machine.register rax) = machine.register index) ↔
      (SizedOperation.exchange index).Coincides machine size := by
  cases size with
  | bits16 =>
    have hmerge (x y : UInt64) : OperandSize.bits16.merge x y = x ↔
        x.toBitVec.setWidth 16 = y.toBitVec.setWidth 16 := by
      rw [OperandSize.merge, ← UInt64.toBitVec_inj,
        replacePart_eq_self_iff _ _ (by decide),
        ← BitVec.setWidth_eq_extractLsb' (show 16 ≤ 64 by decide)]
    rw [hmerge, hmerge, SizedOperation.Coincides]
    exact ⟨fun h => h.1, fun h => ⟨h, h.symm⟩⟩
  | bits32 =>
    have hmerge (x y : UInt64) : OperandSize.bits32.merge x y = x ↔ y.toNat % 2 ^ 32 = x.toNat := by
      rw [OperandSize.merge, ← UInt64.toNat_inj, UInt32.toNat_toUInt64, UInt64.toNat_toUInt32]
    rw [hmerge, hmerge, SizedOperation.Coincides, ← UInt64.toNat_inj, UInt64.lt_iff_toNat_lt]
    change _ ↔ _ ∧ _ < 2 ^ 32
    omega
  | bits64 => exact ⟨fun h => h.2, fun h => ⟨h.symm, h⟩⟩

end Exchanges

section Steps

variable {machine : Machine σ} {instruction : DecodedInstruction}

/-- The opcodes whose operand size the prefixes select. -/
def Machine.IsSized (machine : Machine σ) (instruction : DecodedInstruction) : Prop :=
  0x50 ≤ instruction.opcode ∧ instruction.opcode ≤ 0x5F ∨
    0xB8 ≤ instruction.opcode ∧ instruction.opcode ≤ 0xBF ∨
    instruction.opcode ∈
      [0x31, 0x39, 0x0B, 0x81, 0x83, 0x85, 0x89, 0x8B, 0x8D, 0x90, 0xA9, 0xC7, 0xF7] ∨
    instruction.opcode = 0xFF ∧ ∃ modrm, machine.byteAt instruction.nextAddress = some modrm ∧
      (regField modrm = 0 ∨ regField modrm = 1)

/-- The instruction has an operand size prefix without REX.W, or is opcode `90` with REX.B. -/
def Machine.HasOperandPrefix (machine : Machine σ) (instruction : DecodedInstruction) : Prop :=
  machine.IsSized instruction ∧ instruction.prefix66 = true ∧ instruction.rexW = false ∨
    instruction.opcode = 0x90 ∧ instruction.rexB = true

/-- An opcode between two bounds is one of finitely many. -/
theorem exists_offset {opcode low high : UInt8} (hlow : low ≤ opcode) (hhigh : opcode ≤ high) :
    ∃ index ≤ high.toNat - low.toNat, opcode = UInt8.ofNat (low.toNat + index) := by
  rw [UInt8.le_iff_toNat_le] at hlow hhigh
  refine ⟨opcode.toNat - low.toNat, by omega, ?_⟩
  rw [Nat.add_sub_cancel' hlow, UInt8.ofNat_toNat]

theorem primaryOpcodeHandler_push {opcode : UInt8} (hlow : 0x50 ≤ opcode) (hhigh : opcode ≤ 0x57) :
    (primaryOpcodeHandler opcode : DecodedInstruction → Exec σ InstructionOutcome) =
      executeX64PushRegister := by
  obtain ⟨index, hindex, rfl⟩ := exists_offset hlow hhigh
  change index ≤ 7 at hindex
  interval_cases index <;> rfl

theorem primaryOpcodeHandler_pop {opcode : UInt8} (hlow : 0x58 ≤ opcode) (hhigh : opcode ≤ 0x5F) :
    (primaryOpcodeHandler opcode : DecodedInstruction → Exec σ InstructionOutcome) =
      executeX64PopRegister := by
  obtain ⟨index, hindex, rfl⟩ := exists_offset hlow hhigh
  change index ≤ 7 at hindex
  interval_cases index <;> rfl

/-- Without REX.W every handler carries out the 32-bit operation. -/
theorem primaryOpcodeHandler_follows (hbytes : machine.memory.bytes ≠ 0)
    (hprefixed : machine.HasOperandPrefix instruction) :
    machine.Follows instruction (primaryOpcodeHandler instruction.opcode instruction) := by
  rcases hprefixed with ⟨hsized, -, hrex⟩ | ⟨hopcode, -⟩
  · rcases hsized with ⟨hlow, hhigh⟩ | ⟨hlow, hhigh⟩ | hmem | ⟨hopcode, hfield⟩
    · rcases UInt8.le_or_lt instruction.opcode 0x57 with hpush | hpop
      · rw [primaryOpcodeHandler_push hlow hpush]
        exact executeX64PushRegister_follows hbytes hlow hpush hrex
      · have hpop : 0x58 ≤ instruction.opcode := by
          rw [UInt8.lt_iff_toNat_lt] at hpop
          exact UInt8.le_iff_toNat_le.mpr hpop
        rw [primaryOpcodeHandler_pop hpop hhigh]
        exact executeX64PopRegister_follows hbytes hpop hhigh hrex
    · rw [primaryOpcodeHandler_mov hlow hhigh]
      exact executeX64MovImmediate32_follows hbytes hlow hhigh hrex
    · simp only [List.mem_cons, List.not_mem_nil, or_false] at hmem
      rcases hmem with h | h | h | h | h | h | h | h | h | h | h | h | h <;> rw [h]
      · exact executeX64XorRegister_follows hbytes h hrex
      · exact executeX64CompareRmWithRegister_follows hbytes h hrex
      · exact executeX64OrRmToRegister_follows hbytes h hrex
      · exact executeX64Group81_follows hbytes h hrex
      · exact executeX64Group83_follows hbytes h hrex
      · exact executeX64TestRegister_follows hbytes h hrex
      · exact executeX64MovRegister_follows hbytes (.inl h) hrex
      · exact executeX64MovRegister_follows hbytes (.inr h) hrex
      · exact executeX64Lea_follows hbytes h hrex
      · exact executeX64Nop_follows h
      · exact executeX64TestAccumulatorImmediate_follows hbytes h hrex
      · exact executeX64MovImmediateToRm_follows hbytes h hrex
      · exact executeX64GroupF7_follows hbytes h hrex
    · rw [hopcode]
      exact executeX64GroupFf_follows hbytes hopcode hfield hrex
  · rw [hopcode]
    exact executeX64Nop_follows hopcode

/-- The prefixed opcodes are primary. -/
theorem Machine.HasOperandPrefix.primary (h : machine.HasOperandPrefix instruction) :
    instruction.opcode ≠ 0x0F := by
  intro hopcode
  rcases h with ⟨⟨hlow, -⟩ | ⟨hlow, -⟩ | hmem | ⟨hff, -⟩, -⟩ | ⟨hnop, -⟩
  · rw [hopcode] at hlow
    exact absurd hlow (by decide)
  · rw [hopcode] at hlow
    exact absurd hlow (by decide)
  · rw [hopcode] at hmem
    exact absurd hmem (by decide)
  · rw [hopcode] at hff
    exact absurd hff (by decide)
  · rw [hopcode] at hnop
    exact absurd hnop (by decide)

variable {callbacks : Callbacks σ} {start : ExecutionContext σ}

/-- A step at a prefixed instruction carries out the 32-bit operation. -/
theorem interpretInstruction_follows (hfetch : start.machine.fetchInstruction = some instruction)
    (hbytes : start.machine.memory.bytes ≠ 0)
    (hprefixed : start.machine.HasOperandPrefix instruction) :
    start.machine.Follows instruction (interpretInstruction callbacks) := by
  intro latest
  refine .bind (Denotes.ends (fun _ hstart => hstart ▸ decodeX64Instruction_denotes
    (hstart ▸ hbytes)) (fun decoded last hdecoded => ?_) fun hnone => ?_)
  · obtain rfl : instruction = decoded := Option.some.inj (hfetch.symm.trans hdecoded)
    refine .bind (.bind (setResult_ends ?_))
    rw [if_neg hprefixed.primary]
    refine (primaryOpcodeHandler_follows hbytes hprefixed last).mono (fun outcome next last h => ?_)
      fun _ h => h
    exact .bind (setResult_ends (.pure h))
  · rw [hfetch] at hnone
    cases hnone

/-- A performed operation goes on behind the instruction. -/
theorem performed_instructionPointer {operation : SizedOperation} {size : OperandSize}
    {behind : UInt64} {next : Machine σ} (h : operation.Performed machine size behind next) :
    next.state.instructionPointer = behind := by
  cases operation with
  | integer operation =>
    cases size with
    | bits16 =>
      obtain ⟨effect, flags, -, -, rfl⟩ := h
      rfl
    | bits32 | bits64 =>
      obtain ⟨effect, -, -, flags, -, rfl⟩ := h
      rfl
  | push index => exact congrArg (fun machine => machine.state.instructionPointer) h
  | pop index => exact congrArg (fun machine => machine.state.instructionPointer) h
  | exchange index => exact congrArg (fun machine => machine.state.instructionPointer) h

/-- What the handlers leave is behind the instruction too, but for the stack. -/
theorem carried_instructionPointer {operation : SizedOperation} {behind : UInt64}
    {next : Machine σ} {last : Option Nat} (hstack : ¬ operation.OnStack)
    (h : operation.Carried machine behind next last) :
    next.state.instructionPointer = behind := by
  cases operation with
  | integer operation =>
    obtain ⟨⟨effect, -, -, flags, -, rfl⟩, -⟩ := h
    rfl
  | push index => exact absurd trivial hstack
  | pop index => exact absurd trivial hstack
  | exchange index => exact congrArg (fun machine => machine.state.instructionPointer) h.2

/-- The handlers access eight bytes of the stack. -/
theorem carried_of_onStack {operation : SizedOperation} {behind : UInt64} {next : Machine σ}
    {last : Option Nat} (hstack : operation.OnStack)
    (h : operation.Carried machine behind next last) : last = some 8 := by
  cases operation with
  | integer integer => exact hstack.elim
  | push index => exact h
  | pop index => exact h
  | exchange index => exact hstack.elim

theorem memoryBytes_of_onStack {operation : SizedOperation} (hstack : operation.OnStack) :
    operation.MemoryBytes .bits16 2 := by
  cases operation with
  | integer integer => exact hstack.elim
  | push index => rfl
  | pop index => rfl
  | exchange index => exact hstack.elim

/-- A coinciding operation has no operand in guest memory. -/
theorem not_usesMemory_of_coincides {integer : IntegerInstruction}
    (h : integer.Coincides machine) : ¬ integer.UsesMemory := by
  cases integer with
  | binary operation destination source => exact not_or.mpr ⟨h.1, h.2.1⟩
  | unary operation destination => exact h.1
  | move destination source => exact not_or.mpr ⟨h.1, h.2.1⟩
  | loadAddress destination guestAddress =>
    cases destination with
    | register index => exact id
    | memory address => exact h.elim

/-- What the handlers do at an operation is what the operation demands exactly if the two
coincide. -/
theorem carried_iff {operation : SizedOperation} {behind : UInt64} {next : Machine σ}
    {last : Option Nat} {size : OperandSize} (h : operation.Carried machine behind next last)
    (hsize : size = .bits16 ∨ ∃ index, operation = .exchange index) :
    (operation.Performed machine size behind next ∧
        ∀ count, operation.MemoryBytes size count → ∃ length ≤ count, last = some length) ↔
      operation.Coincides machine size := by
  cases operation with
  | integer integer =>
    obtain rfl : size = .bits16 := hsize.resolve_right fun ⟨index, h⟩ => nomatch h
    obtain ⟨⟨effect, heffect, hleft⟩, hlast⟩ := h
    by_cases hmemory : integer.UsesMemory
    · constructor
      · rintro ⟨-, htouched⟩
        obtain ⟨length, hlength, hsame⟩ := htouched 2 ⟨hmemory, rfl⟩
        rw [hlast hmemory] at hsame
        cases hsame
        exact absurd hlength (by decide)
      · intro hcoincides
        exact absurd hmemory (not_usesMemory_of_coincides hcoincides)
    · rw [SizedOperation.Performed, performed_iff hmemory heffect hleft]
      exact ⟨fun h => h.1, fun h => ⟨h, fun count hcount => absurd hcount.1 hmemory⟩⟩
  | push index =>
    obtain rfl : size = .bits16 := hsize.resolve_right fun ⟨index, h⟩ => nomatch h
    refine iff_of_false (fun ⟨_, htouched⟩ => ?_) id
    obtain ⟨length, hlength, hsame⟩ := htouched 2 rfl
    rw [h] at hsame
    cases hsame
    exact absurd hlength (by decide)
  | pop index =>
    obtain rfl : size = .bits16 := hsize.resolve_right fun ⟨index, h⟩ => nomatch h
    refine iff_of_false (fun ⟨_, htouched⟩ => ?_) id
    obtain ⟨length, hlength, hsame⟩ := htouched 2 rfl
    rw [h] at hsame
    cases hsame
    exact absurd hlength (by decide)
  | exchange index =>
    obtain ⟨hindex, rfl⟩ := h
    rw [← exchange_coincides, ← exchange_eq_iff hindex size behind]
    exact ⟨fun h => h.1, fun h => ⟨h, fun count hcount => hcount.elim⟩⟩

/-- Prefixed instructions have operands of 16 bits, or are exchanges. -/
theorem Machine.HasOperandPrefix.size (h : machine.HasOperandPrefix instruction) :
    Compares instruction.opcode (machine.operationAt .bits32 instruction)
        (machine.operationAt instruction.operandSize instruction) ∧
      ∀ operation behind, machine.operationAt .bits32 instruction = .ok (operation, behind) →
        instruction.operandSize = .bits16 ∨ ∃ index, operation = .exchange index := by
  rcases h with ⟨-, hprefixed, hrex⟩ | ⟨hopcode, -⟩
  · have hsize : instruction.operandSize = .bits16 := by
      simp [DecodedInstruction.operandSize, hrex, hprefixed]
    rw [hsize]
    exact ⟨operationAt_compares, fun _ _ _ => .inl rfl⟩
  · have hform (size : OperandSize) : machine.operationAt size instruction =
        (supported (!instruction.rexW) >>= fun _ =>
          pure (.exchange (if instruction.rexB then 8 else 0), instruction.nextAddress)) := by
      simp only [Machine.operationAt, hopcode]
      rfl
    rw [hform, hform]
    refine ⟨.same (by rw [hopcode]; decide) (.refl _), fun operation behind hoperation => ?_⟩
    cases hrex : instruction.rexW <;> rw [hrex] at hoperation <;> cases hoperation
    exact .inr ⟨_, rfl⟩

/-- An instruction with an operand size prefix, or an exchange, is honoured exactly if the encoding
is not supported, or it faults at both sizes, or the 32-bit operation happens to coincide. -/
theorem operandPrefixes_iff (hfetch : start.machine.fetchInstruction = some instruction)
    (hbytes : start.machine.memory.bytes ≠ 0)
    (hprefixed : start.machine.HasOperandPrefix instruction) :
    start.machine.Honours instruction (interpretInstruction callbacks start) ↔
      start.machine.HonoursWhen instruction := by
  have hran := (@interpretInstruction_follows _ _ callbacks _ hfetch hbytes hprefixed
    (latestAccess start.accesses)).ran
  obtain ⟨hcompares, hsize⟩ := hprefixed.size
  unfold Machine.HonoursWhen
  rcases hrun : interpretInstruction callbacks start with ⟨_ | outcome, next⟩
  · rw [hrun] at hran
    rw [show start.machine.operationAt .bits32 instruction = .error next.result.completion from hran]
    rfl
  rw [hrun] at hran
  obtain ⟨rfl, operation, behind, hoperation, hcarried⟩ := hran
  obtain ⟨hsame, hothers⟩ := hcompares operation behind hoperation
  have hiff := carried_iff hcarried (hsize operation behind hoperation)
  rw [hoperation]
  constructor
  · rintro ⟨-, other, address, hother, hperformed, htouched⟩
    obtain ⟨hlong, hbothStack⟩ := hothers other address hother
    have hstack : ¬ operation.OnStack := by
      intro hstack
      have hsixteen : instruction.operandSize = .bits16 := by
        refine (hsize operation behind hoperation).resolve_right ?_
        rintro ⟨index, rfl⟩
        exact hstack
      rw [hsixteen] at htouched
      obtain ⟨length, hlength, hlast⟩ := htouched 2 (memoryBytes_of_onStack (hbothStack hstack))
      rw [carried_of_onStack hstack hcarried] at hlast
      cases hlast
      exact absurd hlength (by decide)
    have haddress : address = behind :=
      (performed_instructionPointer hperformed).symm.trans
        (carried_instructionPointer hstack hcarried)
    have hshort : ¬ HasLongImmediate instruction.opcode := fun h => hlong h haddress
    have hunique := hother.symm.trans (hsame hshort hstack)
    cases hunique
    exact ⟨hshort, hiff.mp ⟨hperformed, htouched⟩⟩
  · rintro ⟨hshort, hcoincides⟩
    have hstack : ¬ operation.OnStack := by
      cases operation with
      | integer integer => exact id
      | push index => exact hcoincides.elim
      | pop index => exact hcoincides.elim
      | exchange index => exact id
    obtain ⟨hperformed, htouched⟩ := hiff.mpr hcoincides
    exact ⟨rfl, operation, behind, hsame hshort hstack, hperformed, htouched⟩

end Steps

/-- `mov ax, bx` where RAX and RBX are five and nine. -/
def moveHalfwordSample : ExecutionContext Unit :=
  .start (((sampleMachine [0x66, 0x89, 0xD8] 0x1010).setRegister rax 5).setRegister rbx 9)

/-- The decoded instruction. -/
def moveHalfwordDecoded : DecodedInstruction :=
  { DecodedInstruction.initial 0x1000 with
    opcodeAddress := 0x1001, nextAddress := 0x1002, opcode := 0x89, prefix66 := true }

theorem moveHalfwordSample_honours :
    moveHalfwordSample.machine.Honours moveHalfwordDecoded
        (interpretInstruction exitingCallbacks moveHalfwordSample) ↔
      moveHalfwordSample.machine.HonoursWhen moveHalfwordDecoded := by
  have hfetch : moveHalfwordSample.machine.fetchInstruction = some moveHalfwordDecoded := by
    decide +kernel
  exact operandPrefixes_iff hfetch (by decide) (.inl ⟨.inr (.inr (.inl (by decide))), rfl, rfl⟩)

/-- `mov ax, 0x1234` and `ret`. -/
def moveImmediateHalfwordSample : ExecutionContext Unit :=
  .start (sampleMachine [0x66, 0xB8, 0x34, 0x12, 0xC3] 0x1010)

/-- The decoded instruction. -/
def moveImmediateHalfwordDecoded : DecodedInstruction :=
  { DecodedInstruction.initial 0x1000 with
    opcodeAddress := 0x1001, nextAddress := 0x1002, opcode := 0xB8, prefix66 := true }

/-- The move takes four bytes for its immediate: it runs on behind the return, with its opcode in
the register. -/
theorem moveImmediateHalfword_notHonoured :
    moveImmediateHalfwordSample.machine.fetchInstruction = some moveImmediateHalfwordDecoded ∧
      moveImmediateHalfwordSample.machine.HasOperandPrefix moveImmediateHalfwordDecoded ∧
      ¬ moveImmediateHalfwordSample.machine.Honours moveImmediateHalfwordDecoded
        (interpretInstruction exitingCallbacks moveImmediateHalfwordSample) := by
  refine ⟨by decide +kernel, .inl ⟨.inr (.inl (by decide)), rfl, rfl⟩, ?_⟩
  have hbehind : (moveImmediateHalfwordSample.machine.operationAt .bits16
      moveImmediateHalfwordDecoded).map Prod.snd = .ok 0x1004 := by
    decide +kernel
  have hretired : (interpretInstruction exitingCallbacks moveImmediateHalfwordSample).1 =
      some .continueRunning := by
    decide +kernel
  have hnext : (interpretInstruction exitingCallbacks
      moveImmediateHalfwordSample).2.machine.state.instructionPointer = 0x1006 := by
    decide +kernel
  rcases hrun : interpretInstruction exitingCallbacks moveImmediateHalfwordSample with
    ⟨_ | outcome, next⟩
  · rw [hrun] at hretired
    cases hretired
  · rw [hrun] at hnext
    rintro ⟨-, operation, behind, hoperation, hperformed, -⟩
    rw [show moveImmediateHalfwordDecoded.operandSize = .bits16 from rfl] at hoperation
    rw [hoperation] at hbehind
    cases hbehind
    rw [performed_instructionPointer hperformed] at hnext
    exact absurd hnext (by decide)

end Ringos.Emulator
