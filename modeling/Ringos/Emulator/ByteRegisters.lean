import Ringos.Emulator.ByteFlags

/-!
# Which byte register a field denotes

Without a REX prefix the fields 4 to 7 denote the second bytes of the first four
general registers, with one the lowest bytes of the next four. The decoder keeps
the bits of a REX prefix but not that there was one, and the accessors take the
lowest byte always. For an encoding that has such a field and no REX prefix
there are register contents for which the difference shows.
-/

namespace Ringos.Emulator

open Ringos.Core
open Exec

variable {σ : Type}

section Prefixes

/-- The byte is a REX prefix. -/
def isRex (byte : UInt8) : Bool := byte &&& 0xF0 == 0x40

/-- There is a REX prefix among the prefix bytes of the instruction. -/
def Machine.hasRex (machine : Machine σ) (instruction : DecodedInstruction) : Bool :=
  (List.range (instruction.opcodeAddress - instruction.address).toNat).any fun index =>
    (machine.byteAt (instruction.address + index.toUInt64)).any isRex

/-- The byte register that a field denotes: AH, CH, DH or BH for fields 4 to 7 without a REX
prefix. -/
def denotedByteRegister (hasRex : Bool) (field : RegisterField) : ByteRegister :=
  if hasRex = false ∧ 4 ≤ field.field then .high (field.field - 4).toUInt32
  else lowByteRegister field

/-- The field denotes the lowest byte of its register. -/
def RegisterField.IsLow (hasRex : Bool) (field : RegisterField) : Prop :=
  hasRex = true ∨ field.field < 4

end Prefixes

namespace ByteInstruction

/-- The instruction has no memory operand. -/
def IsRegisterForm : ByteInstruction → Prop
  | compare (.memory _) _ | test (.memory _) _ | moveZeroExtended _ (.memory _) => False
  | _ => True

/-- Every byte register field of the instruction denotes a lowest byte, or nothing depends on it:
a TEST with zero. -/
def UsesLowBytes (hasRex : Bool) : ByteInstruction → Prop
  | or destination source => destination.IsLow hasRex ∧ source.IsLow hasRex
  | compare (.register field) _ => field.IsLow hasRex
  | test (.register field) immediate => field.IsLow hasRex ∨ immediate = 0
  | setCondition destination _ => destination.IsLow hasRex
  | moveZeroExtended _ (.register field) => field.IsLow hasRex
  | _ => True

end ByteInstruction

/-- The context with other general registers. -/
def ExecutionContext.withRegisters (context : ExecutionContext σ)
    (generalRegisters : Vector UInt64 16) : ExecutionContext σ :=
  context.mapMachine fun machine =>
    machine.mapState fun state => { state with generalRegisters := generalRegisters }

/-- The instruction retires and works on the byte registers that its fields denote. -/
def SelectsByteRegisters (callbacks : Callbacks σ) (instruction : DecodedInstruction)
    (start : ExecutionContext σ) : Prop :=
  ∃ outcome next, interpretInstruction callbacks start = (some outcome, next) ∧
    start.machine.afterByte (denotedByteRegister (start.machine.hasRex instruction)) instruction =
      some next.machine

section Registers

variable {start : ExecutionContext σ} {instruction : DecodedInstruction} {form : ByteInstruction}
  {behind : UInt64} (generalRegisters : Vector UInt64 16)

/-- Prefixes and opcodes are read from memory. -/
theorem decodeFrom_withRegisters (fuel : Nat) (instruction : DecodedInstruction) :
    (start.withRegisters generalRegisters).machine.decodeFrom fuel instruction =
      start.machine.decodeFrom fuel instruction := by
  induction fuel generalizing instruction with
  | zero => rfl
  | succ fuel ih =>
    unfold Machine.decodeFrom
    cases instruction.applyPrefix with
    | none => rfl
    | some prefixed => exact congrArg (Option.bind _) (funext fun opcode => ih _)

theorem fetchInstruction_withRegisters :
    (start.withRegisters generalRegisters).machine.fetchInstruction =
      start.machine.fetchInstruction := by
  unfold Machine.fetchInstruction
  exact congrArg (Option.bind _) (funext fun opcode =>
    congrArg (Option.map _) (decodeFrom_withRegisters generalRegisters _ _))

/-- A register field has three bits. -/
theorem rmField_lt (modrm : UInt8) : rmField modrm < 8 := by
  rw [UInt8.lt_iff_toNat_lt, rmField, UInt8.toNat_and]
  exact Nat.lt_succ_of_le Nat.and_le_right

theorem regField_lt (modrm : UInt8) : regField modrm < 8 := by
  rw [UInt8.lt_iff_toNat_lt, regField, UInt8.toNat_and]
  exact Nat.lt_succ_of_le Nat.and_le_right

/-- A register operand is decoded whatever the registers hold. -/
theorem byteRmOperand_withRegisters {modrmAddress : UInt64} {modrm : UInt8} {field : RegisterField}
    (h : start.machine.byteRmOperand instruction modrmAddress modrm =
      some (.register field, behind)) :
    (start.withRegisters generalRegisters).machine.byteRmOperand instruction modrmAddress modrm =
        some (.register field, behind) ∧ field.field < 8 := by
  unfold Machine.byteRmOperand at h ⊢
  split at h
  · next hmod =>
    rw [if_pos hmod]
    cases h
    exact ⟨rfl, rmField_lt modrm⟩
  · obtain ⟨decoded, -, h⟩ := Option.map_eq_some_iff.mp h
    cases h

/-- The fields of an instruction have three bits, and its destination is a register. -/
def ByteInstruction.FieldsFit : ByteInstruction → Prop
  | or destination source => destination.field < 8 ∧ source.field < 8
  | compare (.register field) _ => field.field < 8
  | test (.register field) _ => field.field < 8
  | setCondition destination _ => destination.field < 8
  | moveZeroExtended destination (.register field) => destination < 16 ∧ field.field < 8
  | _ => True

theorem byteImmediateInstruction_withRegisters {operation : UInt8}
    {build : ByteOperand → UInt8 → ByteInstruction}
    (hmemory : ∀ guestAddress immediate, ¬ (build (.memory guestAddress) immediate).IsRegisterForm)
    (hfits : ∀ field : RegisterField, ∀ immediate, field.field < 8 →
      (build (.register field) immediate).FieldsFit)
    (hform : start.machine.byteImmediateInstruction instruction operation build =
      some (form, behind)) (hregister : form.IsRegisterForm) :
    (start.withRegisters generalRegisters).machine.byteImmediateInstruction instruction operation
        build = some (form, behind) ∧ form.FieldsFit := by
  obtain ⟨modrm, hmodrm, hform⟩ := Option.bind_eq_some_iff.mp hform
  obtain ⟨⟨operand, next⟩, hoperand, hform⟩ := Option.bind_eq_some_iff.mp hform
  obtain ⟨immediate, himmediate, hform⟩ := Option.bind_eq_some_iff.mp hform
  split at hform
  · next hoperation =>
    cases hform
    cases operand with
    | memory guestAddress => exact absurd hregister (hmemory guestAddress immediate)
    | register field =>
      obtain ⟨hdecoded, hfield⟩ := byteRmOperand_withRegisters generalRegisters hoperand
      refine ⟨?_, hfits field immediate hfield⟩
      refine (congrArg (Option.bind · _) hmodrm).trans ?_
      refine (congrArg (Option.bind · _) hdecoded).trans ?_
      refine (congrArg (Option.bind · _) himmediate).trans ?_
      exact if_pos hoperation
  · cases hform

/-- An instruction without a memory operand is decoded whatever the registers hold. -/
theorem byteInstruction_withRegisters
    (hform : start.machine.byteInstruction instruction = some (form, behind))
    (hregister : form.IsRegisterForm) :
    (start.withRegisters generalRegisters).machine.byteInstruction instruction =
        some (form, behind) ∧ form.FieldsFit := by
  unfold Machine.byteInstruction at hform ⊢
  split at hform
  · next hopcode =>
    rw [if_pos hopcode]
    obtain ⟨modrm, hmodrm, hmod⟩ := Option.bind_eq_some_iff.mp hform
    split at hmod
    · cases hmod
      exact ⟨hform, rmField_lt modrm, regField_lt modrm⟩
    · cases hmod
  next hor =>
  rw [if_neg hor]
  split at hform
  · next hopcode =>
    rw [if_pos hopcode]
    exact byteImmediateInstruction_withRegisters generalRegisters (fun _ _ h => h)
      (fun _ _ h => h) hform hregister
  next hcompare =>
  rw [if_neg hcompare]
  split at hform
  · next hopcode =>
    rw [if_pos hopcode]
    exact byteImmediateInstruction_withRegisters generalRegisters (fun _ _ h => h)
      (fun _ _ h => h) hform hregister
  next htest =>
  rw [if_neg htest]
  split at hform
  · next hopcode =>
    rw [if_pos hopcode]
    obtain ⟨secondaryOpcode, hsecondary, hform⟩ := Option.bind_eq_some_iff.mp hform
    obtain ⟨modrm, hmodrm, hform⟩ := Option.bind_eq_some_iff.mp hform
    refine (congrArg (fun x => Option.bind x _ = _ ∧ _) hsecondary).mpr ?_
    refine (congrArg (fun x => Option.bind x _ = _ ∧ _) hmodrm).mpr ?_
    split at hform
    · next hset =>
      split at hform
      · next hmod =>
        cases hform
        exact ⟨(if_pos hset).trans (if_pos hmod), rmField_lt modrm⟩
      · cases hform
    next hset =>
    split at hform
    · next hmove =>
      obtain ⟨⟨operand, next⟩, hoperand, hform⟩ := Option.map_eq_some_iff.mp hform
      cases hform
      cases operand with
      | memory guestAddress => exact absurd hregister id
      | register field =>
        obtain ⟨hdecoded, hfield⟩ := byteRmOperand_withRegisters generalRegisters hoperand
        refine ⟨(if_neg hset).trans ((if_pos hmove).trans ?_), regIndex_lt modrm _, hfield⟩
        exact congrArg (Option.map _) hdecoded
    · cases hform
  · cases hform

end Registers

section Selection

variable {callbacks : Callbacks σ} {start : ExecutionContext σ} {instruction : DecodedInstruction}
  {form : ByteInstruction} {behind : UInt64}

/-- An instruction without a memory operand retires; it works on the byte registers that its fields
denote exactly if these leave what the lowest bytes leave. -/
theorem selectsByteRegisters_iff (hbytes : start.machine.memory.bytes ≠ 0)
    (hfetch : start.machine.fetchInstruction = some instruction)
    (hbyte : start.machine.IsByte instruction)
    (hform : start.machine.byteInstruction instruction = some (form, behind))
    (hregister : form.IsRegisterForm) :
    SelectsByteRegisters callbacks instruction start ↔
      (form.perform (denotedByteRegister (start.machine.hasRex instruction)) start.machine).map
          (fun next => next.jumpTo behind) =
        (form.perform lowByteRegister start.machine).map fun next => next.jumpTo behind := by
  obtain ⟨after, hafter⟩ : ∃ after, form.perform lowByteRegister start.machine = some after := by
    cases form with
    | or _ _ => exact ⟨_, rfl⟩
    | setCondition _ _ => exact ⟨_, rfl⟩
    | compare operand _ => cases operand with
      | register _ => exact ⟨_, rfl⟩
      | memory _ => exact hregister.elim
    | test operand _ => cases operand with
      | register _ => exact ⟨_, rfl⟩
      | memory _ => exact hregister.elim
    | moveZeroExtended _ operand => cases operand with
      | register _ => exact ⟨_, rfl⟩
      | memory _ => exact hregister.elim
  have hlow : start.machine.afterByte lowByteRegister instruction =
      some (after.jumpTo behind) := by
    rw [Machine.afterByte, hform, Option.bind_some, hafter]
    rfl
  have hstep := interpretInstruction_byte callbacks hbytes hfetch hbyte
  rw [hlow, eq_false (Option.some_ne_none _)] at hstep
  obtain ⟨outcome, next, hrun, hnext⟩ := hstep.returns
  rw [Option.some.injEq] at hnext
  unfold SelectsByteRegisters
  rw [Machine.afterByte, hform, Option.bind_some, hafter, Option.map_some, hnext]
  constructor
  · rintro ⟨_, _, hrun', hselected⟩
    rw [hrun] at hrun'
    cases hrun'
    exact hselected
  · exact fun hselected => ⟨outcome, next, hrun, hselected⟩

/-- A field that denotes a lowest byte denotes the one that the accessors use. -/
theorem denotedByteRegister_of_isLow {hasRex : Bool} {field : RegisterField}
    (h : field.IsLow hasRex) : denotedByteRegister hasRex field = lowByteRegister field := by
  unfold denotedByteRegister
  refine if_neg fun hhigh => ?_
  rcases h with hrex | hfield
  · rw [hhigh.1] at hrex
    cases hrex
  · exact absurd hhigh.2 (UInt8.not_le.mpr hfield)

/-- With a REX prefix every field denotes a lowest byte. -/
theorem usesLowBytes_of_rex (form : ByteInstruction) : form.UsesLowBytes true := by
  have hlow (field : RegisterField) : field.IsLow true := .inl rfl
  cases form with
  | or destination source => exact ⟨hlow destination, hlow source⟩
  | setCondition destination _ => exact hlow destination
  | compare operand _ => cases operand with
    | register field => exact hlow field
    | memory _ => trivial
  | test operand _ => cases operand with
    | register field => exact .inl (hlow field)
    | memory _ => trivial
  | moveZeroExtended _ operand => cases operand with
    | register field => exact hlow field
    | memory _ => trivial

/-- An instruction whose fields denote lowest bytes works on them. -/
theorem perform_denoted {hasRex : Bool} (machine : Machine σ) (h : form.UsesLowBytes hasRex)
    (hregister : form.IsRegisterForm) :
    form.perform (denotedByteRegister hasRex) machine = form.perform lowByteRegister machine := by
  cases form with
  | or destination source =>
    simp only [ByteInstruction.perform, denotedByteRegister_of_isLow h.1,
      denotedByteRegister_of_isLow h.2]
  | compare operand immediate =>
    cases operand with
    | register field =>
      simp only [ByteInstruction.perform, Machine.byteOperand, denotedByteRegister_of_isLow h]
    | memory _ => exact hregister.elim
  | test operand immediate =>
    cases operand with
    | register field =>
      rcases h with h | rfl
      · simp only [ByteInstruction.perform, Machine.byteOperand, denotedByteRegister_of_isLow h]
      · simp only [ByteInstruction.perform, Machine.byteOperand, UInt8.and_zero, Option.map_some]
    | memory _ => exact hregister.elim
  | setCondition destination whenZero =>
    simp only [ByteInstruction.perform, denotedByteRegister_of_isLow h]
  | moveZeroExtended destination operand =>
    cases operand with
    | register field =>
      simp only [ByteInstruction.perform, Machine.byteOperand, denotedByteRegister_of_isLow h]
    | memory _ => exact hregister.elim

end Selection

section Probes

/-- Registers whose lowest bytes hold a value where a field from 4 to 7 selects them, and that are
zero otherwise. -/
def probeRegisters (value : UInt8) : Vector UInt64 16 :=
  Vector.ofFn fun index => if index.val % 8 < 4 then 0 else value.toUInt64

variable {start : ExecutionContext σ} (value : UInt8)

/-- A probed register. -/
theorem register_probe (index : UInt32) :
    (start.withRegisters (probeRegisters value)).machine.register index =
      if index.toNat < 16 ∧ 4 ≤ index.toNat % 8 then value.toUInt64 else 0 := by
  change (probeRegisters value)[index.toNat]?.getD 0 = _
  by_cases hindex : index.toNat < 16
  · rw [Vector.getElem?_eq_getElem hindex, Option.getD_some, probeRegisters, Vector.getElem_ofFn]
    by_cases hlow : index.toNat % 8 < 4
    · rw [if_pos hlow, if_neg (by omega)]
    · rw [if_neg hlow, if_pos (by omega)]
  · rw [Vector.getElem?_eq_none (Nat.not_lt.mp hindex), Option.getD_none, if_neg (by omega)]

/-- The second bytes are zero. -/
theorem byteRegister_probe_high (index : UInt32) :
    (start.withRegisters (probeRegisters value)).machine.byteRegister (.high index) = 0 := by
  have hvalue := value.toNat_lt
  apply UInt8.toNat_inj.mp
  change (((start.withRegisters (probeRegisters value)).machine.register
    index).toBitVec.extractLsb' 8 8).toNat = 0
  rw [BitVec.extractLsb'_toNat, register_probe, Nat.shiftRight_eq_div_pow]
  split
  · rw [UInt64.toNat_toBitVec, UInt8.toNat_toUInt64, Nat.div_eq_of_lt hvalue]
  · rfl

/-- The lowest byte that a field selects. -/
theorem byteRegister_probe_low {field : RegisterField} (hfield : field.field < 8) :
    (start.withRegisters (probeRegisters value)).machine.byteRegister (lowByteRegister field) =
      if field.field < 4 then 0 else value := by
  have hvalue := value.toNat_lt
  rw [UInt8.lt_iff_toNat_lt] at hfield
  change field.field.toNat < 8 at hfield
  have hindex : (registerIndex field.field field.rex).toNat =
      field.field.toNat + if field.rex then 8 else 0 := by
    unfold registerIndex
    rw [UInt32.toNat_add, UInt8.toNat_toUInt32]
    cases field.rex
    · exact Nat.mod_eq_of_lt (show field.field.toNat + 0 < 2 ^ 32 by omega)
    · exact Nat.mod_eq_of_lt (show field.field.toNat + 8 < 2 ^ 32 by omega)
  apply UInt8.toNat_inj.mp
  change (((start.withRegisters (probeRegisters value)).machine.register
    (registerIndex field.field field.rex)).toBitVec.extractLsb' 0 8).toNat = _
  rw [BitVec.extractLsb'_toNat, register_probe, Nat.shiftRight_zero, hindex]
  by_cases hlow : field.field < 4
  · have hnat := UInt8.lt_iff_toNat_lt.mp hlow
    change field.field.toNat < 4 at hnat
    rw [if_pos hlow, if_neg (by split <;> omega)]
    rfl
  · have hnat := UInt8.le_iff_toNat_le.mp (UInt8.not_lt.mp hlow)
    change 4 ≤ field.field.toNat at hnat
    rw [if_neg hlow, if_pos (by split <;> omega), UInt64.toNat_toBitVec, UInt8.toNat_toUInt64,
      Nat.mod_eq_of_lt hvalue]

/-- Without a REX prefix every field denotes a byte register that holds zero. -/
theorem byteRegister_probe_denoted {field : RegisterField} (hfield : field.field < 8) :
    (start.withRegisters (probeRegisters value)).machine.byteRegister
      (denotedByteRegister false field) = 0 := by
  unfold denotedByteRegister
  split
  · exact byteRegister_probe_high value _
  · next hlow =>
    rw [byteRegister_probe_low value hfield, if_pos]
    simpa using hlow

/-- A lowest byte that no field denotes holds the value. -/
theorem byteRegister_probe_not_isLow {hasRex : Bool} {field : RegisterField}
    (hfield : field.field < 8) (hhigh : ¬ field.IsLow hasRex) :
    (start.withRegisters (probeRegisters value)).machine.byteRegister (lowByteRegister field) =
      value := by
  rw [byteRegister_probe_low value hfield, if_neg fun hlow => hhigh (.inr hlow)]

/-- A value by which a byte can be told from zero when it is compared with an immediate. -/
def probeValue (immediate : UInt8) : UInt8 := if immediate = 0 then 1 else immediate

/-- A second byte belongs to one of the first four registers. -/
theorem highIndex_lt {field : UInt8} (hlow : ¬ field < 4) (hfield : field < 8) :
    (field - 4).toUInt32 < 16 := by
  have hle := UInt8.not_lt.mp hlow
  rw [UInt8.lt_iff_toNat_lt] at hfield
  change field.toNat < 8 at hfield
  rw [UInt32.lt_iff_toNat_lt, UInt8.toNat_toUInt32, UInt8.toNat_sub_of_le _ _ hle]
  change field.toNat - 4 < 16
  omega

/-- The zero flag says whether the byte is zero. -/
theorem toBitVec_beq_zero (value : UInt8) : (value.toBitVec == 0#8) = (value == 0) := by
  rw [Bool.eq_iff_iff, beq_iff_eq, beq_iff_eq, ← UInt8.toBitVec_inj]
  rfl

/-- Machines that something can tell apart still differ behind the instruction. -/
theorem some_jumpTo_ne {β : Type} (observe : Machine σ → β) {next other : Machine σ}
    {behind : UInt64} (hjump : ∀ machine, observe (machine.jumpTo behind) = observe machine)
    (h : observe next ≠ observe other) : some (next.jumpTo behind) ≠ some (other.jumpTo behind) := by
  intro hsame
  refine h ?_
  rw [← hjump next, ← hjump other, Option.some.inj hsame]

/-- For an instruction with a field that denotes a second byte there are register contents with
which the lowest bytes leave something else. -/
theorem exists_probe (start : ExecutionContext σ) {form : ByteInstruction} (hfits : form.FieldsFit)
    (hhigh : ¬ form.UsesLowBytes false) :
    ∃ value, ∀ behind : UInt64,
      let machine := (start.withRegisters (probeRegisters value)).machine
      (form.perform (denotedByteRegister false) machine).map (fun next => next.jumpTo behind) ≠
        (form.perform lowByteRegister machine).map fun next => next.jumpTo behind := by
  cases form with
  | or destination source =>
    obtain ⟨hdestination, hsource⟩ := hfits
    refine ⟨1, fun behind => some_jumpTo_ne
      (fun machine => (statusFlags machine.state.flags).zero) (fun _ => rfl) ?_⟩
    have hone : (start.withRegisters (probeRegisters 1)).machine.byteRegister
          (lowByteRegister destination) |||
        (start.withRegisters (probeRegisters 1)).machine.byteRegister (lowByteRegister source) =
          1 := by
      by_cases hlow : destination.IsLow false
      · rw [byteRegister_probe_not_isLow 1 hsource fun h => hhigh ⟨hlow, h⟩,
          byteRegister_probe_low 1 hdestination]
        split <;> rfl
      · rw [byteRegister_probe_not_isLow 1 hdestination hlow, byteRegister_probe_low 1 hsource]
        split <;> rfl
    change (statusFlags (logicFlags _ _ false)).zero ≠ (statusFlags (logicFlags _ _ false)).zero
    rw [byteRegister_probe_denoted 1 hdestination, byteRegister_probe_denoted 1 hsource, hone,
      statusFlags_logicByte, statusFlags_logicByte]
    decide
  | compare operand immediate =>
    cases operand with
    | memory _ => exact (hhigh trivial).elim
    | register field =>
      refine ⟨probeValue immediate, fun behind => some_jumpTo_ne
      (fun machine => (statusFlags machine.state.flags).zero) (fun _ => rfl) ?_⟩
      change (statusFlags (compareFlags _ _ _ _ false)).zero ≠
        (statusFlags (compareFlags _ _ _ _ false)).zero
      rw [byteRegister_probe_denoted _ hfits, byteRegister_probe_not_isLow _ hfits hhigh,
        statusFlags_compareByte, statusFlags_compareByte]
      simp only [← UInt8.toBitVec_sub, toBitVec_beq_zero]
      unfold probeValue
      split
      · next hzero => rw [hzero]; decide
      · next hzero =>
        simp [hzero]
  | test operand immediate =>
    cases operand with
    | memory _ => exact (hhigh trivial).elim
    | register field =>
      rw [ByteInstruction.UsesLowBytes, not_or] at hhigh
      refine ⟨immediate, fun behind => some_jumpTo_ne
      (fun machine => (statusFlags machine.state.flags).zero) (fun _ => rfl) ?_⟩
      change (statusFlags (logicFlags _ _ false)).zero ≠ (statusFlags (logicFlags _ _ false)).zero
      rw [byteRegister_probe_denoted _ hfits, byteRegister_probe_not_isLow _ hfits hhigh.1,
        statusFlags_logicByte, statusFlags_logicByte, UInt8.and_self, UInt8.zero_and]
      simp [toBitVec_beq_zero, hhigh.2]
  | setCondition destination whenZero =>
    refine ⟨2, fun behind => some_jumpTo_ne
      (fun machine => machine.byteRegister (lowByteRegister destination)) (fun _ => rfl) ?_⟩
    have hfield : ¬ destination.field < 4 := fun h => hhigh (.inr h)
    have hdenoted : denotedByteRegister false destination =
        .high (destination.field - 4).toUInt32 :=
      if_pos ⟨rfl, UInt8.not_lt.mp hfield⟩
    change (Machine.setByteRegister _ _ _).byteRegister _ ≠
      (Machine.setByteRegister _ _ _).byteRegister _
    rw [hdenoted, Machine.byteRegister_setByteRegister _ (lowByteRegister destination)
        (registerIndex_lt destination.rex (UInt8.lt_iff_toNat_lt.mp hfits)),
      Machine.byteRegister_setByteRegister_ne _ ?_ (by simp [lowByteRegister]),
      byteRegister_probe_not_isLow _ hfits hhigh]
    · split <;> decide
    · exact highIndex_lt hfield hfits
  | moveZeroExtended destination operand =>
    cases operand with
    | memory _ => exact (hhigh trivial).elim
    | register field =>
      refine ⟨1, fun behind => some_jumpTo_ne
        (fun machine => machine.register destination) (fun _ => rfl) ?_⟩
      change (Machine.setRegister _ _ _).register _ ≠ (Machine.setRegister _ _ _).register _
      rw [Machine.register_setRegister _ hfits.1, Machine.register_setRegister _ hfits.1,
        byteRegister_probe_denoted _ hfits.2, byteRegister_probe_not_isLow _ hfits.2 hhigh]
      decide

end Probes

section Main

variable {callbacks : Callbacks σ} {start : ExecutionContext σ} {instruction : DecodedInstruction}
  {form : ByteInstruction} {behind : UInt64}

/-- A byte instruction with a register operand works on the byte registers that its fields denote,
whatever the registers hold, exactly if it has a REX prefix, or no field from 4 to 7, or is a TEST
with zero. -/
theorem byteRegisters_iff (hbytes : start.machine.memory.bytes ≠ 0)
    (hfetch : start.machine.fetchInstruction = some instruction)
    (hbyte : start.machine.IsByte instruction)
    (hform : start.machine.byteInstruction instruction = some (form, behind))
    (hregister : form.IsRegisterForm) :
    (∀ generalRegisters,
        SelectsByteRegisters callbacks instruction (start.withRegisters generalRegisters)) ↔
      form.UsesLowBytes (start.machine.hasRex instruction) := by
  have hselects (generalRegisters : Vector UInt64 16) :
      SelectsByteRegisters callbacks instruction (start.withRegisters generalRegisters) ↔ _ :=
    selectsByteRegisters_iff hbytes ((fetchInstruction_withRegisters generalRegisters).trans hfetch)
      hbyte (byteInstruction_withRegisters generalRegisters hform hregister).1 hregister
  constructor
  · intro hall
    by_contra hhigh
    cases hrex : start.machine.hasRex instruction with
    | true =>
      rw [hrex] at hhigh
      exact hhigh (usesLowBytes_of_rex form)
    | false =>
      rw [hrex] at hhigh
      obtain ⟨value, hprobe⟩ := exists_probe start
        (byteInstruction_withRegisters start.machine.state.generalRegisters hform hregister).2 hhigh
      have hsame := (hselects (probeRegisters value)).mp (hall _)
      refine hprobe behind ?_
      have hprefixed : (start.withRegisters (probeRegisters value)).machine.hasRex instruction =
        false := hrex
      rw [hprefixed] at hsame
      exact hsame
  · intro hlow generalRegisters
    exact (hselects generalRegisters).mpr (congrArg _ (perform_denoted _ hlow hregister))

end Main

/-- `or spl, bpl`: without its REX prefix these are the fields of AH and CH. -/
def orLowBytesSample : ExecutionContext Unit := .start (sampleMachine [0x40, 0x08, 0xEC] 0x1010)

/-- The decoded instruction. -/
def orLowBytesDecoded : DecodedInstruction :=
  { DecodedInstruction.initial 0x1000 with
    opcode := 0x08, opcodeAddress := 0x1001, nextAddress := 0x1002 }

theorem orLowBytesSample_selects :
    (∀ generalRegisters, SelectsByteRegisters exitingCallbacks orLowBytesDecoded
        (orLowBytesSample.withRegisters generalRegisters)) ↔
      (ByteInstruction.or ⟨4, false⟩ ⟨5, false⟩).UsesLowBytes
        (orLowBytesSample.machine.hasRex orLowBytesDecoded) := by
  have hfetch : orLowBytesSample.machine.fetchInstruction = some orLowBytesDecoded := by
    decide +kernel
  have hform : orLowBytesSample.machine.byteInstruction orLowBytesDecoded =
      some (.or ⟨4, false⟩ ⟨5, false⟩, 0x1003) := by
    decide +kernel
  exact byteRegisters_iff (by decide) hfetch (.inl rfl) hform trivial

/-- `sete ah` with the zero flag clear. -/
def setHighByteSample : ExecutionContext Unit := .start (sampleMachine [0x0F, 0x94, 0xC4] 0x1010)

/-- The decoded instruction. -/
def setHighByteDecoded : DecodedInstruction :=
  { DecodedInstruction.initial 0x1000 with opcode := 0x0F, nextAddress := 0x1001 }

/-- The lowest byte of RSP is cleared instead of AH. -/
theorem setHighByteSample_clears_spl :
    setHighByteSample.machine.fetchInstruction = some setHighByteDecoded ∧
      setHighByteSample.machine.byteInstruction setHighByteDecoded =
        some (.setCondition ⟨4, false⟩ true, 0x1003) ∧
      setHighByteSample.machine.hasRex setHighByteDecoded = false ∧
      ¬ SelectsByteRegisters exitingCallbacks setHighByteDecoded setHighByteSample := by
  refine ⟨by decide +kernel, by decide +kernel, by decide +kernel, ?_⟩
  rintro ⟨outcome, next, hrun, hselected⟩
  have hleft : (interpretInstruction exitingCallbacks setHighByteSample).2.machine.register rsp =
      0x1000 := by
    decide +kernel
  have hdenoted : (setHighByteSample.machine.afterByte (denotedByteRegister
      (setHighByteSample.machine.hasRex setHighByteDecoded)) setHighByteDecoded).map
        (fun machine => machine.register rsp) = some 0x1010 := by
    decide +kernel
  rw [hrun] at hleft
  rw [hselected, Option.map_some, hleft] at hdenoted
  exact absurd hdenoted (by decide)

end Ringos.Emulator
