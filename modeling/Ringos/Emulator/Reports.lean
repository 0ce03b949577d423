import Ringos.Emulator.Attempts

/-!
# Reports of refused accesses

Code that attempts accesses either returns, all of them being in bounds, or
gives up. It gives up because the last of them is refused, which is then on
record with its address, or because it rejects the encoding. Pushes, the
multi-byte `nop` and the prefix loop need more than the rules for structure and
are treated where they are used.
-/

namespace Ringos.Emulator

open Ringos.Core
open Exec

variable {σ α β : Type}

/-- The guest region holds all bytes of an access. -/
def EmulatorMemory.InBounds (memory : EmulatorMemory) (access : GuestAccess) : Prop :=
  (memory.offsetOf access.1 access.2).isSome

/-- All accesses but the last are in bounds, and the record tells where the last one is. -/
def Refusal (memory : EmulatorMemory) (accesses : List GuestAccess) (result : EmulatorResult) :
    Prop :=
  ∃ admitted guestAddress length, accesses = admitted ++ [(guestAddress, length)] ∧
    (∀ access ∈ admitted, memory.InBounds access) ∧ ¬ memory.InBounds (guestAddress, length) ∧
    result.completion = .invalidMemoryAccess ∧ result.guestStopReason = .invalidMemoryAccess ∧
    result.fault.memoryAddress = guestAddress

/-- All accesses are in bounds and the record says that the encoding is unsupported. -/
def Rejection (memory : EmulatorMemory) (accesses : List GuestAccess) (result : EmulatorResult) :
    Prop :=
  (∀ access ∈ accesses, memory.InBounds access) ∧ result.completion = .unsupportedInstruction ∧
    result.guestStopReason = .unsupportedInstruction

/-- The guest region and the instruction the record names are as before. -/
def Steady (start next : ExecutionContext σ) : Prop :=
  next.machine.memory = start.machine.memory ∧
    next.result.fault.instructionPointer = start.result.fault.instructionPointer

/-- How code may end that has attempted some accesses; `rejects` says whether it may reject. -/
def Reported (rejects : Prop) (start : ExecutionContext σ) (accesses : List GuestAccess) :
    Option α × ExecutionContext σ → Prop
  | (some _, next) =>
    Steady start next ∧ ∀ access ∈ accesses, start.machine.memory.InBounds access
  | (none, next) =>
    Steady start next ∧ (Refusal start.machine.memory accesses next.result ∨
      rejects ∧ Rejection start.machine.memory accesses next.result)

/-- What the code reports from a context. -/
def ReportsAt (rejects : Prop) (x : Exec σ α) [Tracked x] (start : ExecutionContext σ) : Prop :=
  Reported rejects start (attempts x start) (x start)

/-- Code that reports refused accesses, from wherever there is a guest region. -/
class Reports (rejects : Prop) (x : Exec σ α) [Tracked x] : Prop where
  reported : ∀ {start}, start.machine.memory.bytes ≠ 0 → ReportsAt rejects x start

section Rules

variable {rejects : Prop} {start next : ExecutionContext σ}

theorem Steady.refl (start : ExecutionContext σ) : Steady start start := ⟨rfl, rfl⟩

theorem Steady.trans {last : ExecutionContext σ} (h : Steady start next)
    (hnext : Steady next last) : Steady start last :=
  ⟨hnext.1.trans h.1, hnext.2.trans h.2⟩

/-- Accesses in bounds before a refused one do not change what is on record. -/
theorem Refusal.append {memory : EmulatorMemory} {front accesses : List GuestAccess}
    {result : EmulatorResult} (hfront : ∀ access ∈ front, memory.InBounds access)
    (h : Refusal memory accesses result) : Refusal memory (front ++ accesses) result := by
  obtain ⟨admitted, guestAddress, length, rfl, hadmitted, hrest⟩ := h
  refine ⟨front ++ admitted, guestAddress, length, by rw [List.append_assoc], ?_, hrest⟩
  intro access hmem
  rcases List.mem_append.mp hmem with h | h
  · exact hfront access h
  · exact hadmitted access h

theorem Rejection.append {memory : EmulatorMemory} {front accesses : List GuestAccess}
    {result : EmulatorResult} (hfront : ∀ access ∈ front, memory.InBounds access)
    (h : Rejection memory accesses result) : Rejection memory (front ++ accesses) result := by
  refine ⟨fun access hmem => ?_, h.2⟩
  rcases List.mem_append.mp hmem with hin | hin
  · exact hfront access hin
  · exact h.1 access hin

/-- A sequence reports what its parts report. -/
theorem ReportsAt.bind {x : Exec σ α} {f : α → Exec σ β} [Tracked x] [∀ a, Tracked (f a)]
    (hx : ReportsAt rejects x start)
    (hf : ∀ a next, x start = (some a, next) → Steady start next → ReportsAt rejects (f a) next) :
    ReportsAt rejects (x >>= f) start := by
  unfold ReportsAt at *
  simp only [attempts, Bind.bind]
  rcases hrun : x start with ⟨_ | a, next⟩
  · rw [hrun] at hx
    simp only [List.append_nil]
    exact hx
  · rw [hrun] at hx
    obtain ⟨hsteady, hfront⟩ := hx
    have hrest := hf a next hrun hsteady
    simp only
    rcases hlast : f a next with ⟨_ | b, last⟩
    · rw [hlast] at hrest
      obtain ⟨hlater, hrefusal | ⟨hrejects, hrejection⟩⟩ := hrest
      · exact ⟨hsteady.trans hlater, .inl ((hsteady.1 ▸ hrefusal).append hfront)⟩
      · exact ⟨hsteady.trans hlater, .inr ⟨hrejects, (hsteady.1 ▸ hrejection).append hfront⟩⟩
    · rw [hlast] at hrest
      obtain ⟨hlater, hin⟩ := hrest
      refine ⟨hsteady.trans hlater, fun access hmem => ?_⟩
      rcases List.mem_append.mp hmem with h | h
      · exact hfront access h
      · exact hsteady.1 ▸ hin access h

namespace Reports

instance pure (a : α) : Reports rejects (Pure.pure a : Exec σ α) where
  reported _ := ⟨.refl _, by simp [attempts]⟩

instance read (f : ExecutionContext σ → α) : Reports rejects (Attempt.read f) where
  reported _ := ⟨.refl _, by simp [attempts]⟩

/-- An update that leaves the guest region and the recorded instruction alone. -/
theorem update {f : ExecutionContext σ → ExecutionContext σ}
    (h : ∀ context, Steady context (f context)) : Reports rejects (Attempt.update f) where
  reported _ := ⟨h _, by simp [attempts]⟩

instance bind (x : Exec σ α) (f : α → Exec σ β) [Tracked x] [∀ a, Tracked (f a)]
    [hx : Reports rejects x] [hf : ∀ a, Reports rejects (f a)] : Reports rejects (x >>= f) where
  reported hbytes := (hx.reported hbytes).bind fun a _ _ hsteady =>
    (hf a).reported (hsteady.1 ▸ hbytes)

/-- A branch may use its test. -/
theorem ite_of {c : Prop} [Decidable c] {x y : Exec σ α} [Tracked x] [Tracked y]
    (hx : c → Reports rejects x) (hy : ¬ c → Reports rejects y) :
    Reports rejects (if c then x else y) where
  reported hbytes := by
    unfold ReportsAt
    simp only [attempts]
    split
    · next hc => exact (hx hc).reported hbytes
    · next hc => exact (hy hc).reported hbytes

instance ite (c : Prop) [Decidable c] (x y : Exec σ α) [Tracked x] [Tracked y]
    [hx : Reports rejects x] [hy : Reports rejects y] : Reports rejects (if c then x else y) :=
  ite_of (fun _ => hx) fun _ => hy

/-- An entry of a handler table. -/
theorem entry {ι : Type} {i : ι} {c : Prop} [Decidable c] {x y : ι → Exec σ α} [Tracked (x i)]
    [Tracked (y i)] (hx : c → ReportsAt rejects (x i) start)
    (hy : ¬ c → ReportsAt rejects (y i) start) :
    ReportsAt rejects ((if c then x else y) i) start := by
  unfold ReportsAt at *
  simp only [attempts]
  split
  · next hc => exact hx hc
  · next hc => exact hy hc

end Reports

end Rules

section Accessors

variable (rejects : Prop)

instance (access : Access) : Reports rejects (Exec.note access : Exec σ Unit) :=
  .update fun _ => ⟨rfl, rfl⟩

/-- A change of the machine that leaves its guest region alone. -/
theorem setMachine_reports {f : Machine σ → Machine σ}
    (h : ∀ machine, (f machine).memory = machine.memory) : Reports rejects (setMachine f) :=
  .update fun context => ⟨h context.machine, rfl⟩

/-- A translation is refused exactly where its access is out of bounds. -/
instance (guestAddress : UInt64) (length : Nat) :
    Reports rejects (translateGuestPointer guestAddress length : Exec σ UInt64) where
  reported {start} hbytes := by
    have hrun : translateGuestPointer guestAddress length start =
        if start.machine.memory.contains guestAddress length then
          (some (guestAddress - start.machine.memory.baseAddress), start)
        else (none, start.mapResult
          (EmulatorResult.setInvalidMemoryAccess guestAddress start.result.fault.opcode)) := by
      show (if start.machine.memory.bytes = 0 then Attempt.fail
        else if start.machine.memory.contains guestAddress length then
          Pure.pure (guestAddress - start.machine.memory.baseAddress)
        else setResult (EmulatorResult.setInvalidMemoryAccess guestAddress
          start.result.fault.opcode) >>= fun _ => Attempt.fail : Exec σ UInt64) start = _
      rw [if_neg hbytes]
      split <;> rfl
    have hin : start.machine.memory.InBounds (guestAddress, length) ↔
        start.machine.memory.contains guestAddress length = true := by
      rw [EmulatorMemory.InBounds, EmulatorMemory.offsetOf]
      split <;> simp [*]
    unfold ReportsAt
    rw [hrun]
    split
    · next hcontains =>
      exact ⟨.refl _, by simpa [attempts] using hin.mpr hcontains⟩
    · next hcontains =>
      exact ⟨⟨rfl, rfl⟩, .inl ⟨[], guestAddress, length, rfl, by simp,
        fun h => hcontains (hin.mp h), rfl, rfl, rfl⟩⟩

instance (guestAddress : UInt64) (length : Nat) :
    Reports rejects (readGuest guestAddress length : Exec σ (List UInt8)) := by
  unfold readGuest
  infer_instance

instance (guestAddress : UInt64) (bytes : List UInt8) :
    Reports rejects (writeGuest guestAddress bytes : Exec σ Unit) :=
  @Reports.bind _ _ _ _ _ _ _ _ inferInstance fun _ =>
    @Reports.bind _ _ _ _ _ _ _ _ inferInstance fun _ => setMachine_reports rejects fun _ => rfl

instance (guestAddress : UInt64) : Reports rejects (readU8 guestAddress : Exec σ UInt8) := by
  unfold readU8
  infer_instance

instance (guestAddress : UInt64) : Reports rejects (readI8 guestAddress : Exec σ Int8) := by
  unfold readI8
  infer_instance

instance (guestAddress : UInt64) : Reports rejects (readU32 guestAddress : Exec σ UInt32) := by
  unfold readU32
  infer_instance

instance (guestAddress : UInt64) : Reports rejects (readI32 guestAddress : Exec σ Int32) := by
  unfold readI32
  infer_instance

instance (guestAddress : UInt64) : Reports rejects (readU64 guestAddress : Exec σ UInt64) := by
  unfold readU64
  infer_instance

instance (guestAddress : UInt64) :
    Reports rejects (readU128 guestAddress : Exec σ SimdRegister) := by
  unfold readU128
  infer_instance

instance (guestAddress : UInt64) (value : UInt32) :
    Reports rejects (writeU32 guestAddress value : Exec σ Unit) := by
  unfold writeU32
  infer_instance

instance (guestAddress value : UInt64) :
    Reports rejects (writeU64 guestAddress value : Exec σ Unit) := by
  unfold writeU64
  infer_instance

instance (guestAddress : UInt64) (value : SimdRegister) :
    Reports rejects (writeU128 guestAddress value : Exec σ Unit) := by
  unfold writeU128
  infer_instance

instance (index : UInt32) : Reports rejects (getRegister64 index : Exec σ UInt64) := by
  unfold getRegister64
  infer_instance

instance (index : UInt32) (value : UInt64) :
    Reports rejects (setRegister64 index value : Exec σ Unit) :=
  @Reports.bind _ _ _ _ _ _ _ _ inferInstance fun _ => setMachine_reports rejects fun _ => rfl

instance (index : UInt32) : Reports rejects (getRegister32 index : Exec σ UInt32) := by
  unfold getRegister32
  infer_instance

instance (index : UInt32) : Reports rejects (getRegister8Low index : Exec σ UInt8) := by
  unfold getRegister8Low
  infer_instance

instance (index : UInt32) (value : UInt8) :
    Reports rejects (setRegister8Low index value : Exec σ Unit) := by
  unfold setRegister8Low
  infer_instance

instance (index value : UInt32) : Reports rejects (setRegister32 index value : Exec σ Unit) := by
  unfold setRegister32
  infer_instance

instance (index : UInt32) : Reports rejects (getSimdRegister index : Exec σ SimdRegister) := by
  unfold getSimdRegister
  infer_instance

instance (index : UInt32) (value : SimdRegister) :
    Reports rejects (setSimdRegister index value : Exec σ Unit) :=
  @Reports.bind _ _ _ _ _ _ _ _ inferInstance fun _ => setMachine_reports rejects fun _ => rfl

instance : Reports rejects (getFlags : Exec σ UInt64) := by
  unfold getFlags
  infer_instance

instance (flags : UInt64) : Reports rejects (Exec.setFlags flags : Exec σ Unit) :=
  setMachine_reports rejects fun _ => rfl

instance (value : UInt64) (is64Bit : Bool) :
    Reports rejects (setLogicFlags value is64Bit : Exec σ Unit) := by
  unfold setLogicFlags
  infer_instance

instance (lhs rhs result : UInt64) (is64Bit : Bool) :
    Reports rejects (setCompareFlags lhs rhs result is64Bit : Exec σ Unit) := by
  unfold setCompareFlags
  infer_instance

instance (lhs rhs result : UInt64) (is64Bit : Bool) :
    Reports rejects (setAddFlags lhs rhs result is64Bit : Exec σ Unit) := by
  unfold setAddFlags
  infer_instance

instance (lhs result : UInt64) (isDecrement is64Bit : Bool) :
    Reports rejects (setIncDecFlags lhs result isDecrement is64Bit : Exec σ Unit) := by
  unfold setIncDecFlags
  infer_instance

instance (instructionPointer : UInt64) :
    Reports rejects (setInstructionPointer instructionPointer : Exec σ Unit) :=
  setMachine_reports rejects fun _ => rfl

instance : Reports rejects (popU64 : Exec σ UInt64) := by
  unfold popU64
  infer_instance

end Accessors

section Decoders

variable (rejects : Prop) (x : Exec σ α) [Tracked x] (instruction : DecodedInstruction)

/-- A refused access has already marked the completion. -/
instance [hx : Reports False x] : Reports rejects (orInvalidMemory x) where
  reported {start} hbytes := by
    have h := hx.reported hbytes
    have hattempts : attempts (orInvalidMemory x) start = attempts x start := rfl
    unfold ReportsAt at *
    rw [hattempts, orInvalidMemory, Attempt.onFailure]
    rcases hrun : x start with ⟨_ | a, next⟩
    · rw [hrun] at h
      obtain ⟨hsteady,
        ⟨admitted, guestAddress, length, haccesses, hin, hout, -, hrest⟩ | hrejects⟩ := h
      · exact ⟨hsteady, .inl ⟨admitted, guestAddress, length, haccesses, hin, hout, rfl, hrest⟩⟩
      · exact hrejects.1.elim
    · rw [hrun] at h
      exact h

instance (faultOpcode : UInt8) [hx : Reports False x] :
    Reports rejects (orUnsupported faultOpcode x) where
  reported {start} hbytes := by
    have h := hx.reported hbytes
    have hattempts : attempts (orUnsupported faultOpcode x) start = attempts x start := rfl
    unfold ReportsAt at *
    rw [hattempts, orUnsupported, Attempt.onFailure]
    rcases hrun : x start with ⟨_ | a, next⟩
    · rw [hrun] at h
      obtain ⟨hsteady, hrefusal | hrejects⟩ := h
      · have hcompletion := hrefusal
        obtain ⟨-, -, -, -, -, -, hcompletion, -⟩ := hcompletion
        simp only [if_pos hcompletion]
        exact ⟨hsteady, .inl hrefusal⟩
      · exact hrejects.1.elim
    · rw [hrun] at h
      exact h

instance (faultOpcode : UInt8) : Reports True (unsupported faultOpcode : Exec σ α) where
  reported _ := ⟨⟨rfl, rfl⟩, .inr ⟨trivial, List.forall_mem_nil _, rfl, rfl⟩⟩

instance : Reports True (rejectRexW instruction : Exec σ Unit) := by
  unfold rejectRexW
  infer_instance

instance (instructionPointer : UInt64) :
    Reports rejects (continueAt instructionPointer : Exec σ InstructionOutcome) := by
  unfold continueAt
  infer_instance

omit [Tracked x] in
theorem attempts_bind_of_some (x : Exec σ α) (f : α → Exec σ β) [Tracked x] [∀ a, Tracked (f a)]
    {start next : ExecutionContext σ} {a : α} (h : x start = (some a, next)) :
    attempts (x >>= f) start = attempts x start ++ attempts (f a) next := by
  show attempts x start ++ _ = _
  rw [h]

omit [Tracked x] in
/-- Code that attempts nothing adds no accesses to a sequence. -/
theorem attempts_bind_of_nil (x : Exec σ α) (f : α → Exec σ β) [Tracked x] [∀ a, Tracked (f a)]
    {start : ExecutionContext σ} (h : ∀ a next, attempts (f a) next = []) :
    attempts (x >>= f) start = attempts x start := by
  show attempts x start ++ _ = _
  split
  · rw [h, List.append_nil]
  · rw [List.append_nil]

/-- A byte read attempts one access. -/
theorem attempts_readU8 (guestAddress : UInt64) (start : ExecutionContext σ) :
    attempts (readU8 guestAddress : Exec σ UInt8) start = [(guestAddress, 1)] := by
  have hread : attempts (readGuest guestAddress 1 : Exec σ (List UInt8)) start =
      [(guestAddress, 1)] :=
    attempts_bind_of_nil (translateGuestPointer guestAddress 1) _ fun _ _ => rfl
  exact (attempts_bind_of_nil (readGuest guestAddress 1) _ fun _ _ => rfl).trans hread

/-- The decoder reports the address of the byte once more. -/
instance (opcodeAddress : UInt64) : Reports rejects (readOpcode opcodeAddress : Exec σ UInt8) where
  reported {start} hbytes := by
    have h := (inferInstance : Reports False (readU8 opcodeAddress : Exec σ UInt8)).reported hbytes
    have hattempts : attempts (readOpcode opcodeAddress : Exec σ UInt8) start =
        [(opcodeAddress, 1)] := attempts_readU8 opcodeAddress start
    unfold ReportsAt at *
    rw [attempts_readU8] at h
    rw [hattempts, readOpcode, Attempt.onFailure]
    rcases hrun : readU8 opcodeAddress start with ⟨_ | a, next⟩
    · rw [hrun] at h
      obtain ⟨hsteady, ⟨admitted, guestAddress, length, haccesses, hin, hout, -⟩ | hrejects⟩ := h
      · obtain ⟨-, hlast⟩ := @List.append_inj' _ [] _ _ _ haccesses rfl
        rw [← List.singleton_inj.mp hlast] at hout
        exact ⟨hsteady, .inl ⟨[], opcodeAddress, 1, rfl, by simp, hout, rfl, rfl, rfl⟩⟩
      · exact hrejects.1.elim
    · rw [hrun] at h
      exact h

instance (indexField : UInt8) :
    Reports rejects (sibIndexValue instruction indexField : Exec σ UInt64) := by
  unfold sibIndexValue
  infer_instance

/-- With an addressing mode there is a case for the operand bytes to decode. -/
theorem tryReadSibOperandAddress_reports {mod : UInt8} (hmod : mod = 0 ∨ mod = 1 ∨ mod = 2)
    (modrmAddress : UInt64) :
    Reports rejects (tryReadSibOperandAddress instruction modrmAddress mod :
      Exec σ (UInt64 × UInt64)) := by
  unfold tryReadSibOperandAddress readSibOperand
  refine @Reports.bind _ _ _ _ _ _ _ _ inferInstance fun sib => ?_
  refine @Reports.bind _ _ _ _ _ _ _ _ inferInstance fun indexValue => ?_
  refine Reports.ite_of (fun _ => inferInstance) fun h0 => ?_
  refine Reports.ite_of (fun _ => inferInstance) fun h1 => ?_
  exact Reports.ite_of (fun _ => inferInstance) fun h2 => by simp_all

theorem tryReadSibAddress_reports {mod : UInt8} (hmod : mod = 0 ∨ mod = 1 ∨ mod = 2)
    (modrmAddress : UInt64) :
    Reports rejects (tryReadSibAddress instruction modrmAddress mod :
      Exec σ (UInt64 × UInt64)) := by
  unfold tryReadSibAddress readSibOperand
  refine @Reports.bind _ _ _ _ _ _ _ _ inferInstance fun sib => ?_
  refine @Reports.bind _ _ _ _ _ _ _ _ inferInstance fun indexValue => ?_
  refine Reports.ite_of (fun _ => inferInstance) fun h0 => ?_
  refine Reports.ite_of (fun _ => inferInstance) fun h1 => ?_
  exact Reports.ite_of (fun _ => inferInstance) fun h2 => by simp_all

/-- The last branch of the decoder is never taken. -/
instance (modrmAddress : UInt64) (modrm : UInt8) :
    Reports rejects (decodeModrmAddress instruction modrmAddress modrm :
      Exec σ (UInt64 × UInt64)) := by
  have hmod := modField_cases modrm
  unfold decodeModrmAddress
  refine Reports.ite_of (fun _ => inferInstance) fun h3 => ?_
  refine Reports.ite_of (fun _ => tryReadSibOperandAddress_reports _ _ (by simp_all) _) fun _ => ?_
  refine Reports.ite_of (fun _ => inferInstance) fun h0 => ?_
  refine Reports.ite_of (fun _ => inferInstance) fun h1 => ?_
  exact Reports.ite_of (fun _ => inferInstance) fun h2 => by simp_all

instance (modrmAddress : UInt64) :
    Reports rejects (tryDecodeRmOperand instruction modrmAddress : Exec σ DecodedRmOperand) := by
  unfold tryDecodeRmOperand
  infer_instance

instance (modrmAddress : UInt64) :
    Reports rejects (tryDecodeModrmOperand instruction modrmAddress :
      Exec σ DecodedModrmOperand) := by
  unfold tryDecodeModrmOperand
  infer_instance

/-- The decoder of the data movement instructions is for memory operands. -/
theorem tryGetMemoryOperandAddress_reports {modrm : UInt8} (hmod : modField modrm ≠ 3)
    (modrmAddress : UInt64) :
    Reports rejects (tryGetMemoryOperandAddress instruction modrmAddress modrm :
      Exec σ (UInt64 × UInt64)) := by
  have hcases := modField_cases modrm
  unfold tryGetMemoryOperandAddress
  refine Reports.ite_of (fun h0 => ?_) fun h0 => ?_
  · exact Reports.ite_of (fun _ => tryReadSibAddress_reports _ _ (.inl h0) _) fun _ => inferInstance
  refine Reports.ite_of (fun h1 => ?_) fun h1 => ?_
  · exact Reports.ite_of (fun _ => tryReadSibAddress_reports _ _ (.inr (.inl h1)) _)
      fun _ => inferInstance
  refine Reports.ite_of (fun h2 => ?_) fun h2 => by simp_all
  exact Reports.ite_of (fun _ => tryReadSibAddress_reports _ _ (.inr (.inr h2)) _)
    fun _ => inferInstance

theorem orUnsupported_reports (faultOpcode : UInt8) {modrm : UInt8} (hmod : modField modrm ≠ 3)
    (modrmAddress : UInt64) :
    Reports rejects (orUnsupported faultOpcode
      (tryGetMemoryOperandAddress instruction modrmAddress modrm) : Exec σ (UInt64 × UInt64)) :=
  haveI : Reports False (tryGetMemoryOperandAddress instruction modrmAddress modrm :
      Exec σ (UInt64 × UInt64)) := tryGetMemoryOperandAddress_reports False instruction hmod _
  inferInstance

end Decoders

section Handlers

variable (rejects : Prop) (instruction : DecodedInstruction)

instance (operand : DecodedRmOperand) : Reports rejects (loadRm64 operand : Exec σ UInt64) := by
  unfold loadRm64
  infer_instance

instance (operand : DecodedRmOperand) : Reports rejects (loadRm32 operand : Exec σ UInt32) := by
  unfold loadRm32
  infer_instance

instance (operand : DecodedRmOperand) : Reports rejects (loadRm8 operand : Exec σ UInt8) := by
  unfold loadRm8
  infer_instance

instance (operand : DecodedRmOperand) (value : UInt64) :
    Reports rejects (storeRm64 operand value : Exec σ Unit) := by
  unfold storeRm64
  infer_instance

instance (operand : DecodedRmOperand) (value : UInt32) :
    Reports rejects (storeRm32 operand value : Exec σ Unit) := by
  unfold storeRm32
  infer_instance

instance (operand : DecodedRmOperand) (immediate64 : UInt64) (immediate32 : UInt32)
    (nextInstruction : UInt64) : Reports True (executeArithmeticImmediate instruction operand
      immediate64 immediate32 nextInstruction : Exec σ InstructionOutcome) := by
  unfold executeArithmeticImmediate
  infer_instance

instance : Reports True (executeX64XorRegister instruction : Exec σ InstructionOutcome) := by
  unfold executeX64XorRegister
  infer_instance

instance : Reports True (executeX64OrRegisterByte instruction : Exec σ InstructionOutcome) := by
  unfold executeX64OrRegisterByte
  infer_instance

instance : Reports True (executeX64OrRmToRegister instruction : Exec σ InstructionOutcome) := by
  unfold executeX64OrRmToRegister
  infer_instance

instance : Reports True (executeX64TestRegister instruction : Exec σ InstructionOutcome) := by
  unfold executeX64TestRegister
  infer_instance

instance :
    Reports True (executeX64TestAccumulatorImmediate instruction : Exec σ InstructionOutcome) := by
  unfold executeX64TestAccumulatorImmediate
  infer_instance

instance : Reports True (executeX64GroupF6 instruction : Exec σ InstructionOutcome) := by
  unfold executeX64GroupF6
  infer_instance

instance : Reports True (executeX64GroupF7 instruction : Exec σ InstructionOutcome) := by
  unfold executeX64GroupF7
  infer_instance

instance : Reports True (executeX64Group83 instruction : Exec σ InstructionOutcome) := by
  unfold executeX64Group83
  infer_instance

instance : Reports True (executeX64Group81 instruction : Exec σ InstructionOutcome) := by
  unfold executeX64Group81
  infer_instance

instance :
    Reports True (executeX64CompareRmWithRegister instruction : Exec σ InstructionOutcome) := by
  unfold executeX64CompareRmWithRegister
  infer_instance

instance (index rmRegisterIndex : UInt32) :
    Reports True (movBetweenRegisters instruction index rmRegisterIndex : Exec σ Unit) := by
  unfold movBetweenRegisters
  infer_instance

instance (index : UInt32) (memoryAddress : UInt64) :
    Reports True (movWithMemory instruction index memoryAddress : Exec σ Unit) := by
  unfold movWithMemory
  infer_instance

instance (modrmAddress : UInt64) (modrm faultOpcode : UInt8) :
    Reports True (loadByteOperand instruction modrmAddress modrm faultOpcode :
      Exec σ (UInt8 × UInt64)) := by
  unfold loadByteOperand
  refine Reports.ite_of (fun _ => inferInstance) fun hmod => ?_
  have haddress := orUnsupported_reports (σ := σ) True instruction faultOpcode hmod
  infer_instance

instance : Reports True (executeX64MovImmediate32 instruction : Exec σ InstructionOutcome) := by
  unfold executeX64MovImmediate32
  infer_instance

instance : Reports True (executeX64MovImmediateToRm instruction : Exec σ InstructionOutcome) := by
  unfold executeX64MovImmediateToRm
  refine @Reports.bind _ _ _ _ _ _ _ _ inferInstance fun modrm => ?_
  refine Reports.ite_of (fun _ => inferInstance) fun _ => ?_
  refine Reports.ite_of (fun _ => inferInstance) fun hmod => ?_
  have haddress := orUnsupported_reports (σ := σ) True instruction instruction.opcode hmod
  infer_instance

instance : Reports True (executeX64MovRegister instruction : Exec σ InstructionOutcome) := by
  unfold executeX64MovRegister
  refine @Reports.bind _ _ _ _ _ _ _ _ inferInstance fun modrm => ?_
  refine Reports.ite_of (fun _ => inferInstance) fun hmod => ?_
  have haddress := orUnsupported_reports (σ := σ) True instruction instruction.opcode hmod
  infer_instance

instance : Reports True (executeX64Lea instruction : Exec σ InstructionOutcome) := by
  unfold executeX64Lea
  refine @Reports.bind _ _ _ _ _ _ _ _ inferInstance fun modrm => ?_
  refine Reports.ite_of (fun _ => inferInstance) fun hmod => ?_
  have haddress := orUnsupported_reports (σ := σ) True instruction instruction.opcode hmod
  infer_instance

instance : Reports True (executeX64Group80 instruction : Exec σ InstructionOutcome) := by
  unfold executeX64Group80
  infer_instance

instance : Reports True (executeX64SecondarySetcc instruction : Exec σ InstructionOutcome) := by
  unfold executeX64SecondarySetcc
  infer_instance

instance : Reports True (executeX64SecondaryMovzxByte instruction : Exec σ InstructionOutcome) := by
  unfold executeX64SecondaryMovzxByte
  infer_instance

instance : Reports True (executeX64Nop instruction : Exec σ InstructionOutcome) := by
  unfold executeX64Nop
  infer_instance

instance (operand : DecodedModrmOperand) :
    Reports rejects (tryReadSimdOperand operand : Exec σ SimdRegister) := by
  unfold tryReadSimdOperand
  infer_instance

instance (operand : DecodedModrmOperand) :
    Reports rejects (tryReadRm32Operand operand : Exec σ UInt32) := by
  unfold tryReadRm32Operand
  infer_instance

instance (operand : DecodedModrmOperand) :
    Reports True (storeSimdOperand operand : Exec σ Unit) := by
  unfold storeSimdOperand
  infer_instance

instance : Reports True (executeX64SecondaryMovXmm instruction : Exec σ InstructionOutcome) := by
  unfold executeX64SecondaryMovXmm
  infer_instance

instance : Reports True (executeX64SecondaryStoreXmm instruction : Exec σ InstructionOutcome) := by
  unfold executeX64SecondaryStoreXmm
  infer_instance

instance : Reports True (executeX64SecondaryXorps instruction : Exec σ InstructionOutcome) := by
  unfold executeX64SecondaryXorps
  infer_instance

instance : Reports True (executeX64SecondaryMovd instruction : Exec σ InstructionOutcome) := by
  unfold executeX64SecondaryMovd
  infer_instance

instance : Reports True (executeX64SecondaryPunpcklbw instruction : Exec σ InstructionOutcome) := by
  unfold executeX64SecondaryPunpcklbw
  infer_instance

instance : Reports True (executeX64SecondaryShuffle instruction : Exec σ InstructionOutcome) := by
  unfold executeX64SecondaryShuffle
  infer_instance

instance : Reports True (executeX64SecondaryMovqStore instruction : Exec σ InstructionOutcome) := by
  unfold executeX64SecondaryMovqStore
  infer_instance

instance (rmRegisterIndex : UInt32) (isDecrement : Bool) :
    Reports True
      (incDecRegister instruction rmRegisterIndex isDecrement : Exec σ InstructionOutcome) := by
  unfold incDecRegister
  infer_instance

instance (modrm : UInt8) :
    Reports True (indirectCallTarget instruction modrm : Exec σ (UInt64 × UInt64)) := by
  unfold indirectCallTarget
  infer_instance

instance : Reports True (executeX64PopRegister instruction : Exec σ InstructionOutcome) := by
  unfold executeX64PopRegister
  infer_instance

instance : Reports True (executeX64Return instruction : Exec σ InstructionOutcome) := by
  unfold executeX64Return
  infer_instance

instance : Reports True (executeX64JumpRelativeNear instruction : Exec σ InstructionOutcome) := by
  unfold executeX64JumpRelativeNear
  infer_instance

instance : Reports True (executeX64JumpRelativeShort instruction : Exec σ InstructionOutcome) := by
  unfold executeX64JumpRelativeShort
  infer_instance

instance : Reports True (executeX64JumpShortCondition instruction : Exec σ InstructionOutcome) := by
  unfold executeX64JumpShortCondition
  infer_instance

instance : Reports True (executeX64JumpNearCondition instruction : Exec σ InstructionOutcome) := by
  unfold executeX64JumpNearCondition
  infer_instance

instance : Reports True (executeX64Unsupported instruction : Exec σ InstructionOutcome) := by
  unfold executeX64Unsupported
  infer_instance

end Handlers

end Ringos.Emulator
