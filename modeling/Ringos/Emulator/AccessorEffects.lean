import Ringos.Emulator.Effects

/-!
# The effects of the accessors and operand decoders

Reads denote what lies in the guest region, register reads the register file.
All three ModRM decoders denote one effective address.
-/

namespace Ringos.Emulator

open Ringos.Core
open Exec

variable {σ α : Type}

namespace Machine

/-- The guest byte at an address. -/
def byteAt (machine : Machine σ) (guestAddress : UInt64) : Option UInt8 :=
  (machine.bytesAt guestAddress 1).map fun bytes => bytes.getD 0 0

/-- The guest word at an address. -/
def wordAt (machine : Machine σ) (guestAddress : UInt64) : Option UInt32 :=
  (machine.bytesAt guestAddress 4).map fun bytes => (ofLittleEndian bytes).toUInt32

/-- The guest quadword at an address. -/
def quadAt (machine : Machine σ) (guestAddress : UInt64) : Option UInt64 :=
  (machine.bytesAt guestAddress 8).map ofLittleEndian

/-- The guest XMM value at an address. -/
def simdAt (machine : Machine σ) (guestAddress : UInt64) : Option SimdRegister :=
  (machine.bytesAt guestAddress 16).map fun bytes =>
    Vector.ofFn fun index : Fin 16 => bytes.getD index.val 0

theorem register_setRegister (machine : Machine σ) {index : UInt32} (hindex : index < 16)
    (value : UInt64) : (machine.setRegister index value).register index = value := by
  have hlt : index.toNat < 16 := UInt32.lt_iff_toNat_lt.mp hindex
  simp [register, setRegister, mapState, hlt]

theorem register_setRegister_ne (machine : Machine σ) {index other : UInt32}
    (hne : other ≠ index) (value : UInt64) :
    (machine.setRegister index value).register other = machine.register other := by
  have hnat : index.toNat ≠ other.toNat := fun h => hne (UInt32.toNat_inj.mp h).symm
  simp only [register, setRegister, mapState, Vector.getElem?_setIfInBounds, if_neg hnat]

theorem simdRegister_setSimdRegister (machine : Machine σ) {index : UInt32} (hindex : index < 16)
    (value : SimdRegister) : (machine.setSimdRegister index value).simdRegister index = value := by
  have hlt : index.toNat < 16 := UInt32.lt_iff_toNat_lt.mp hindex
  simp [simdRegister, setSimdRegister, mapState, hlt]

theorem simdRegister_setSimdRegister_ne (machine : Machine σ) {index other : UInt32}
    (hne : other ≠ index) (value : SimdRegister) :
    (machine.setSimdRegister index value).simdRegister other = machine.simdRegister other := by
  have hnat : index.toNat ≠ other.toNat := fun h => hne (UInt32.toNat_inj.mp h).symm
  simp only [simdRegister, setSimdRegister, mapState, Vector.getElem?_setIfInBounds, if_neg hnat]

end Machine

/-- An access the translation admits stays inside the guest region. -/
theorem EmulatorMemory.offsetOf_bound {memory : EmulatorMemory} {guestAddress offset : UInt64}
    {length : Nat} (h : memory.offsetOf guestAddress length = some offset) :
    offset = guestAddress - memory.baseAddress ∧ offset.toNat + length ≤ memory.size.toNat := by
  unfold offsetOf at h
  split at h
  · rename_i hcontains
    obtain rfl := Option.some.inj h
    simp only [contains, Bool.and_eq_true, Bool.not_eq_true', decide_eq_false_iff_not]
      at hcontains
    obtain ⟨⟨-, hsize⟩, hlength⟩ := hcontains
    have hle := UInt64.not_lt.mp hsize
    rw [UInt64.toNat_sub_of_le _ _ hle] at hlength
    rw [UInt64.le_iff_toNat_le] at hle
    exact ⟨rfl, by omega⟩
  · cases h

section Reads

variable {start : ExecutionContext σ}

/-- A projection of the machine is what it is at the start. -/
theorem read_denotes (g : Machine σ → α) :
    Denotes start (Attempt.read fun context => g context.machine) (some (g start.machine)) := by
  apply Attempt.Triple.read
  intro context h
  rw [h.machine]
  exact ⟨rfl, h⟩

/-- A safe access that is no write may be noted at any time before a store. -/
theorem note_denotes {access : Access} (hsafe : access.Safe start.machine.memory)
    (hwrite : guestWrites [access] = []) : Denotes start (note access) (some ()) := by
  apply Attempt.Triple.update
  intro context h
  exact ⟨rfl, h.machine, h.status, h.traced.note hsafe hwrite⟩

/-- Pointer translation denotes the offset into the guest region. -/
theorem translateGuestPointer_denotes (hbytes : start.machine.memory.bytes ≠ 0)
    (guestAddress : UInt64) (length : Nat) :
    Denotes start (translateGuestPointer guestAddress length)
      (start.machine.memory.offsetOf guestAddress length) := by
  show Denotes start _ ((some start.machine.memory).bind fun memory =>
    memory.offsetOf guestAddress length)
  refine (read_denotes fun machine => machine.memory).bind fun memory hmemory => ?_
  obtain rfl := Option.some.inj hmemory
  refine Attempt.Triple.bind (Attempt.Triple.read (Q := fun _ => Untouched start)
    fun _ h => h) fun opcode => ?_
  unfold EmulatorMemory.offsetOf
  rw [if_neg hbytes]
  apply Attempt.Triple.ite
  · intro hcontains
    rw [if_pos hcontains]
    exact Denotes.pure _
  · intro hcontains
    rw [if_neg hcontains]
    refine Attempt.Triple.bind (Attempt.Triple.update (Q := fun _ context =>
      Refused start start.machine context) fun context h => ?_) fun _ =>
        Attempt.Triple.fail fun _ h => ⟨rfl, h⟩
    exact ⟨h.fault (setInvalidMemoryAccess_isFault guestAddress opcode) fun _ => rfl, rfl⟩

/-- Reads denote the bytes of the guest region. -/
theorem readGuest_denotes (hbytes : start.machine.memory.bytes ≠ 0) (guestAddress : UInt64)
    (length : Nat) :
    Denotes start (readGuest guestAddress length)
      (start.machine.bytesAt guestAddress length) := by
  unfold Machine.bytesAt
  rw [Option.map_eq_bind]
  refine (translateGuestPointer_denotes hbytes guestAddress length).bind fun offset hoffset => ?_
  have hsafe : (Access.guestRead offset length).Safe start.machine.memory :=
    (EmulatorMemory.offsetOf_bound hoffset).2
  exact (note_denotes hsafe rfl).bind fun _ _ =>
    read_denotes fun machine => loadBytes machine.host (machine.memory.bytes + offset) length

variable (hbytes : start.machine.memory.bytes ≠ 0) (guestAddress : UInt64)

include hbytes

theorem readU8_denotes : Denotes start (readU8 guestAddress) (start.machine.byteAt guestAddress) :=
  (readGuest_denotes hbytes guestAddress 1).map _

theorem readI8_denotes :
    Denotes start (readI8 guestAddress) ((start.machine.byteAt guestAddress).map UInt8.toInt8) :=
  (readU8_denotes hbytes guestAddress).map _

theorem readU32_denotes :
    Denotes start (readU32 guestAddress) (start.machine.wordAt guestAddress) :=
  (readGuest_denotes hbytes guestAddress 4).map _

theorem readI32_denotes :
    Denotes start (readI32 guestAddress)
      ((start.machine.wordAt guestAddress).map UInt32.toInt32) :=
  (readU32_denotes hbytes guestAddress).map _

theorem readU64_denotes :
    Denotes start (readU64 guestAddress) (start.machine.quadAt guestAddress) :=
  (readGuest_denotes hbytes guestAddress 8).map _

theorem readU128_denotes :
    Denotes start (readU128 guestAddress) (start.machine.simdAt guestAddress) :=
  (readGuest_denotes hbytes guestAddress 16).map _

end Reads

section Registers

variable {start : ExecutionContext σ} {index : UInt32} (hindex : index < 16)

include hindex

theorem getRegister64_denotes :
    Denotes start (getRegister64 index) (some (start.machine.register index)) :=
  (note_denotes (show (Access.generalRegister index).Safe _ from hindex) rfl).bind fun _ _ =>
    read_denotes fun machine => machine.register index

theorem getRegister32_denotes :
    Denotes start (getRegister32 index) (some (start.machine.register index).toUInt32) :=
  (getRegister64_denotes hindex).map _

theorem getRegister8Low_denotes :
    Denotes start (getRegister8Low index)
      (some ((start.machine.register index) &&& 0xFF).toUInt8) :=
  (getRegister64_denotes hindex).map _

theorem getSimdRegister_denotes :
    Denotes start (getSimdRegister index) (some (start.machine.simdRegister index)) :=
  (note_denotes (show (Access.simdRegister index).Safe _ from hindex) rfl).bind fun _ _ =>
    read_denotes fun machine => machine.simdRegister index

end Registers

section Commits

variable {start : ExecutionContext σ}

theorem read_commits (g : ExecutionContext σ → α) : Commits start (Attempt.read g) :=
  fun _ => Attempt.Triple.read fun _ h => h

/-- Register accesses may be noted at any time. -/
theorem note_commits {access : Access} (hsafe : access.Safe start.machine.memory)
    (hwrite : guestWrites [access] = []) : Commits start (note access) := by
  intro store
  apply Attempt.Triple.update
  intro context h
  exact ⟨h.memory, h.host, h.world, h.status, h.traced.note hsafe hwrite⟩

/-- A change of the guest state commits. -/
theorem setMachine_commits (f : EmulatorState → EmulatorState) :
    Commits start (setMachine fun machine => machine.mapState f) := by
  intro store
  apply Attempt.Triple.update
  intro context h
  exact ⟨h.memory, h.host, h.world, h.status, h.traced⟩

theorem getFlags_commits : Commits start (getFlags : Exec σ UInt64) := read_commits _

theorem setFlags_commits (flags : UInt64) : Commits start (setFlags flags) :=
  setMachine_commits _

theorem setLogicFlags_commits (value : UInt64) (is64Bit : Bool) :
    Commits start (setLogicFlags value is64Bit) :=
  getFlags_commits.bind fun _ => setFlags_commits _

theorem setCompareFlags_commits (lhs rhs result : UInt64) (is64Bit : Bool) :
    Commits start (setCompareFlags lhs rhs result is64Bit) :=
  getFlags_commits.bind fun _ => setFlags_commits _

theorem setAddFlags_commits (lhs rhs result : UInt64) (is64Bit : Bool) :
    Commits start (setAddFlags lhs rhs result is64Bit) :=
  getFlags_commits.bind fun _ => setFlags_commits _

theorem setIncDecFlags_commits (lhs result : UInt64) (isDecrement is64Bit : Bool) :
    Commits start (setIncDecFlags lhs result isDecrement is64Bit) :=
  getFlags_commits.bind fun _ => setFlags_commits _

theorem continueAt_finishes (instructionPointer : UInt64) :
    Finishes start (continueAt instructionPointer) :=
  (setMachine_commits _).finishes fun _ _ => Attempt.Triple.pure fun _ h => ⟨rfl, h⟩

variable {index : UInt32} (hindex : index < 16)

include hindex

theorem getRegister64_commits : Commits start (getRegister64 index) :=
  (note_commits (show (Access.generalRegister index).Safe _ from hindex) rfl).bind fun _ =>
    read_commits _

theorem setRegister64_commits (value : UInt64) : Commits start (setRegister64 index value) :=
  (note_commits (show (Access.generalRegister index).Safe _ from hindex) rfl).bind fun _ =>
    setMachine_commits _

theorem setRegister32_commits (value : UInt32) : Commits start (setRegister32 index value) :=
  setRegister64_commits hindex _

theorem setRegister8Low_commits (value : UInt8) : Commits start (setRegister8Low index value) :=
  (getRegister64_commits hindex).bind fun _ => setRegister64_commits hindex _

theorem setSimdRegister_commits (value : SimdRegister) :
    Commits start (setSimdRegister index value) :=
  (note_commits (show (Access.simdRegister index).Safe _ from hindex) rfl).bind fun _ =>
    setMachine_commits _

end Commits

section Writes

variable {start : ExecutionContext σ} {allowed : GuestStore → Prop}

/-- A write stores its bytes, or is refused and leaves the machine alone. -/
theorem writeGuest_triple (hbytes : start.machine.memory.bytes ≠ 0) (guestAddress : UInt64)
    (bytes : List UInt8) :
    Attempt.Triple (Untouched start) (writeGuest guestAddress bytes)
      (fun _ context => (start.machine.memory.offsetOf guestAddress bytes.length).isSome ∧
        Advanced start (some (guestAddress, bytes)) context)
      (fun context => start.machine.memory.offsetOf guestAddress bytes.length = none ∧
        Refused start start.machine context) := by
  refine Attempt.Triple.bind
    (translateGuestPointer_denotes hbytes guestAddress bytes.length) fun offset => ?_
  refine Attempt.Triple.bind (Q := fun _ context =>
    start.machine.memory.offsetOf guestAddress bytes.length = some offset ∧
      context.machine = start.machine ∧ context.result.status = start.result.status ∧
      Traced start [(offset, bytes.length)] context)
    (Attempt.Triple.update ?_) fun _ => Attempt.Triple.update ?_
  · rintro context ⟨hoffset, huntouched⟩
    have hbound := (EmulatorMemory.offsetOf_bound hoffset).2
    exact ⟨hoffset, huntouched.machine, huntouched.status, huntouched.traced.noteWrite hbound⟩
  · rintro context ⟨hoffset, hmachine, hstatus, htraced⟩
    obtain ⟨rfl, -⟩ := EmulatorMemory.offsetOf_bound hoffset
    refine ⟨by rw [hoffset]; rfl, ?_, ?_, ?_, hstatus, htraced⟩
    · simp only [ExecutionContext.mapMachine, hmachine]
    · simp only [ExecutionContext.mapMachine, hmachine, GuestStore.apply]
    · simp only [ExecutionContext.mapMachine, hmachine]

/-- A checked write stores its bytes where they are admitted. -/
theorem checkedWrite_stores (hbytes : start.machine.memory.bytes ≠ 0) {guestAddress : UInt64}
    {bytes : List UInt8} (hallowed : allowed (some (guestAddress, bytes))) :
    Stores start allowed start.machine (orInvalidMemory (writeGuest guestAddress bytes)) := by
  refine Attempt.Triple.onFailure ((writeGuest_triple hbytes guestAddress bytes).conseq
    (fun _ h => h) (fun _ _ h => ⟨_, hallowed, h.2⟩) fun _ h => h.2) fun context h => ?_
  rw [h.mark]
  exact h.1

end Writes

end Ringos.Emulator
