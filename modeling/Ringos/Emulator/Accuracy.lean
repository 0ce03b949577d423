import Ringos.Emulator.Reports
import Ringos.Emulator.Faults

/-!
# Accurate fault reports

The report of a guest fault should say whether an access of the faulting
instruction was out of bounds, where the first one was, and which instruction
it was. Three things spoil it: a fetch that fails leaves the instruction pointer
of the instruction before in the record, a push that its own lower check
refuses reports the stack pointer instead of the slot, and the multi-byte `nop`
reports operand bytes it cannot read as an unsupported encoding.
-/

namespace Ringos.Emulator

open Ringos.Core
open Exec

variable {σ α β : Type}

instance (memory : EmulatorMemory) (access : GuestAccess) : Decidable (memory.InBounds access) :=
  inferInstanceAs (Decidable (_ = true))

/-- The first of some accesses that is out of bounds. -/
def EmulatorMemory.firstRefused (memory : EmulatorMemory) (accesses : List GuestAccess) :
    Option GuestAccess :=
  accesses.find? fun access => ¬ memory.InBounds access

/-- The report calls it an invalid access exactly if one was out of bounds, and then tells where
the first one was. -/
def Accurate (memory : EmulatorMemory) (accesses : List GuestAccess) (result : EmulatorResult) :
    Prop :=
  (result.guestStopReason = .invalidMemoryAccess ↔
      ∃ access ∈ accesses, ¬ memory.InBounds access) ∧
    ∀ access, memory.firstRefused accesses = some access →
      result.fault.memoryAddress = access.1

section Accuracy

variable {memory : EmulatorMemory} {front accesses : List GuestAccess} {result : EmulatorResult}

theorem firstRefused_append (hfront : ∀ access ∈ front, memory.InBounds access) :
    memory.firstRefused (front ++ accesses) = memory.firstRefused accesses := by
  have hnone : memory.firstRefused front = none := by
    simpa [EmulatorMemory.firstRefused] using hfront
  rw [EmulatorMemory.firstRefused, List.find?_append]
  simp only [EmulatorMemory.firstRefused] at hnone
  rw [hnone, Option.none_or]
  rfl

/-- Accesses in bounds make no difference to a report. -/
theorem accurate_append (hfront : ∀ access ∈ front, memory.InBounds access) :
    Accurate memory (front ++ accesses) result ↔ Accurate memory accesses result := by
  have hexists : (∃ access ∈ front ++ accesses, ¬ memory.InBounds access) ↔
      ∃ access ∈ accesses, ¬ memory.InBounds access := by
    constructor
    · rintro ⟨access, hmem, hout⟩
      rcases List.mem_append.mp hmem with hin | hin
      · exact absurd (hfront access hin) hout
      · exact ⟨access, hin, hout⟩
    · rintro ⟨access, hmem, hout⟩
      exact ⟨access, List.mem_append_right _ hmem, hout⟩
  rw [Accurate, Accurate, hexists, firstRefused_append hfront]

/-- With all accesses in bounds, any other reason is accurate. -/
theorem accurate_of_inBounds (hin : ∀ access ∈ accesses, memory.InBounds access) :
    Accurate memory accesses result ↔ result.guestStopReason ≠ .invalidMemoryAccess := by
  have hnone : memory.firstRefused accesses = none := by
    simpa [EmulatorMemory.firstRefused] using hin
  have hexists : ¬ ∃ access ∈ accesses, ¬ memory.InBounds access :=
    fun ⟨access, hmem, hout⟩ => hout (hin access hmem)
  rw [Accurate, hnone]
  simp [hexists]

/-- What is on record for a single access that is out of bounds. -/
theorem accurate_singleton {access : GuestAccess} (hout : ¬ memory.InBounds access) :
    Accurate memory [access] result ↔
      result.guestStopReason = .invalidMemoryAccess ∧ result.fault.memoryAddress = access.1 := by
  have hfirst : memory.firstRefused [access] = some access := by
    simp [EmulatorMemory.firstRefused, hout]
  rw [Accurate, hfirst]
  simp [hout]

theorem Refusal.accurate (h : Refusal memory accesses result) : Accurate memory accesses result := by
  obtain ⟨admitted, guestAddress, length, rfl, hin, hout, -, hreason, haddress⟩ := h
  exact (accurate_append hin).mpr ((accurate_singleton hout).mpr ⟨hreason, haddress⟩)

theorem Rejection.accurate (h : Rejection memory accesses result) :
    Accurate memory accesses result := by
  rw [accurate_of_inBounds h.1, h.2.2]
  decide

/-- A refused access that is on record as something else. -/
theorem Refusal.not_accurate {other : EmulatorResult} (h : Refusal memory accesses result)
    (hreason : other.guestStopReason ≠ .invalidMemoryAccess) : ¬ Accurate memory accesses other := by
  obtain ⟨admitted, guestAddress, length, rfl, -, hout, -⟩ := h
  intro haccurate
  exact hreason (haccurate.1.mpr ⟨_, List.mem_append_right _ (List.mem_singleton_self _), hout⟩)

end Accuracy

/-- How code may end that reports accurately unless `wrong`. -/
def Judgement (wrong : Prop) (start : ExecutionContext σ) (accesses : List GuestAccess) :
    Option α × ExecutionContext σ → Prop
  | (some _, next) =>
    Steady start next ∧ (∀ access ∈ accesses, start.machine.memory.InBounds access) ∧ ¬ wrong
  | (none, next) =>
    Steady start next ∧ (Accurate start.machine.memory accesses next.result ↔ ¬ wrong)

/-- The report of the code from a context is accurate unless `wrong`; if `wrong`, it gives up. -/
def Judged (wrong : Prop) (x : Exec σ α) [Tracked x] (start : ExecutionContext σ) : Prop :=
  Judgement wrong start (attempts x start) (x start)

section Rules

variable {wrong : Prop} {start next : ExecutionContext σ} {x : Exec σ α} {f : α → Exec σ β}
  [Tracked x] [∀ a, Tracked (f a)]

omit [∀ a, Tracked (f a)] in
theorem ReportsAt.judged (hx : ReportsAt True x start) (hwrong : ¬ wrong) : Judged wrong x start := by
  unfold ReportsAt Judged at *
  rcases hrun : x start with ⟨_ | a, next⟩
  · rw [hrun] at hx
    obtain ⟨hsteady, hrefusal | ⟨-, hrejection⟩⟩ := hx
    · exact ⟨hsteady, iff_of_true hrefusal.accurate hwrong⟩
    · exact ⟨hsteady, iff_of_true hrejection.accurate hwrong⟩
  · rw [hrun] at hx
    exact ⟨hx.1, hx.2, hwrong⟩

/-- A sequence is judged by its first part where that gives up, and by the rest after it. -/
theorem Judged.bind
    (hnone : ∀ next, x start = (none, next) → Steady start next ∧
      (Accurate start.machine.memory (attempts x start) next.result ↔ ¬ wrong))
    (hsome : ∀ a next, x start = (some a, next) → Steady start next ∧
      (∀ access ∈ attempts x start, start.machine.memory.InBounds access) ∧
        Judged wrong (f a) next) : Judged wrong (x >>= f) start := by
  unfold Judged at *
  simp only [attempts, Bind.bind]
  rcases hrun : x start with ⟨_ | a, next⟩
  · simp only [List.append_nil]
    exact hnone next hrun
  obtain ⟨hsteady, hfront, hrest⟩ := hsome a next hrun
  simp only
  rcases hlast : f a next with ⟨_ | b, last⟩
  · rw [hlast] at hrest
    refine ⟨hsteady.trans hrest.1, ?_⟩
    rw [accurate_append hfront, ← hsteady.1]
    exact hrest.2
  · rw [hlast] at hrest
    refine ⟨hsteady.trans hrest.1, fun access hmem => ?_, hrest.2.2⟩
    rcases List.mem_append.mp hmem with hin | hin
    · exact hfront access hin
    · exact hsteady.1 ▸ hrest.2.1 access hin

omit [∀ a, Tracked (f a)] in
theorem judged_of_reports [hx : Reports True x] (hbytes : start.machine.memory.bytes ≠ 0)
    (hwrong : ¬ wrong) : Judged wrong x start :=
  (hx.reported hbytes).judged hwrong

/-- Code that reports, then code whose report may be wrong. -/
theorem Judged.front (hx : ReportsAt True x start)
    (hnone : ∀ next, x start = (none, next) → ¬ wrong)
    (hf : ∀ a next, x start = (some a, next) → Steady start next → Judged wrong (f a) next) :
    Judged wrong (x >>= f) start := by
  unfold ReportsAt at hx
  refine .bind (fun next hrun => ?_) fun a next hrun => ?_
  · rw [hrun] at hx
    obtain ⟨hsteady, hrefusal | ⟨-, hrejection⟩⟩ := hx
    · exact ⟨hsteady, iff_of_true hrefusal.accurate (hnone next hrun)⟩
    · exact ⟨hsteady, iff_of_true hrejection.accurate (hnone next hrun)⟩
  · rw [hrun] at hx
    exact ⟨hx.1, hx.2, hf a next hrun hx.1⟩

/-- Code that inspects, then code whose report may be wrong. -/
theorem Judged.denotes {value : Option α} [hx : Reports True x]
    (hbytes : start.machine.memory.bytes ≠ 0) (hvalue : Denotes start x value) (hnone : value = none → ¬ wrong)
    (hf : ∀ a next, value = some a → Untouched start next → Judged wrong (f a) next) :
    Judged wrong (x >>= f) start := by
  obtain ⟨hsome, hmissing⟩ := hvalue start (.refl start)
  refine .front (hx.reported hbytes) (fun next hrun => hnone (hmissing next hrun).1)
    fun a next hrun _ => ?_
  obtain ⟨ha, huntouched⟩ := hsome a next hrun
  exact hf a next ha huntouched

/-- Code whose report may be wrong, then code that reports. -/
theorem Judged.back (hx : Judged wrong x start)
    (hf : ∀ a next, Steady start next → ReportsAt True (f a) next) :
    Judged wrong (x >>= f) start := by
  unfold Judged at hx
  refine .bind (fun next hrun => ?_) fun a next hrun => ?_
  · rw [hrun] at hx
    exact hx
  · rw [hrun] at hx
    exact ⟨hx.1, hx.2.1, (hf a next hx.1).judged hx.2.2⟩

omit [∀ a, Tracked (f a)] in
/-- A branch may use its test. -/
theorem Judged.ite {c : Prop} [Decidable c] {y : Exec σ α} [Tracked y]
    (hx : c → Judged wrong x start) (hy : ¬ c → Judged wrong y start) :
    Judged wrong (if c then x else y) start := by
  unfold Judged at *
  simp only [attempts]
  split
  · next hc => exact hx hc
  · next hc => exact hy hc

omit [Tracked x] [∀ a, Tracked (f a)] in
/-- An entry of a handler table. -/
theorem Judged.entry {ι : Type} {i : ι} {c : Prop} [Decidable c] {x y : ι → Exec σ α}
    [Tracked (x i)] [Tracked (y i)] (hx : c → Judged wrong (x i) start)
    (hy : ¬ c → Judged wrong (y i) start) : Judged wrong ((if c then x else y) i) start := by
  unfold Judged at *
  simp only [attempts]
  split
  · next hc => exact hx hc
  · next hc => exact hy hc

end Rules

namespace Machine

/-- The lower check of `push_u64` refuses the stack pointer. -/
def pushesBelow (machine : Machine σ) : Bool :=
  machine.register rsp < machine.memory.baseAddress + 8

/-- The instruction gets as far as a push that is refused before the slot is tried. -/
def pushesTooLow (machine : Machine σ) (instruction : DecodedInstruction) : Bool :=
  machine.reachesPush instruction && machine.pushesBelow

end Machine

section Pushes

variable {start : ExecutionContext σ} (hbytes : start.machine.memory.bytes ≠ 0)
  {instruction : DecodedInstruction}

/-- A write of eight bytes attempts one access. -/
theorem attempts_writeU64 (guestAddress value : UInt64) (start : ExecutionContext σ) :
    attempts (writeU64 guestAddress value : Exec σ Unit) start = [(guestAddress, 8)] := by
  have hwrite : attempts (writeGuest guestAddress (toLittleEndian 8 value) : Exec σ Unit) start =
      [(guestAddress, (toLittleEndian 8 value).length)] :=
    attempts_bind_of_nil (translateGuestPointer guestAddress _) _ fun _ _ => rfl
  rw [length_toLittleEndian] at hwrite
  exact hwrite

/-- A push below the region is not accurately reported: the record has the stack pointer. -/
theorem not_accurate_below {memory : EmulatorMemory} {stackPointer : UInt64}
    {result : EmulatorResult} (hreason : result.guestStopReason = .invalidMemoryAccess)
    (haddress : result.fault.memoryAddress = stackPointer) :
    ¬ Accurate memory [(stackPointer - 8, 8)] result := by
  by_cases hin : memory.InBounds (stackPointer - 8, 8)
  · rw [accurate_of_inBounds (by simpa using hin)]
    exact not_not.mpr hreason
  · rw [accurate_singleton hin, haddress]
    rintro ⟨-, heq⟩
    have hnat := congrArg UInt64.toNat heq
    rw [UInt64.toNat_sub, show (8 : UInt64).toNat = 8 from rfl] at hnat
    have hlt := stackPointer.toNat_lt
    omega

include hbytes

/-- A push is accurately reported unless its own lower check refuses it. -/
theorem pushU64_judged (value : UInt64) :
    Judged (start.machine.pushesBelow = true) (orInvalidMemory (pushU64 value)) start := by
  let stackPointer := start.machine.register rsp
  let noted := start.note (.generalRegister rsp)
  let store : Exec σ Unit := setRegister64 rsp (stackPointer - 8) >>= fun _ =>
    writeU64 (stackPointer - 8) value
  have hrun : pushU64 value start = if stackPointer < start.machine.memory.baseAddress + 8 then
      (none, noted.mapResult
        (EmulatorResult.setInvalidMemoryAccess stackPointer start.result.fault.opcode))
      else store noted := by
    show (if stackPointer < start.machine.memory.baseAddress + 8 then
      setResult (EmulatorResult.setInvalidMemoryAccess stackPointer start.result.fault.opcode) >>=
        fun _ => Attempt.fail
      else store : Exec σ Unit) noted = _
    split <;> rfl
  have hattempts : attempts (orInvalidMemory (pushU64 value)) start = [(stackPointer - 8, 8)] := rfl
  have hstore : attempts (orInvalidMemory store) noted = [(stackPointer - 8, 8)] :=
    attempts_writeU64 _ _ _
  unfold Judged
  rw [hattempts]
  by_cases hlow : stackPointer < start.machine.memory.baseAddress + 8
  · have hgives : orInvalidMemory (pushU64 value) start = (none, (noted.mapResult
        (EmulatorResult.setInvalidMemoryAccess stackPointer start.result.fault.opcode)).mapResult
          EmulatorResult.markInvalidMemoryAccess) := by
      rw [orInvalidMemory, Attempt.onFailure, hrun, if_pos hlow]
    rw [hgives]
    refine ⟨⟨rfl, rfl⟩, iff_of_false (not_accurate_below rfl rfl) (not_not.mpr ?_)⟩
    exact decide_eq_true hlow
  · have hgoes : orInvalidMemory (pushU64 value) start = orInvalidMemory store noted := by
      rw [orInvalidMemory, Attempt.onFailure, hrun, if_neg hlow]
      rfl
    have hwrong : ¬ start.machine.pushesBelow = true := fun h => hlow (of_decide_eq_true h)
    have hreports : Reports True (orInvalidMemory store) := inferInstance
    have hjudged := (@hreports.reported noted hbytes).judged hwrong
    unfold Judged at hjudged
    rw [hstore] at hjudged
    rw [hgoes]
    exact hjudged

/-- What is pushed comes from inspection; then the instruction pointer moves. -/
theorem pushed_judged {wrong : Prop} (hwrong : wrong ↔ start.machine.pushesBelow = true)
    (value target : UInt64) : Judged wrong
      (orInvalidMemory (pushU64 value) >>= fun _ => continueAt target) start := by
  refine Judged.back ?_ fun _ next hsteady =>
    (inferInstance : Reports True (continueAt target)).reported (hsteady.1 ▸ hbytes)
  rw [propext hwrong]
  exact pushU64_judged hbytes value

omit hbytes in
/-- The check for REX.W comes first. -/
theorem rejectRexW_judged {wrong : Prop} {f : Unit → Exec σ β} [∀ a, Tracked (f a)]
    (hreject : instruction.rexW = true → ¬ wrong)
    (hf : instruction.rexW = false → Judged wrong (f ()) start) :
    Judged wrong (rejectRexW instruction >>= f) start := by
  by_cases hrex : instruction.rexW = true
  · refine .bind (fun next hrun => ?_) fun _ next hrun => ?_
    all_goals rw [rejectRexW, if_pos hrex] at hrun
    · obtain ⟨-, rfl⟩ := Prod.mk.inj hrun
      have hattempts : attempts (rejectRexW instruction : Exec σ Unit) start = [] := by
        show (if instruction.rexW = true then _ else _) = _
        rw [if_pos hrex]
        rfl
      rw [hattempts, accurate_of_inBounds (by simp)]
      exact ⟨⟨rfl, rfl⟩, iff_of_true GuestStopReason.noConfusion (hreject hrex)⟩
    · cases hrun
  · refine .bind (fun next hrun => ?_) fun _ next hrun => ?_
    all_goals rw [rejectRexW, if_neg hrex] at hrun
    · cases hrun
    · obtain ⟨-, rfl⟩ := Prod.mk.inj hrun
      have hattempts : attempts (rejectRexW instruction : Exec σ Unit) start = [] := by
        show (if instruction.rexW = true then _ else _) = _
        rw [if_neg hrex]
        rfl
      rw [hattempts]
      exact ⟨.refl _, by simp, hf (by simpa using hrex)⟩

theorem executeX64PushRegister_judged (hlow : 0x50 ≤ instruction.opcode)
    (hhigh : instruction.opcode ≤ 0x57) :
    Judged (start.machine.pushesTooLow instruction = true)
      (executeX64PushRegister instruction) start := by
  have hindex := opcodeIndex_lt instruction.rexB hlow hhigh (by decide)
  have hreach : start.machine.reachesPush instruction = !instruction.rexW := by
    rw [Machine.reachesPush, if_pos ⟨hlow, hhigh⟩]
  rw [Machine.pushesTooLow, hreach]
  unfold executeX64PushRegister
  refine rejectRexW_judged (fun hrex => by simp [hrex]) fun hrex => ?_
  refine Judged.denotes hbytes (getRegister64_denotes hindex) (by simp)
    fun value next _ huntouched => ?_
  refine pushed_judged (huntouched.machine ▸ hbytes) ?_ _ _
  rw [huntouched.machine]
  simp [hrex]

theorem executeX64CallRelative_judged (hopcode : instruction.opcode = 0xE8) :
    Judged (start.machine.pushesTooLow instruction = true)
      (executeX64CallRelative instruction) start := by
  have hreach : start.machine.reachesPush instruction =
      (!instruction.rexW && (start.machine.wordAt instruction.nextAddress).isSome) := by
    rw [Machine.reachesPush, if_neg (by rw [hopcode]; decide), if_pos hopcode]
  rw [Machine.pushesTooLow, hreach]
  unfold executeX64CallRelative
  refine rejectRexW_judged (fun hrex => by simp [hrex]) fun hrex => ?_
  refine Judged.denotes hbytes (readI32_denotes hbytes _).orInvalidMemory
    (fun hnone => ?_) fun displacement next hword huntouched => ?_
  · simp [Option.map_eq_none_iff.mp hnone]
  · obtain ⟨word, hword, -⟩ := Option.map_eq_some_iff.mp hword
    refine pushed_judged (huntouched.machine ▸ hbytes) ?_ _ _
    rw [huntouched.machine]
    simp [hrex, hword]

theorem executeX64GroupFf_judged (hopcode : instruction.opcode = 0xFF) :
    Judged (start.machine.pushesTooLow instruction = true)
      (executeX64GroupFf instruction) start := by
  have hreach : start.machine.reachesPush instruction =
      ((start.machine.byteAt instruction.nextAddress).bind fun modrm =>
        if regField modrm = 2 then start.machine.callTarget instruction modrm else none).isSome := by
    rw [Machine.reachesPush, if_neg (by rw [hopcode]; decide), if_neg (by rw [hopcode]; decide),
      if_pos hopcode]
  rw [Machine.pushesTooLow, hreach]
  unfold executeX64GroupFf
  refine Judged.denotes hbytes (readU8_denotes hbytes _).orInvalidMemory
    (fun hnone => by simp [hnone]) fun modrm next hmodrm huntouched => ?_
  rw [hmodrm, Option.bind_some]
  have hbytes' := huntouched.machine ▸ hbytes
  apply Judged.ite
  · intro hoperation
    have hcall : regField modrm ≠ 2 := by
      rcases hoperation with h | h <;> rw [h] <;> decide
    exact judged_of_reports hbytes' (by simp [hcall])
  intro _
  apply Judged.ite
  · intro hcall
    exact judged_of_reports hbytes' (by simp [hcall])
  intro hcall
  rw [if_pos (not_not.mp hcall), ← huntouched.machine]
  have htriple := @indirectCallTarget_triple _ _ hbytes' instruction modrm
  obtain ⟨hsome, hmissing⟩ := htriple next (.refl next)
  have htarget : Reports True (indirectCallTarget instruction modrm : Exec σ (UInt64 × UInt64)) :=
    inferInstance
  refine Judged.front (htarget.reported hbytes') (fun last hrun => ?_) fun target last hrun _ => ?_
  · simp [(hmissing last hrun).1]
  · obtain ⟨hvalue, hkept⟩ := hsome target last hrun
    refine pushed_judged (hkept.machine ▸ hbytes') ?_ _ _
    rw [hkept.machine]
    simp [hvalue]

end Pushes

namespace Machine

/-- The multi-byte `nop` cannot read the bytes of the operand it skips. -/
def skipsUnreadable (machine : Machine σ) (instruction : DecodedInstruction) : Bool :=
  instruction.opcode == 0x0F && !instruction.rexW &&
    machine.byteAt instruction.nextAddress == some 0x1F &&
      match machine.byteAt (instruction.nextAddress + 1) with
      | none => true
      | some modrm => regField modrm == 0 && modField modrm != 3 &&
          (machine.effectiveAddress instruction (instruction.nextAddress + 1) modrm).isNone

end Machine

section Skips

variable {start : ExecutionContext σ} (hbytes : start.machine.memory.bytes ≠ 0)
  {instruction : DecodedInstruction}

instance (rejects : Prop) (mod rm : UInt8) (nextInstruction : UInt64) : Reports rejects
    (skipBaseBytes instruction mod rm nextInstruction : Exec σ UInt64) := by
  unfold skipBaseBytes
  infer_instance

include hbytes

/-- The displacement bytes of a mode are skipped exactly if they can be read. -/
theorem skipDisplacement_denotes {mod : UInt8} (hmod : mod ≠ 3) (nextInstruction : UInt64) :
    Denotes start
      (if mod = 1 then do
        let _ ← readU8 nextInstruction
        pure (nextInstruction + 1)
      else if mod = 2 then do
        let _ ← readU32 nextInstruction
        pure (nextInstruction + 4)
      else pure nextInstruction)
      ((start.machine.displacementAt nextInstruction (displacementWidth mod)).map fun _ =>
        nextInstruction + (displacementWidth mod).toUInt64) := by
  by_cases h1 : mod = 1
  · subst h1
    refine ((readU8_denotes hbytes nextInstruction).map _).congr ?_
    simp only [displacementWidth_one, Machine.displacementAt, Option.map_map]
    rfl
  by_cases h2 : mod = 2
  · subst h2
    refine ((readU32_denotes hbytes nextInstruction).map _).congr ?_
    simp only [displacementWidth_two, Machine.displacementAt, Option.map_map]
    rfl
  · have hwidth : displacementWidth mod = 0 := by rw [displacementWidth, if_neg h1, if_neg h2]
    rw [if_neg h1, if_neg h2, hwidth]
    refine (Denotes.pure nextInstruction).congr ?_
    simp [Machine.displacementAt]

/-- The bytes skipped behind a ModRM byte are those the effective address is made of. -/
theorem skipOperand_denotes {modrmAddress : UInt64} {modrm : UInt8}
    (hmod : modField modrm ≠ 3) :
    Denotes start
      (do
        let nextInstruction ←
          skipBaseBytes instruction (modField modrm) (rmField modrm) (modrmAddress + 1)
        if modField modrm = 1 then do
          let _ ← readU8 nextInstruction
          pure (nextInstruction + 1)
        else if modField modrm = 2 then do
          let _ ← readU32 nextInstruction
          pure (nextInstruction + 4)
        else pure nextInstruction)
      ((start.machine.effectiveAddress instruction modrmAddress modrm).map Prod.snd) := by
  rw [skipBaseBytes, Machine.effectiveAddress]
  by_cases hrm : rmField modrm = 4
  · simp only [if_pos hrm]
    have hbase : Denotes start
        (do
          let sib ← readU8 (modrmAddress + 1)
          if modField modrm = 0 ∧ rmField sib = 5 ∧ !instruction.rexB then do
            let _ ← readU32 (modrmAddress + 1 + 1)
            pure (modrmAddress + 1 + 1 + 4)
          else pure (modrmAddress + 1 + 1))
        ((start.machine.byteAt (modrmAddress + 1)).bind fun sib =>
          if modField modrm = 0 ∧ rmField sib = 5 ∧ !instruction.rexB then
            (start.machine.wordAt (modrmAddress + 1 + 1)).map fun _ => modrmAddress + 1 + 1 + 4
          else some (modrmAddress + 1 + 1)) := by
      refine (readU8_denotes hbytes _).bind fun sib _ => ?_
      split
      · exact (readU32_denotes hbytes _).map _
      · exact Denotes.pure _
    refine (hbase.bind fun next _ => skipDisplacement_denotes hbytes hmod next).congr ?_
    rw [Machine.sibAddress, show modrmAddress + 2 = modrmAddress + 1 + 1 by
      rw [UInt64.add_assoc]; rfl]
    cases start.machine.byteAt (modrmAddress + 1) with
    | none => rfl
    | some sib =>
      simp only [Option.bind_some]
      split
      · rename_i hnobase
        simp only [hnobase.1, displacementWidth_zero, Machine.displacementAt]
        cases start.machine.wordAt (modrmAddress + 1 + 1) <;> simp
      · simp [Option.map_map, Function.comp_def]
  · simp only [if_neg hrm]
    by_cases hrip : modField modrm = 0 ∧ rmField modrm = 5 ∧ !instruction.rexB
    · simp only [if_pos hrip]
      refine (((readU32_denotes hbytes (modrmAddress + 1)).map _).bind fun next _ =>
        skipDisplacement_denotes hbytes hmod next).congr ?_
      simp only [hrip.1, displacementWidth_zero, Machine.displacementAt]
      rw [show modrmAddress + 5 = modrmAddress + 1 + 4 by rw [UInt64.add_assoc]; rfl]
      cases start.machine.wordAt (modrmAddress + 1) <;> simp
    · simp only [if_neg hrip]
      refine ((Denotes.pure (modrmAddress + 1)).bind fun next _ =>
        skipDisplacement_denotes hbytes hmod next).congr ?_
      simp [Option.map_map, Function.comp_def]

/-- The operation field of a `nop`, if it can be read, is zero. -/
def Machine.SkipsNop (machine : Machine σ) (modrmAddress : UInt64) : Prop :=
  ∀ modrm, machine.byteAt modrmAddress = some modrm → regField modrm = 0

theorem trySkipModrmOperand_denotes {modrmAddress : UInt64}
    (hreg : start.machine.SkipsNop modrmAddress) :
    Denotes start (trySkipModrmOperand instruction modrmAddress)
      ((start.machine.byteAt modrmAddress).bind fun modrm =>
        if modField modrm = 3 then some (modrmAddress + 1)
        else (start.machine.effectiveAddress instruction modrmAddress modrm).map Prod.snd) := by
  unfold trySkipModrmOperand
  refine (readU8_denotes hbytes modrmAddress).bind fun modrm hmodrm => ?_
  rw [if_neg (not_not.mpr (hreg modrm hmodrm))]
  by_cases hmod : modField modrm = 3
  · rw [if_pos hmod, if_pos hmod]
    exact Denotes.pure _
  · rw [if_neg hmod, if_neg hmod]
    exact skipOperand_denotes hbytes hmod

/-- Skipping gives up only where it is refused a byte. -/
theorem trySkipModrmOperand_reports {modrmAddress : UInt64}
    (hreg : start.machine.SkipsNop modrmAddress) :
    ReportsAt False (trySkipModrmOperand instruction modrmAddress) start := by
  have hread : Reports False (readU8 modrmAddress : Exec σ UInt8) := inferInstance
  refine ReportsAt.bind (hread.reported hbytes) fun modrm next hrun hsteady => ?_
  have hmodrm := ((readU8_denotes hbytes modrmAddress start (.refl start)).1 modrm next hrun).1
  exact (Reports.ite_of (fun h => absurd (hreg modrm hmodrm) h) fun _ => inferInstance).reported
    (hsteady.1 ▸ hbytes)

/-- Another operation of the group is refused with all accesses in bounds. -/
theorem trySkipModrmOperand_of_reg {modrmAddress : UInt64} {modrm : UInt8}
    (hmodrm : start.machine.byteAt modrmAddress = some modrm) (hreg : regField modrm ≠ 0) :
    ∃ next, trySkipModrmOperand instruction modrmAddress start = (none, next) ∧
      Steady start next ∧
      ∀ access ∈ attempts (trySkipModrmOperand instruction modrmAddress : Exec σ UInt64) start,
        start.machine.memory.InBounds access := by
  have hread : Reports False (readU8 modrmAddress : Exec σ UInt8) := inferInstance
  obtain ⟨hsome, hnone⟩ := readU8_denotes hbytes modrmAddress start (.refl start)
  have hreports := @hread.reported start hbytes
  unfold ReportsAt at hreports
  rcases hbyte : readU8 modrmAddress start with ⟨_ | byte, next⟩
  · rw [(hnone next hbyte).1] at hmodrm
    cases hmodrm
  have heq := (hsome byte next hbyte).1
  rw [hmodrm] at heq
  obtain rfl := Option.some.inj heq
  rw [hbyte] at hreports
  refine ⟨next, ?_, hreports.1, ?_⟩
  · unfold trySkipModrmOperand
    simp only [Bind.bind, hbyte, if_pos hreg]
    rfl
  · have hrest : attempts (trySkipModrmOperand instruction modrmAddress : Exec σ UInt64) start =
        attempts (readU8 modrmAddress : Exec σ UInt8) start := by
      refine (attempts_bind_of_some (readU8 modrmAddress) _ hbyte).trans ?_
      show _ ++ (if regField modrm ≠ 0 then [] else _) = _
      rw [if_pos hreg, List.append_nil]
    rw [hrest]
    exact hreports.2

omit hbytes in
/-- The `nop` cannot read what it skips exactly if there is nothing behind it. -/
theorem skipsUnreadable_iff (hopcode : instruction.opcode = 0x0F) (hrex : instruction.rexW = false)
    (hsecondary : start.machine.byteAt instruction.nextAddress = some 0x1F)
    (hreg : start.machine.SkipsNop (instruction.nextAddress + 1)) :
    start.machine.skipsUnreadable instruction = true ↔
      ((start.machine.byteAt (instruction.nextAddress + 1)).bind fun modrm =>
        if modField modrm = 3 then some (instruction.nextAddress + 1 + 1)
        else (start.machine.effectiveAddress instruction (instruction.nextAddress + 1) modrm).map
          Prod.snd) = none := by
  rw [Machine.skipsUnreadable, hopcode, hrex, hsecondary]
  cases hmodrm : start.machine.byteAt (instruction.nextAddress + 1) with
  | none => simp
  | some modrm =>
    rw [Option.bind_some]
    by_cases hmod : modField modrm = 3 <;> simp [hreg modrm hmodrm, hmod]

/-- A multi-byte `nop` is accurately reported unless it cannot read what it skips. -/
theorem executeX64SecondaryNop_judged (hopcode : instruction.opcode = 0x0F)
    (hrex : instruction.rexW = false)
    (hsecondary : start.machine.byteAt instruction.nextAddress = some 0x1F) :
    Judged (start.machine.skipsUnreadable instruction = true)
      (executeX64SecondaryNop instruction) start := by
  let modrmAddress := instruction.nextAddress + 1
  let skip : Exec σ UInt64 := trySkipModrmOperand instruction modrmAddress
  let repaired : Exec σ UInt64 := Attempt.onFailure
    (ExecutionContext.mapResult (EmulatorResult.setUnsupportedInstruction 0x1F)) skip
  have hcontinue (target : UInt64) : Reports True (continueAt target : Exec σ _) := inferInstance
  suffices hjudged : Judged (start.machine.skipsUnreadable instruction = true) repaired start from
    hjudged.back fun target _ hsteady => (hcontinue target).reported (hsteady.1 ▸ hbytes)
  have hattempts : attempts repaired start = attempts skip start := rfl
  unfold Judged
  rw [hattempts]
  have hrun (next) (hskip : skip start = (none, next)) : repaired start =
      (none, next.mapResult (EmulatorResult.setUnsupportedInstruction 0x1F)) := by
    rw [show repaired start = Attempt.onFailure _ skip start from rfl, Attempt.onFailure, hskip]
  by_cases hreg : start.machine.SkipsNop modrmAddress
  · have hreports : Reported False start (attempts skip start) (skip start) :=
      trySkipModrmOperand_reports hbytes hreg
    obtain ⟨hsome, hnone⟩ :=
      @trySkipModrmOperand_denotes _ _ hbytes instruction _ hreg start (.refl start)
    rw [skipsUnreadable_iff hopcode hrex hsecondary hreg]
    rcases hskip : skip start with ⟨_ | target, next⟩
    · rw [hrun next hskip]
      rw [hskip] at hreports
      obtain ⟨hsteady, hrefusal | hrejects⟩ := hreports
      · refine ⟨hsteady, iff_of_false (hrefusal.not_accurate GuestStopReason.noConfusion) ?_⟩
        exact not_not.mpr (hnone next hskip).1
      · exact hrejects.1.elim
    · rw [show repaired start = (some target, next) by
        rw [show repaired start = Attempt.onFailure _ skip start from rfl, Attempt.onFailure, hskip]]
      rw [hskip] at hreports
      refine ⟨hreports.1, hreports.2, fun hmissing => ?_⟩
      rw [(hsome target next hskip).1] at hmissing
      cases hmissing
  · simp only [Machine.SkipsNop, not_forall] at hreg
    obtain ⟨modrm, hmodrm, hreg⟩ := hreg
    obtain ⟨next, hskip, hsteady, hin⟩ :=
      @trySkipModrmOperand_of_reg _ _ hbytes instruction _ _ hmodrm hreg
    rw [hrun next hskip]
    refine ⟨hsteady, iff_of_true ?_ ?_⟩
    · rw [accurate_of_inBounds hin]
      exact GuestStopReason.noConfusion
    · simp [Machine.skipsUnreadable, show start.machine.byteAt (instruction.nextAddress + 1) = _
        from hmodrm, hreg]

end Skips

section Steps

variable {start : ExecutionContext σ} (hbytes : start.machine.memory.bytes ≠ 0)
  {callbacks : Callbacks σ} (hcallback : callbacks.handleSyscall.isSome)
  {instruction : DecodedInstruction}

/-- A syscall never gives up. -/
theorem executeX64Syscall_reports (hcallback : callbacks.handleSyscall.isSome) :
    Reports True (executeX64Syscall callbacks instruction) where
  reported {start} _ := by
    obtain ⟨handleSyscall, hhandle⟩ := Option.isSome_iff_exists.mp hcallback
    have hattempts : attempts (executeX64Syscall callbacks instruction) start = [] := rfl
    obtain ⟨outcome, next, hrun, hsteady⟩ : ∃ outcome next,
        executeX64Syscall callbacks instruction start = (some outcome, next) ∧
          Steady start next := by
      simp only [executeX64Syscall, callHandler, hhandle, Bind.bind, setInstructionPointer,
        setMachine, Attempt.update]
      rcases handleSyscall _ _ _ with ⟨⟨status, action⟩, host, world⟩
      cases action
      · exact ⟨_, _, rfl, rfl, rfl⟩
      · exact ⟨_, _, rfl, rfl, rfl⟩
      · exact ⟨_, _, rfl, rfl, rfl⟩
    unfold ReportsAt
    rw [hattempts, hrun]
    exact ⟨hsteady, List.forall_mem_nil _⟩

include hbytes

/-- The prefix loop reports the byte it cannot fetch; it never runs out of its bound. -/
theorem decodePrefixes_reports {fuel : Nat}
    (hfuel : start.machine.memory.size.toNat ≤ fuel +
      (instruction.opcodeAddress - start.machine.memory.baseAddress).toNat)
    (hlt : (instruction.opcodeAddress - start.machine.memory.baseAddress).toNat <
      start.machine.memory.size.toNat) :
    ReportsAt False (decodePrefixes fuel instruction) start := by
  induction fuel generalizing instruction start with
  | zero => omega
  | succ fuel ih =>
    cases hprefixed : instruction.applyPrefix with
    | none =>
      have hrun : decodePrefixes (fuel + 1) instruction start = (some instruction, start) := by
        rw [decodePrefixes, hprefixed]
        rfl
      have hattempts : attempts (decodePrefixes (fuel + 1) instruction : Exec σ _) start = [] := by
        rw [attempts, decodePrefixes_tracked, hprefixed]
      unfold ReportsAt
      rw [hrun, hattempts]
      exact ⟨.refl _, List.forall_mem_nil _⟩
    | some prefixed =>
      rw [← applyPrefix_opcodeAddress hprefixed] at hfuel hlt
      let rest (opcode : UInt8) : Exec σ DecodedInstruction := decodePrefixes fuel
        { prefixed with opcodeAddress := prefixed.opcodeAddress + 1, opcode := opcode }
      have hrun : decodePrefixes (fuel + 1) instruction start =
          (readOpcode (prefixed.opcodeAddress + 1) >>= rest) start := by
        rw [decodePrefixes, hprefixed]
      have hattempts : attempts (decodePrefixes (fuel + 1) instruction : Exec σ _) start =
          attempts (readOpcode (prefixed.opcodeAddress + 1) >>= rest) start := by
        rw [attempts, decodePrefixes_tracked, hprefixed]
      unfold ReportsAt
      rw [hrun, hattempts]
      have hread : Reports False (readOpcode (prefixed.opcodeAddress + 1) : Exec σ UInt8) :=
        inferInstance
      refine ReportsAt.bind (hread.reported hbytes) fun opcode next hopcode hsteady => ?_
      obtain ⟨hsome, -⟩ := readOpcode_denotes hbytes (prefixed.opcodeAddress + 1) start (.refl start)
      have hnext := offset_succ hlt
      have hinside := Machine.offset_lt_of_byteAt (hsome opcode next hopcode).1
      refine ih (hsteady.1 ▸ hbytes) ?_ ?_
      · rw [hsteady.1]
        show _ ≤ fuel + (prefixed.opcodeAddress + 1 - _).toNat
        omega
      · rw [hsteady.1]
        exact hinside

/-- The decoder reports the byte it cannot fetch. -/
theorem decodeX64Instruction_reports :
    ReportsAt False (decodeX64Instruction : Exec σ DecodedInstruction) start := by
  have hread (f : ExecutionContext σ → UInt64) : Reports False (Attempt.read f) := inferInstance
  have hopcode : Reports False
      (readOpcode start.machine.state.instructionPointer : Exec σ UInt8) := inferInstance
  unfold decodeX64Instruction
  refine ReportsAt.bind ((hread _).reported hbytes) fun _ _ hpointer _ => ?_
  obtain ⟨hpointerValue, rfl⟩ := Prod.mk.inj hpointer
  obtain rfl := Option.some.inj hpointerValue
  refine ReportsAt.bind ((hread _).reported hbytes) fun _ _ hsize _ => ?_
  obtain ⟨hsizeValue, rfl⟩ := Prod.mk.inj hsize
  obtain rfl := Option.some.inj hsizeValue
  refine ReportsAt.bind (hopcode.reported hbytes) fun opcode next hrun hsteady => ?_
  obtain ⟨hsome, -⟩ := readOpcode_denotes hbytes _ _ (.refl _)
  have hinside := Machine.offset_lt_of_byteAt (hsome opcode next hrun).1
  refine ReportsAt.bind (decodePrefixes_reports (hsteady.1 ▸ hbytes) ?_ ?_) fun _ _ _ _ => ?_
  · rw [hsteady.1]
    exact Nat.le_add_right _ _
  · rw [hsteady.1]
    exact hinside
  · exact ⟨.refl _, List.forall_mem_nil _⟩

/-- A primary opcode is accurately reported unless it pushes below the region. -/
theorem primaryOpcodeHandler_judged :
    Judged (start.machine.pushesTooLow instruction = true)
      (primaryOpcodeHandler instruction.opcode instruction) start := by
  have hplain (h : ¬ Pushes instruction.opcode) {x : Exec σ InstructionOutcome} [Tracked x]
      [Reports True x] : Judged (start.machine.pushesTooLow instruction = true) x start :=
    judged_of_reports hbytes (by simp [Machine.pushesTooLow, reachesPush_of_not_pushes h])
  unfold primaryOpcodeHandler
  iterate 17 refine Judged.entry (fun h => hplain (by rw [h]; decide)) fun _ => ?_
  refine Judged.entry (executeX64CallRelative_judged hbytes) fun hcall => ?_
  iterate 4 refine Judged.entry (fun h => hplain (by rw [h]; decide)) fun _ => ?_
  refine Judged.entry (executeX64GroupFf_judged hbytes) fun hgroup => ?_
  refine Judged.entry (fun h => executeX64PushRegister_judged hbytes h.1 h.2) fun hpush => ?_
  refine Judged.entry
    (fun h => hplain (not_pushes_of_range h.1 h.2 (by decide) (by decide))) fun _ => ?_
  refine Judged.entry
    (fun h => hplain (not_pushes_of_range h.1 h.2 (by decide) (by decide))) fun _ => ?_
  apply hplain
  rintro (h | h | h)
  · exact hpush h
  · exact hcall h
  · exact hgroup h

/-- A secondary opcode is accurately reported unless it is a `nop` whose bytes are missing. -/
theorem secondaryOpcodeHandler_judged (hcallback : callbacks.handleSyscall.isSome)
    {secondaryOpcode : UInt8} (hopcode : instruction.opcode = 0x0F)
    (hrex : instruction.rexW = false)
    (hsecondary : start.machine.byteAt instruction.nextAddress = some secondaryOpcode) :
    Judged (start.machine.skipsUnreadable instruction = true)
      (secondaryOpcodeHandler callbacks secondaryOpcode instruction) start := by
  by_cases hnop : secondaryOpcode = 0x1F
  · subst hnop
    unfold secondaryOpcodeHandler
    iterate 15 refine Judged.entry (fun h => absurd h (by decide)) fun _ => ?_
    exact Judged.entry (fun _ => executeX64SecondaryNop_judged hbytes hopcode hrex hsecondary)
      fun h => absurd rfl h
  have hplain {x : Exec σ InstructionOutcome} [Tracked x] [Reports True x] :
      Judged (start.machine.skipsUnreadable instruction = true) x start :=
    judged_of_reports hbytes (by simp [Machine.skipsUnreadable, hsecondary, hnop])
  have hsyscall : Reports True (executeX64Syscall callbacks instruction) :=
    executeX64Syscall_reports hcallback
  unfold secondaryOpcodeHandler
  iterate 15 refine Judged.entry (fun _ => hplain) fun _ => ?_
  exact Judged.entry (fun h => absurd h hnop) fun _ => hplain

namespace Machine

/-- The report of a fault of the instruction is wrong. -/
def misreports (machine : Machine σ) (instruction : DecodedInstruction) : Bool :=
  machine.pushesTooLow instruction || machine.skipsUnreadable instruction

end Machine

/-- Behind the bookkeeping of dispatch, the handlers decide. -/
theorem dispatch_judged (hcallback : callbacks.handleSyscall.isSome) :
    Judged (start.machine.misreports instruction = true)
      (if instruction.opcode = 0x0F then dispatchSecondaryOpcode callbacks instruction
        else primaryOpcodeHandler instruction.opcode instruction) start := by
  apply Judged.ite
  · intro hopcode
    have hpush : start.machine.pushesTooLow instruction = false := by
      rw [Machine.pushesTooLow, reachesPush_of_not_pushes (by rw [hopcode]; decide)]
      rfl
    rw [Machine.misreports, hpush, Bool.false_or]
    unfold dispatchSecondaryOpcode
    apply Judged.ite
    · intro hrex
      exact judged_of_reports hbytes (by simp [Machine.skipsUnreadable, hrex])
    intro hrex
    refine Judged.denotes hbytes (readOpcode_denotes hbytes _)
      (fun hmissing => by simp [Machine.skipsUnreadable, hmissing])
      fun secondaryOpcode next hsecondary huntouched => ?_
    have hmark : Reports True (setResult (EmulatorResult.setFaultOpcode secondaryOpcode) :
        Exec σ Unit) := .update fun _ => ⟨rfl, rfl⟩
    refine Judged.front (hmark.reported (huntouched.machine ▸ hbytes)) (fun _ hrun => by cases hrun)
      fun _ last hrun _ => ?_
    obtain ⟨-, rfl⟩ := Prod.mk.inj hrun
    rw [← huntouched.machine]
    refine secondaryOpcodeHandler_judged ?_ hcallback hopcode (by simpa using hrex) ?_
    · exact huntouched.machine ▸ hbytes
    · rw [← huntouched.machine] at hsecondary
      exact hsecondary
  · intro hprimary
    have hskip : start.machine.skipsUnreadable instruction = false := by
      simp [Machine.skipsUnreadable, hprimary]
    rw [Machine.misreports, hskip, Bool.or_false]
    exact primaryOpcodeHandler_judged hbytes

end Steps

section FetchedAddress

variable {machine : Machine σ} {instruction fetched : DecodedInstruction}

theorem applyPrefix_address {prefixed : DecodedInstruction}
    (h : instruction.applyPrefix = some prefixed) : prefixed.address = instruction.address := by
  unfold DecodedInstruction.applyPrefix at h
  repeat' split at h
  all_goals first | (obtain rfl := Option.some.inj h; rfl) | cases h

/-- Prefixes do not move the address, by induction on the bytes left. -/
theorem decodeFrom_address {fuel : Nat}
    (h : machine.decodeFrom fuel instruction = some fetched) :
    fetched.address = instruction.address := by
  induction fuel generalizing instruction with
  | zero => cases h
  | succ fuel ih =>
    unfold Machine.decodeFrom at h
    cases hprefixed : instruction.applyPrefix with
    | none =>
      rw [hprefixed] at h
      obtain rfl := Option.some.inj h
      rfl
    | some prefixed =>
      rw [hprefixed] at h
      obtain ⟨opcode, -, hrest⟩ := Option.bind_eq_some_iff.mp h
      rw [ih hrest, ← applyPrefix_address hprefixed]

/-- The address of the instruction is the instruction pointer. -/
theorem fetchInstruction_address (h : machine.fetchInstruction = some fetched) :
    fetched.address = machine.state.instructionPointer := by
  obtain ⟨opcode, -, h⟩ := Option.bind_eq_some_iff.mp h
  obtain ⟨decoded, hdecoded, rfl⟩ := Option.map_eq_some_iff.mp h
  exact decodeFrom_address hdecoded

end FetchedAddress

/-- The report of a fault at the instruction pointer would be wrong: the instruction cannot be
fetched and another one is on record, or the instruction misreports. -/
def ExecutionContext.misreports (context : ExecutionContext σ) : Bool :=
  match context.machine.fetchInstruction with
  | none => context.result.fault.instructionPointer != context.machine.state.instructionPointer
  | some instruction => context.machine.misreports instruction

/-- The report of a fault of the instruction at the instruction pointer of `last` is right about
its accesses and about the instruction. -/
def ReportedAccurately (callbacks : Callbacks σ) (last final : ExecutionContext σ) : Prop :=
  Accurate last.machine.memory (attempts (interpretInstruction callbacks) last) final.result ∧
    final.result.fault.instructionPointer = last.machine.state.instructionPointer

section Interpretation

variable {callbacks : Callbacks σ} {last : ExecutionContext σ}
  (hcallback : callbacks.handleSyscall.isSome) (hbytes : last.machine.memory.bytes ≠ 0)

include hbytes

/-- Where nothing can be fetched, the record keeps its instruction pointer. -/
theorem interpretInstruction_of_no_fetch (hfetch : last.machine.fetchInstruction = none) :
    ∃ next, interpretInstruction callbacks last = (none, next) ∧
      Accurate last.machine.memory (attempts (interpretInstruction callbacks) last) next.result ∧
      next.result.fault.instructionPointer = last.result.fault.instructionPointer := by
  obtain ⟨hsome, -⟩ := decodeX64Instruction_denotes hbytes last (.refl last)
  have hreports := decodeX64Instruction_reports hbytes
  unfold ReportsAt at hreports
  rcases hdecode : decodeX64Instruction last with ⟨_ | instruction, next⟩
  · rw [hdecode] at hreports
    obtain ⟨hsteady, hrefusal | hrejects⟩ := hreports
    · have hattempts : attempts (interpretInstruction callbacks) last =
          attempts (decodeX64Instruction : Exec σ DecodedInstruction) last := by
        show _ ++ _ = _
        rw [hdecode, List.append_nil]
      refine ⟨next, ?_, hattempts ▸ hrefusal.accurate, hsteady.2⟩
      simp only [interpretInstruction, Bind.bind, hdecode]
    · exact hrejects.1.elim
  · rw [hfetch] at hsome
    cases (hsome instruction next hdecode).1

include hcallback

/-- Where an instruction is fetched, the record names it, and is accurate unless it misreports. -/
theorem interpretInstruction_of_fetch {instruction : DecodedInstruction}
    (hfetch : last.machine.fetchInstruction = some instruction) :
    (last.machine.misreports instruction = true →
      ∃ next, interpretInstruction callbacks last = (none, next)) ∧
    ∀ next, interpretInstruction callbacks last = (none, next) →
      (Accurate last.machine.memory (attempts (interpretInstruction callbacks) last) next.result ↔
        ¬ last.machine.misreports instruction = true) ∧
      next.result.fault.instructionPointer = last.machine.state.instructionPointer := by
  obtain ⟨hsome, hnone⟩ := decodeX64Instruction_denotes hbytes last (.refl last)
  have hreports := decodeX64Instruction_reports hbytes
  unfold ReportsAt at hreports
  rcases hdecode : decodeX64Instruction last with ⟨_ | decoded, middle⟩
  · rw [hfetch] at hnone
    cases (hnone middle hdecode).1
  obtain ⟨hvalue, huntouched⟩ := hsome decoded middle hdecode
  rw [hfetch] at hvalue
  obtain rfl := Option.some.inj hvalue
  rw [hdecode] at hreports
  let dispatched := middle.mapResult (EmulatorResult.setFault instruction)
  let rest : Exec σ InstructionOutcome :=
    (if instruction.opcode = 0x0F then dispatchSecondaryOpcode callbacks instruction
      else primaryOpcodeHandler instruction.opcode instruction) >>= fun outcome =>
        setResult EmulatorResult.countRetired >>= fun _ => pure outcome
  have hrun : interpretInstruction callbacks last = rest dispatched := by
    simp only [interpretInstruction, Bind.bind, hdecode]
    rfl
  have hattempts : attempts (interpretInstruction callbacks) last =
      attempts (decodeX64Instruction : Exec σ DecodedInstruction) last ++
        attempts rest dispatched :=
    attempts_bind_of_some decodeX64Instruction _ hdecode
  have hmachine : dispatched.machine = last.machine := huntouched.machine
  have hjudged : Judged (last.machine.misreports instruction = true) rest dispatched := by
    rw [← hmachine]
    refine (dispatch_judged (hmachine ▸ hbytes) hcallback).back fun outcome next hsteady => ?_
    have hcount : Reports True (setResult EmulatorResult.countRetired >>= fun _ => pure outcome :
        Exec σ InstructionOutcome) :=
      @Reports.bind _ _ _ _ _ _ _ _ (.update fun _ => ⟨rfl, rfl⟩) fun _ => inferInstance
    exact hcount.reported (by rw [hsteady.1, hmachine]; exact hbytes)
  unfold Judged at hjudged
  rw [hrun, hattempts]
  rcases hrest : rest dispatched with ⟨_ | outcome, next⟩
  · rw [hrest] at hjudged
    obtain ⟨hsteady, haccurate⟩ := hjudged
    refine ⟨fun _ => ⟨next, rfl⟩, fun next' heq => ?_⟩
    obtain ⟨-, rfl⟩ := Prod.mk.inj heq
    refine ⟨?_, hsteady.2.trans (fetchInstruction_address hfetch)⟩
    rw [hmachine] at haccurate
    rw [accurate_append hreports.2]
    exact haccurate
  · rw [hrest] at hjudged
    exact ⟨fun hwrong => absurd hwrong hjudged.2.2, fun next' heq => by cases heq⟩

/-- A context whose report would be wrong faults. -/
theorem interpretInstruction_of_misreports (h : last.misreports = true) :
    ∃ next, interpretInstruction callbacks last = (none, next) := by
  unfold ExecutionContext.misreports at h
  cases hfetch : last.machine.fetchInstruction with
  | none =>
    obtain ⟨next, hrun, -⟩ := @interpretInstruction_of_no_fetch _ callbacks _ hbytes hfetch
    exact ⟨next, hrun⟩
  | some instruction =>
    rw [hfetch] at h
    exact (interpretInstruction_of_fetch hcallback hbytes hfetch).1 h

/-- A fault is reported accurately exactly if the context does not misreport. -/
theorem reportedAccurately_iff {next : ExecutionContext σ}
    (hstep : interpretInstruction callbacks last = (none, next)) :
    ReportedAccurately callbacks last next ↔ ¬ last.misreports = true := by
  unfold ReportedAccurately ExecutionContext.misreports
  cases hfetch : last.machine.fetchInstruction with
  | none =>
    obtain ⟨next', hrun, haccurate, hpointer⟩ :=
      @interpretInstruction_of_no_fetch _ callbacks _ hbytes hfetch
    rw [hrun] at hstep
    obtain ⟨-, rfl⟩ := Prod.mk.inj hstep
    simp [haccurate, hpointer]
  | some instruction =>
    obtain ⟨haccurate, hpointer⟩ :=
      (interpretInstruction_of_fetch hcallback hbytes hfetch).2 next hstep
    simp only [haccurate, hpointer, and_true]

end Interpretation

/-- If the run stops at a guest fault, the report is right about the accesses the faulting
instruction attempted and about its address. -/
def FaultsAccurately (machine : Machine σ) (callbacks : Callbacks σ) (options : Options) : Prop :=
  OnFault machine callbacks options (ReportedAccurately callbacks)

/-- Fault reports are accurate exactly when the run comes to no instruction whose report is
wrong. -/
theorem faultsAccurately_iff (machine : Machine σ) (callbacks : Callbacks σ) (options : Options) :
    FaultsAccurately machine callbacks options ↔
      ¬ Reaches machine callbacks options fun last => last.misreports = true :=
  onFault_iff (fun hcallback _ hbytes => interpretInstruction_of_misreports hcallback hbytes)
    fun hcallback _ _ hbytes => reportedAccurately_iff hcallback hbytes

/-- After a `jmp` beyond the region the report names the `jmp`. -/
theorem jumpBeyondRegion_misreported :
    ¬ FaultsAccurately (sampleMachine [0xEB, 0x20] 0x1010) exitingCallbacks ⟨.interpreter, 8⟩ := by
  intro h
  have hretired : (runX64Emulator (sampleMachine [0xEB, 0x20] 0x1010) exitingCallbacks
      ⟨.interpreter, 8⟩).result.retiredInstructions.toNat = 1 := by decide +kernel
  obtain ⟨last, hlast, -, hpointer⟩ := h (.inl (by decide +kernel))
  have hnext : (retire exitingCallbacks 1 (ExecutionContext.start
      (sampleMachine [0xEB, 0x20] 0x1010))).map (fun last => last.machine.state.instructionPointer) =
        some 0x1022 := by decide +kernel
  have hrecord : (runX64Emulator (sampleMachine [0xEB, 0x20] 0x1010) exitingCallbacks
      ⟨.interpreter, 8⟩).result.fault.instructionPointer = 0x1000 := by decide +kernel
  rw [hretired] at hlast
  rw [hlast, Option.map_some, ← hpointer, hrecord] at hnext
  exact absurd hnext (by decide)

end Ringos.Emulator
