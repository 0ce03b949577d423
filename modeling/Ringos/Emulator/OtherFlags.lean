import Ringos.Emulator.Faults
import Ringos.Emulator.OperandDecoders
import Ringos.Emulator.Splitting

/-!
# The flags that no instruction computes

Logic, comparisons and additions replace the status flags and carry the other
ones over; the increments of a register start from the carry flag alone. A run
keeps the other flags, and shows them to every syscall, exactly if it has none to
lose or executes no such increment.
-/

namespace Ringos.Emulator

open Ringos.Core
open Exec

variable {σ : Type}

/-- The flags other than carry, parity, auxiliary carry, zero, sign and overflow. -/
def otherFlags : UInt64 := ~~~0x8D5

/-- The flags at the entry of `run_x64_emulator`, which sets the reserved one. -/
def enteredFlags (machine : Machine σ) (options : Options) : UInt64 :=
  if options.engine = .interpreter then machine.state.flags ||| rflagsReserved
  else machine.state.flags

/-- At its end and at every syscall, a run has the other flags that it entered with. -/
def KeepsOtherFlags (machine : Machine σ) (callbacks : Callbacks σ) (options : Options) : Prop :=
  let final := (runX64Emulator machine.recorded callbacks.recorded options).machine
  let kept := enteredFlags machine options &&& otherFlags
  final.state.flags &&& otherFlags = kept ∧
    ∀ invocation ∈ final.world.2, invocation.1.flags &&& otherFlags = kept

/-- The guest is at an increment or a decrement of a register. -/
def Machine.atIncrement (machine : Machine σ) : Bool :=
  machine.fetchInstruction.any fun instruction =>
    instruction.opcode == 0xFF && (machine.byteAt instruction.nextAddress).any fun modrm =>
      decide (regField modrm = 0 ∨ regField modrm = 1) && modField modrm == 3

theorem Machine.atIncrement_iff {machine : Machine σ} :
    machine.atIncrement = true ↔ ∃ instruction, machine.fetchInstruction = some instruction ∧
      instruction.opcode = 0xFF ∧ ∃ modrm, machine.byteAt instruction.nextAddress = some modrm ∧
      (regField modrm = 0 ∨ regField modrm = 1) ∧ modField modrm = 3 := by
  simp only [atIncrement, Option.any_eq_true, Bool.and_eq_true, beq_iff_eq, decide_eq_true_eq]

/-- No instruction that a run executes is an increment or a decrement of a register. -/
def RunsNoIncrement (machine : Machine σ) (callbacks : Callbacks σ) (options : Options) : Prop :=
  options.engine = .interpreter →
    isValidInvocation machine.recorded.memory callbacks.recorded options = true →
    ∀ count < options.instructionBudget.toNat, ∀ context,
      retire callbacks.recorded count (.start machine.recorded) = some context →
      context.machine.atIncrement = false

section Words

theorem or_and_distrib (a b mask : UInt64) : (a ||| b) &&& mask = a &&& mask ||| b &&& mask := by
  apply UInt64.toBitVec_inj.mp
  ext i hi
  simp [Bool.and_or_distrib_right]

/-- A flag that is not among the others. -/
theorem or_flagIf_other (flags : UInt64) (condition : Bool) {flag : UInt64}
    (hflag : flag &&& otherFlags = 0) :
    (flags ||| flagIf condition flag) &&& otherFlags = flags &&& otherFlags := by
  rw [or_and_distrib]
  cases condition with
  | false => simp [flagIf]
  | true => simp [flagIf, hflag]

theorem clearedFlags_other (flags : UInt64) :
    clearedFlags flags &&& otherFlags = flags &&& otherFlags ||| rflagsReserved := by
  have hmask : ~~~(rflagsCarry ||| rflagsZero ||| rflagsSign ||| rflagsOverflow) &&& otherFlags =
      otherFlags := by decide
  have hreserved : rflagsReserved &&& otherFlags = rflagsReserved := by decide
  rw [clearedFlags, or_and_distrib, UInt64.and_assoc, hmask, hreserved]

theorem logicFlags_other (flags value : UInt64) (is64Bit : Bool) :
    logicFlags flags value is64Bit &&& otherFlags = flags &&& otherFlags ||| rflagsReserved := by
  have hzero : rflagsZero &&& otherFlags = 0 := by decide
  have hsign : rflagsSign &&& otherFlags = 0 := by decide
  simp only [logicFlags, or_flagIf_other _ _ hzero, or_flagIf_other _ _ hsign, clearedFlags_other]

theorem compareFlags_other (flags lhs rhs result : UInt64) (is64Bit : Bool) :
    compareFlags flags lhs rhs result is64Bit &&& otherFlags =
      flags &&& otherFlags ||| rflagsReserved := by
  have hzero : rflagsZero &&& otherFlags = 0 := by decide
  have hsign : rflagsSign &&& otherFlags = 0 := by decide
  have hcarry : rflagsCarry &&& otherFlags = 0 := by decide
  have hoverflow : rflagsOverflow &&& otherFlags = 0 := by decide
  simp only [compareFlags, or_flagIf_other _ _ hzero, or_flagIf_other _ _ hsign,
    or_flagIf_other _ _ hcarry, or_flagIf_other _ _ hoverflow, clearedFlags_other]

theorem addFlags_other (flags lhs rhs result : UInt64) (is64Bit : Bool) :
    addFlags flags lhs rhs result is64Bit &&& otherFlags =
      flags &&& otherFlags ||| rflagsReserved := by
  have hzero : rflagsZero &&& otherFlags = 0 := by decide
  have hsign : rflagsSign &&& otherFlags = 0 := by decide
  have hcarry : rflagsCarry &&& otherFlags = 0 := by decide
  have hoverflow : rflagsOverflow &&& otherFlags = 0 := by decide
  simp only [addFlags, or_flagIf_other _ _ hzero, or_flagIf_other _ _ hsign,
    or_flagIf_other _ _ hcarry, or_flagIf_other _ _ hoverflow, clearedFlags_other]

/-- The increments leave only the reserved flag. -/
theorem incDecFlags_other (flags lhs result : UInt64) (isDecrement is64Bit : Bool) :
    incDecFlags flags lhs result isDecrement is64Bit &&& otherFlags = rflagsReserved := by
  have hzero : rflagsZero &&& otherFlags = 0 := by decide
  have hsign : rflagsSign &&& otherFlags = 0 := by decide
  have hoverflow : rflagsOverflow &&& otherFlags = 0 := by decide
  have hcarry : rflagsCarry &&& otherFlags = 0 := by decide
  have hreserved : rflagsReserved &&& otherFlags = rflagsReserved := by decide
  simp only [incDecFlags, or_flagIf_other _ _ hzero, or_flagIf_other _ _ hsign,
    or_flagIf_other _ _ hoverflow, or_and_distrib, UInt64.and_assoc, hcarry, hreserved,
    UInt64.and_zero, UInt64.zero_or]

/-- What a run enters with has the reserved flag. -/
theorem entered_or_reserved (flags : UInt64) :
    ((flags ||| rflagsReserved) &&& otherFlags) ||| rflagsReserved =
      (flags ||| rflagsReserved) &&& otherFlags := by
  have hreserved : rflagsReserved &&& otherFlags = rflagsReserved := by decide
  rw [or_and_distrib, hreserved, UInt64.or_assoc, UInt64.or_self]

end Words

/-- The other flags are the given ones, and those of all syscalls after some past ones were. -/
structure Carries (kept : UInt64) (past : List Invocation)
    (context : ExecutionContext (σ × List Invocation)) : Prop where
  flags : context.machine.state.flags &&& otherFlags = kept
  calls : ∃ calls, context.machine.world.2 = past ++ calls ∧
    ∀ call ∈ calls, call.1.flags &&& otherFlags = kept

section Steps

variable {kept : UInt64} {past : List Invocation}
  {context : ExecutionContext (σ × List Invocation)} {callbacks : Callbacks σ}

theorem Carries.mapResult (h : Carries kept past context) (f : EmulatorResult → EmulatorResult) :
    Carries kept past (context.mapResult f) := ⟨h.flags, h.calls⟩

/-- A change of the flags. -/
theorem keeps_changeFlags {f : UInt64 → UInt64}
    (hf : ∀ flags, flags &&& otherFlags = kept → f flags &&& otherFlags = kept) :
    Attempt.Keeps (Carries kept past)
      (getFlags >>= fun flags => setFlags (f flags) : Exec (σ × List Invocation) Unit) where
  kept {context} h := ⟨hf context.machine.state.flags h.flags, h.calls⟩

theorem keeps_setResult (f : EmulatorResult → EmulatorResult) :
    Attempt.Keeps (Carries kept past) (setResult f : Exec (σ × List Invocation) Unit) :=
  .update fun _ h => h.mapResult f

/-- The accessors keep the other flags, and composition does. -/
theorem compositional_carries (hkept : kept ||| rflagsReserved = kept) :
    Compositional fun _ (x : Exec (σ × List Invocation) _) =>
      Attempt.Keeps (Carries kept past) x where
  pure a := .pure a
  fail := .fail
  bind hx hf := @Attempt.Keeps.bind _ _ _ _ _ _ hx hf
  onFailure {_ x f} _ hx := ⟨fun {context} h => by
    have hlast := hx.kept h
    rw [Attempt.onFailure]
    rcases hrun : x context with ⟨_ | a, next⟩
    · rw [hrun] at hlast
      exact hlast.mapResult f
    · rw [hrun] at hlast
      exact hlast⟩
  readMachine f := .read _
  setMachine {f} hf := .update fun context h =>
    ⟨by rw [ExecutionContext.mapMachine, (hf context.machine).1]; exact h.flags,
      by rw [ExecutionContext.mapMachine, (hf context.machine).2]; exact h.calls⟩
  setResult {f} _ := keeps_setResult f
  note access := .update fun _ h => ⟨h.flags, h.calls⟩
  translateGuestPointer guestAddress length := by
    have hrefused (opcode : UInt8) := @keeps_setResult σ kept past
      (EmulatorResult.setInvalidMemoryAccess guestAddress opcode)
    unfold translateGuestPointer
    infer_instance
  refuse guestAddress hx := by
    have hrefused (opcode : UInt8) := @keeps_setResult σ kept past
      (EmulatorResult.setInvalidMemoryAccess guestAddress opcode)
    infer_instance
  setLogicFlags value is64Bit := keeps_changeFlags fun flags h => by
    rw [logicFlags_other, h, hkept]
  setCompareFlags lhs rhs result is64Bit := keeps_changeFlags fun flags h => by
    rw [compareFlags_other, h, hkept]
  setAddFlags lhs rhs result is64Bit := keeps_changeFlags fun flags h => by
    rw [addFlags_other, h, hkept]

/-- The syscall handler is called with the flags of the guest. -/
theorem callHandler_carries :
    Attempt.Keeps (Carries kept past) (callHandler callbacks.recorded) where
  kept {context} h := by
    unfold callHandler Callbacks.recorded
    cases callbacks.handleSyscall with
    | none => exact h
    | some handleSyscall =>
      obtain ⟨calls, hworld, hcalls⟩ := h.calls
      rcases hanswer : handleSyscall context.machine.state context.machine.host
        context.machine.world.1 with ⟨answer, host, world⟩
      refine ⟨h.flags, calls ++ [(context.machine.state, answer)], ?_, ?_⟩
      · simp [hanswer, hworld]
      · intro call hcall
        rcases List.mem_append.mp hcall with hearlier | hlast
        · exact hcalls call hearlier
        · rw [List.mem_singleton.mp hlast]
          exact h.flags

/-- An instruction of `FF` that is no increment keeps the other flags. -/
theorem executeX64GroupFf_carries {instruction : DecodedInstruction}
    (hkept : kept ||| rflagsReserved = kept) (h : Carries kept past context)
    (hmodrm : ∀ modrm, (readU8 instruction.nextAddress context).1 = some modrm →
      ¬ ((regField modrm = 0 ∨ regField modrm = 1) ∧ modField modrm = 3)) :
    Carries kept past (executeX64GroupFf instruction context).2 := by
  have hcompose := @compositional_carries σ kept past hkept
  have hread : Satisfies (fun _ x => Attempt.Keeps (Carries kept past) x)
      (orInvalidMemory (readU8 instruction.nextAddress) : Exec (σ × List Invocation) UInt8) :=
    inferInstance
  have hnext := hread.satisfied.kept h
  unfold executeX64GroupFf
  rcases hrun : readU8 instruction.nextAddress context with ⟨_ | modrm, next⟩
  · rw [orInvalidMemory_of_none hrun] at hnext
    rw [Attempt.bind_of_none (orInvalidMemory_of_none hrun)]
    exact hnext
  · rw [orInvalidMemory_of_some hrun] at hnext
    rw [Attempt.bind_of_some (orInvalidMemory_of_some hrun)]
    have hno := hmodrm modrm (by rw [hrun])
    have hrest : Satisfies (fun _ x => Attempt.Keeps (Carries kept past) x) (do
        let addresses ← indirectCallTarget instruction modrm
        orInvalidMemory (pushU64 addresses.2)
        continueAt addresses.1 : Exec (σ × List Invocation) InstructionOutcome) := inferInstance
    have hunsupported : Satisfies (fun _ x => Attempt.Keeps (Carries kept past) x)
        (unsupported instruction.opcode : Exec (σ × List Invocation) InstructionOutcome) :=
      inferInstance
    simp only
    split
    next hincrement =>
      rw [if_pos fun hmod => hno ⟨hincrement, hmod⟩]
      exact hunsupported.satisfied.kept hnext
    next hother =>
      split
      next hcall => exact hunsupported.satisfied.kept hnext
      next hcall => exact hrest.satisfied.kept hnext

omit kept past context in
/-- Opcode `FF` is dispatched to its group. -/
theorem dispatch_groupFf (callbacks : Callbacks σ) {instruction : DecodedInstruction}
    (hopcode : instruction.opcode = 0xFF)
    (decoded : ExecutionContext (σ × List Invocation)) :
    dispatch callbacks.recorded instruction decoded =
      executeX64GroupFf instruction
        (decoded.mapResult (EmulatorResult.setFault instruction)) := by
  rw [dispatch, hopcode]
  rfl

/-- An increment changes its register and the flags, and the run continues. -/
theorem incDecRegister_flags (instruction : DecodedInstruction) (index : UInt32)
    (isDecrement : Bool) (context : ExecutionContext (σ × List Invocation)) :
    ∃ next, incDecRegister instruction index isDecrement context =
        (some .continueRunning, next) ∧
      next.machine.state.flags &&& otherFlags = rflagsReserved := by
  rw [incDecRegister]
  split
  · exact ⟨_, rfl, incDecFlags_other _ _ _ _ _⟩
  · exact ⟨_, rfl, incDecFlags_other _ _ _ _ _⟩

/-- A step that is at no increment keeps the other flags. -/
theorem interpretInstruction_carries (hkept : kept ||| rflagsReserved = kept)
    (hbytes : context.machine.memory.bytes ≠ 0) (h : Carries kept past context)
    (hno : context.machine.atIncrement = false) :
    Carries kept past (interpretInstruction callbacks.recorded context).2 := by
  have hcompose := @compositional_carries σ kept past hkept
  have hcall : Satisfies (fun _ x => Attempt.Keeps (Carries kept past) x)
      (callHandler callbacks.recorded) := ⟨callHandler_carries⟩
  have hdecode : Satisfies (fun _ x => Attempt.Keeps (Carries kept past) x)
      (decodeX64Instruction : Exec (σ × List Invocation) DecodedInstruction) := inferInstance
  have hdecoded := hdecode.satisfied.kept h
  obtain ⟨hfetches, -⟩ := decodeX64Instruction_denotes hbytes context (.refl context)
  unfold interpretInstruction
  rcases hrun : decodeX64Instruction context with ⟨_ | instruction, decoded⟩
  · rw [hrun] at hdecoded
    rw [Attempt.bind_of_none hrun]
    exact hdecoded
  rw [hrun] at hdecoded
  rw [Attempt.bind_of_some hrun]
  obtain ⟨hfetch, huntouched⟩ := hfetches instruction decoded hrun
  -- what is left to show is that dispatching keeps them
  suffices hdispatch : Carries kept past (dispatch callbacks.recorded instruction decoded).2 by
    rcases hresult : dispatch callbacks.recorded instruction decoded with ⟨_ | outcome, next⟩
    · rw [hresult] at hdispatch
      rw [Attempt.bind_of_none hresult]
      exact hdispatch
    · rw [hresult] at hdispatch
      rw [Attempt.bind_of_some hresult]
      exact hdispatch.mapResult EmulatorResult.countRetired
  by_cases hopcode : instruction.opcode = 0xFF
  · rw [dispatch_groupFf callbacks hopcode]
    refine executeX64GroupFf_carries hkept (hdecoded.mapResult _) fun modrm hmodrm hincrement => ?_
    have hmachine : (decoded.mapResult (EmulatorResult.setFault instruction)).machine =
        context.machine := huntouched.machine
    rw [(readU8_denotes (hmachine ▸ hbytes) _).fst_eq, hmachine] at hmodrm
    have hat := Machine.atIncrement_iff.mpr
      ⟨instruction, hfetch, hopcode, modrm, hmodrm, hincrement⟩
    rw [hno] at hat
    cases hat
  · have hother := dispatch_satisfies (P := fun _ x => Attempt.Keeps (Carries kept past) x)
      instruction callbacks.recorded fun hgroup => absurd hgroup hopcode
    exact hother.satisfied.kept hdecoded

/-- Where only the reserved flag is among the other ones, every step keeps them. -/
theorem interpretInstruction_carries_reserved (h : Carries rflagsReserved past context) :
    Carries rflagsReserved past (interpretInstruction callbacks.recorded context).2 := by
  have hcompose := @compositional_carries σ rflagsReserved past (UInt64.or_self)
  have hcall : Satisfies (fun _ x => Attempt.Keeps (Carries rflagsReserved past) x)
      (callHandler callbacks.recorded) := ⟨callHandler_carries⟩
  have hflags (lhs result : UInt64) (isDecrement is64Bit : Bool) :
      Satisfies (fun _ x => Attempt.Keeps (Carries rflagsReserved past) x)
        (setIncDecFlags lhs result isDecrement is64Bit : Exec (σ × List Invocation) Unit) :=
    ⟨keeps_changeFlags fun flags _ => incDecFlags_other flags lhs result isDecrement is64Bit⟩
  exact (interpretInstruction_satisfies callbacks.recorded fun instruction =>
    executeX64GroupFf_satisfies instruction hflags).satisfied.kept h

/-- An increment leaves only the reserved flag of the other ones. -/
theorem interpretInstruction_atIncrement (hbytes : context.machine.memory.bytes ≠ 0)
    (hat : context.machine.atIncrement = true) :
    ∃ next, interpretInstruction callbacks.recorded context = (some .continueRunning, next) ∧
      next.machine.state.flags &&& otherFlags = rflagsReserved := by
  obtain ⟨instruction, hfetch, hopcode, modrm, hmodrm, hoperation, hregister⟩ :=
    Machine.atIncrement_iff.mp hat
  obtain ⟨hfetches, -⟩ := decodeX64Instruction_denotes hbytes context (.refl context)
  have hdecode := (decodeX64Instruction_denotes hbytes).fst_eq
  rcases hrun : decodeX64Instruction context with ⟨decodedInstruction, decoded⟩
  obtain rfl : decodedInstruction = some instruction := by
    rw [← hfetch, ← hdecode, hrun]
  obtain ⟨-, huntouched⟩ := hfetches instruction decoded hrun
  have hmachine : (decoded.mapResult (EmulatorResult.setFault instruction)).machine =
      context.machine := huntouched.machine
  have hread := (readU8_denotes (hmachine ▸ hbytes) instruction.nextAddress).fst_eq
  rw [hmachine, hmodrm] at hread
  rcases hbyte : readU8 instruction.nextAddress
    (decoded.mapResult (EmulatorResult.setFault instruction)) with ⟨byte, next⟩
  obtain rfl : byte = some modrm := by rw [← hread, hbyte]
  obtain ⟨last, hlast, hflags⟩ := incDecRegister_flags instruction
    (registerIndex (rmField modrm) instruction.rexB) (regField modrm = 1) next
  have hgroup : executeX64GroupFf instruction
      (decoded.mapResult (EmulatorResult.setFault instruction)) =
      (some .continueRunning, last) := by
    unfold executeX64GroupFf
    rw [Attempt.bind_of_some (orInvalidMemory_of_some hbyte)]
    simp only [if_pos hoperation, hregister, ne_eq, not_true_eq_false, ↓reduceIte]
    exact hlast
  refine ⟨last.mapResult EmulatorResult.countRetired, ?_, hflags⟩
  unfold interpretInstruction
  rw [Attempt.bind_of_some hrun, Attempt.bind_of_some
    ((dispatch_groupFf callbacks hopcode decoded).trans hgroup)]
  rfl

end Steps

section Runs

variable {machine : Machine σ} {callbacks : Callbacks σ} {options : Options}

/-- What a run enters with. -/
theorem start_carries :
    Carries ((machine.state.flags ||| rflagsReserved) &&& otherFlags) []
      (.start machine.recorded) :=
  ⟨rfl, [], rfl, List.forall_mem_nil _⟩

/-- A run keeps the other flags if the end of its loop does. -/
theorem keepsOtherFlags_of_carries (hengine : options.engine = .interpreter)
    (h : Carries ((machine.state.flags ||| rflagsReserved) &&& otherFlags) []
      (runX64Emulator machine.recorded callbacks.recorded options)) :
    KeepsOtherFlags machine callbacks options := by
  obtain ⟨calls, hworld, hcalls⟩ := h.calls
  rw [List.nil_append] at hworld
  simp only [KeepsOtherFlags, enteredFlags, if_pos hengine, hworld]
  exact ⟨h.flags, hcalls⟩

/-- A refused run does nothing but set the reserved flag, so only the others matter. -/
theorem keepsOtherFlags_of_entered (h : options.engine = .interpreter →
    isValidInvocation machine.recorded.memory callbacks.recorded options = true →
    KeepsOtherFlags machine callbacks options) : KeepsOtherFlags machine callbacks options := by
  by_cases hengine : options.engine = .interpreter
  case neg =>
    simp only [KeepsOtherFlags, enteredFlags, runX64Emulator, ne_eq, hengine, not_false_eq_true,
      ↓reduceIte]
    exact ⟨rfl, List.forall_mem_nil _⟩
  by_cases hinvocation :
    isValidInvocation machine.recorded.memory callbacks.recorded options = true
  case neg =>
    have hrun : runX64Emulator machine.recorded callbacks.recorded options =
        (ExecutionContext.start machine.recorded).mapResult
          (EmulatorResult.setBackendFailure .invalidArgument) := by
      simp [runX64Emulator, hengine, runInterpreter, hinvocation]
    exact keepsOtherFlags_of_carries hengine (hrun ▸ start_carries.mapResult _)
  exact h hengine hinvocation

/-- A run without increments keeps the other flags. -/
theorem keepsOtherFlags_of_runsNoIncrement (h : RunsNoIncrement machine callbacks options) :
    KeepsOtherFlags machine callbacks options := by
  apply keepsOtherFlags_of_entered
  intro hengine hinvocation
  obtain ⟨hcallback, hbytes, -⟩ := isValidInvocation_iff.mp hinvocation
  apply keepsOtherFlags_of_carries hengine
  rw [runX64Emulator_of_valid hengine hinvocation]
  refine interpretLoop_keeps (fun _ f hcontext => hcontext.mapResult f) start_carries
    fun count hcount context hretired hcontext => ?_
  have hprogress := retire_progressed hcallback hbytes hretired
  exact interpretInstruction_carries (entered_or_reserved _) (hprogress.memory ▸ hbytes) hcontext
    (h hengine hinvocation count hcount context hretired)

/-- A run that has no other flag to lose keeps them. -/
theorem keepsOtherFlags_of_reserved
    (h : (machine.state.flags ||| rflagsReserved) &&& otherFlags = rflagsReserved) :
    KeepsOtherFlags machine callbacks options := by
  apply keepsOtherFlags_of_entered
  intro hengine hinvocation
  apply keepsOtherFlags_of_carries hengine
  rw [runX64Emulator_of_valid hengine hinvocation]
  have hstart := @start_carries σ machine
  rw [h] at hstart ⊢
  exact interpretLoop_keeps (fun _ f hcontext => hcontext.mapResult f) hstart
    fun _ _ _ _ hcontext => interpretInstruction_carries_reserved hcontext

/-- Behind an increment only the reserved flag is left of the other ones, to the end of the run. -/
theorem final_of_increment (hengine : options.engine = .interpreter)
    (hinvocation : isValidInvocation machine.recorded.memory callbacks.recorded options = true)
    {count : Nat} (hcount : count < options.instructionBudget.toNat)
    {context : ExecutionContext (σ × List Invocation)}
    (hretired : retire callbacks.recorded count (.start machine.recorded) = some context)
    (hat : context.machine.atIncrement = true) :
    (runX64Emulator machine.recorded callbacks.recorded options).machine.state.flags &&&
      otherFlags = rflagsReserved := by
  obtain ⟨hcallback, hbytes, -⟩ := isValidInvocation_iff.mp hinvocation
  have hprogress := retire_progressed hcallback hbytes hretired
  obtain ⟨next, hstep, hflags⟩ := @interpretInstruction_atIncrement σ context callbacks
    (hprogress.memory ▸ hbytes) hat
  have hnext : retire callbacks.recorded (count + 1) (.start machine.recorded) = some next := by
    rw [retire_add, hretired, Option.bind_some, retire, hstep]
    rfl
  rw [runX64Emulator_of_retire hengine hinvocation hcount hnext]
  have hstart : Carries rflagsReserved next.machine.world.2 next :=
    ⟨hflags, [], (List.append_nil _).symm, List.forall_mem_nil _⟩
  have hend : Carries rflagsReserved next.machine.world.2
      (interpretLoop callbacks.recorded options.instructionBudget
        (options.instructionBudget.toNat - (count + 1)) next) :=
    interpretLoop_keeps (fun _ f hcontext => hcontext.mapResult f) hstart
      fun _ _ _ _ hcontext => interpretInstruction_carries_reserved hcontext
  exact hend.flags

end Runs

/-- A run keeps the flags that no instruction computes exactly if none of them is set but the
reserved one, or no instruction it executes increments or decrements a register. -/
theorem keepsOtherFlags_iff (machine : Machine σ) (callbacks : Callbacks σ) (options : Options) :
    KeepsOtherFlags machine callbacks options ↔
      (machine.state.flags ||| rflagsReserved) &&& otherFlags = rflagsReserved ∨
        RunsNoIncrement machine callbacks options := by
  constructor
  · intro hkeeps
    by_cases hother : (machine.state.flags ||| rflagsReserved) &&& otherFlags = rflagsReserved
    · exact .inl hother
    · refine .inr fun hengine hinvocation count hcount context hretired => ?_
      by_contra hat
      have hfinal := final_of_increment hengine hinvocation hcount hretired
        (Bool.not_eq_false _ ▸ hat)
      have hkept := hkeeps.1
      rw [enteredFlags, if_pos hengine, hfinal] at hkept
      exact hother hkept.symm
  · rintro (hother | hnone)
    · exact keepsOtherFlags_of_reserved hother
    · exact keepsOtherFlags_of_runsNoIncrement hnone

/-- `inc eax` clears the interrupt flag. -/
theorem increment_losesOtherFlags :
    ¬ KeepsOtherFlags (sampleMachine [0xFF, 0xC0] 0x1010) exitingCallbacks ⟨.interpreter, 1⟩ := by
  intro h
  exact absurd h.1 (by decide +kernel)

end Ringos.Emulator
