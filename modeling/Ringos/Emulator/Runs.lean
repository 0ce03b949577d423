import Ringos.Emulator.Step

/-!
# Whole runs of the interpreter

A run is a number of instructions that let it continue, and one more that does
not, unless the budget is spent first. What holds of a step is carried along the
run: accesses stay in bounds, an instruction stores at most once, and a fault
leaves the state the retired instructions left, but for a refused push.
-/

namespace Ringos.Emulator

open Ringos.Core

variable {σ : Type}

/-- The context after exactly `count` instructions that let the run continue. -/
def retire (callbacks : Callbacks σ) : Nat → ExecutionContext σ → Option (ExecutionContext σ)
  | 0, context => some context
  | count + 1, context =>
    match interpretInstruction callbacks context with
    | (some .continueRunning, next) => retire callbacks count next
    | _ => none

/-- What `count` retired instructions leave as it was. -/
structure Progressed (start : ExecutionContext σ) (count : Nat) (context : ExecutionContext σ) :
    Prop where
  memory : context.machine.memory = start.machine.memory
  retired : context.result.retiredInstructions =
    start.result.retiredInstructions + count.toUInt64
  safe : ∃ recent, context.accesses = recent ++ start.accesses ∧
    ∀ access ∈ recent, access.Safe start.machine.memory

section Steps

variable {callbacks : Callbacks σ} {start next : ExecutionContext σ} {outcome : InstructionOutcome}

/-- What holds of every trace. -/
theorem Traced.safe {writes : List (UInt64 × Nat)} {context : ExecutionContext σ}
    (h : Traced start writes context) : ∃ recent, context.accesses = recent ++ start.accesses ∧
      ∀ access ∈ recent, access.Safe start.machine.memory := by
  obtain ⟨recent, happend, hsafe, -⟩ := h
  exact ⟨recent, happend, hsafe⟩

/-- A step that retires has progressed by one. -/
theorem Stepped.progressed (h : Stepped callbacks start outcome next) : Progressed start 1 next := by
  obtain ⟨instruction, dispatched, -, hdispatched, rfl⟩ := h
  unfold Dispatched at hdispatched
  split at hdispatched
  · refine ⟨hdispatched.memory, ?_, hdispatched.traced.safe⟩
    show dispatched.result.retiredInstructions + 1 = _
    rw [hdispatched.retired]
    rfl
  · obtain ⟨-, store, -, hadvanced⟩ := hdispatched
    have hstatus := hadvanced.status
    simp only [EmulatorResult.status, Prod.mk.injEq] at hstatus
    refine ⟨hadvanced.memory, ?_, hadvanced.traced.safe⟩
    show dispatched.result.retiredInstructions + 1 = _
    rw [hstatus.2.2.2]
    rfl

/-- An instruction that ends the run is a syscall whose answer says so. -/
theorem Stepped.stopped (h : Stepped callbacks start .retireAndStop next) :
    ∃ handleSyscall state answer, callbacks.handleSyscall = some handleSyscall ∧
      handleSyscall state start.machine.host start.machine.world =
        (answer, next.machine.host, next.machine.world) ∧
      Answered start answer.action .retireAndStop next := by
  obtain ⟨instruction, dispatched, -, hdispatched, rfl⟩ := h
  unfold Dispatched at hdispatched
  split at hdispatched
  · obtain ⟨handleSyscall, returnAddress, answer, hhandle, hcall, hanswered⟩ := hdispatched.called
    refine ⟨handleSyscall, _, answer, hhandle, hcall, ?_⟩
    cases haction : answer.action with
    | continueRun =>
      rw [haction] at hanswered
      cases hanswered.1
    | yield =>
      rw [haction] at hanswered
      exact hanswered
    | exitThread =>
      rw [haction] at hanswered
      exact hanswered
  · cases hdispatched.1

/-- An instruction that lets the run continue leaves the callback's state alone, or is a
syscall whose answer says to continue. -/
theorem Stepped.world_cases (h : Stepped callbacks start .continueRunning next) :
    next.machine.world = start.machine.world ∨
      ∃ handleSyscall state answer, callbacks.handleSyscall = some handleSyscall ∧
        handleSyscall state start.machine.host start.machine.world =
          (answer, next.machine.host, next.machine.world) ∧ answer.action = .continueRun := by
  obtain ⟨instruction, dispatched, -, hdispatched, rfl⟩ := h
  unfold Dispatched at hdispatched
  split at hdispatched
  · obtain ⟨handleSyscall, returnAddress, answer, hhandle, hcall, hanswered⟩ := hdispatched.called
    refine .inr ⟨handleSyscall, _, answer, hhandle, hcall, ?_⟩
    cases haction : answer.action with
    | continueRun => rfl
    | yield =>
      rw [haction] at hanswered
      cases hanswered.1
    | exitThread =>
      rw [haction] at hanswered
      cases hanswered.1
  · obtain ⟨-, store, -, hadvanced⟩ := hdispatched
    exact .inl hadvanced.world

theorem Progressed.trans {middle : ExecutionContext σ} {first second : Nat}
    (hfirst : Progressed start first middle) (hsecond : Progressed middle second next) :
    Progressed start (first + second) next := by
  obtain ⟨recent, happend, hsafe⟩ := hfirst.safe
  obtain ⟨recent', happend', hsafe'⟩ := hsecond.safe
  refine ⟨hsecond.memory.trans hfirst.memory, ?_, recent' ++ recent, ?_, ?_⟩
  · rw [hsecond.retired, hfirst.retired, UInt64.add_assoc]
    congr 1
    exact (UInt64.ofNat_add first second).symm
  · rw [happend', happend, List.append_assoc]
  · intro access hmem
    rcases List.mem_append.mp hmem with h | h
    · exact hfirst.memory ▸ hsafe' access h
    · exact hsafe access h

variable (hcallback : callbacks.handleSyscall.isSome) (hbytes : start.machine.memory.bytes ≠ 0)

include hcallback hbytes

theorem interpretInstruction_stepped
    (h : interpretInstruction callbacks start = (some outcome, next)) :
    Stepped callbacks start outcome next :=
  (interpretInstruction_triple hcallback hbytes start (Untouched.refl start)).1 outcome next h

theorem interpretInstruction_faulted (h : interpretInstruction callbacks start = (none, next)) :
    Faulted start start.machine.afterStepFault next :=
  (interpretInstruction_triple hcallback hbytes start (Untouched.refl start)).2 next h

/-- Retired instructions progress, by induction on their number. -/
theorem retire_progressed {count : Nat} {last : ExecutionContext σ}
    (h : retire callbacks count start = some last) : Progressed start count last := by
  induction count generalizing start with
  | zero =>
    obtain rfl := Option.some.inj h
    exact ⟨rfl, (UInt64.add_zero _).symm, [], rfl, by simp⟩
  | succ count ih =>
    unfold retire at h
    split at h
    · rename_i middle hstep
      have hfirst := (interpretInstruction_stepped hcallback hbytes hstep).progressed
      have hsecond := ih (hfirst.memory ▸ hbytes) h
      rw [Nat.add_comm]
      exact hfirst.trans hsecond
    · cases h

/-- What the callback keeps while it lets the run continue holds after any number of retired
instructions, by induction on their number. -/
theorem retire_world {P : σ → Prop} (hkept : ∀ handleSyscall state host world answer host' world',
      callbacks.handleSyscall = some handleSyscall →
      handleSyscall state host world = (answer, host', world') → answer.action = .continueRun →
      P world → P world')
    {count : Nat} {last : ExecutionContext σ} (h : retire callbacks count start = some last)
    (hstart : P start.machine.world) : P last.machine.world := by
  induction count generalizing start with
  | zero =>
    obtain rfl := Option.some.inj h
    exact hstart
  | succ count ih =>
    unfold retire at h
    split at h
    · rename_i middle hstep
      have hstepped := interpretInstruction_stepped hcallback hbytes hstep
      apply ih (hstepped.progressed.memory ▸ hbytes) h
      rcases hstepped.world_cases with heq | ⟨handleSyscall, state, answer, hhandle, hcall, haction⟩
      · exact heq ▸ hstart
      · exact hkept handleSyscall state _ _ answer _ _ hhandle hcall haction hstart
    · cases h

end Steps

/-- Retiring in two parts. -/
theorem retire_add (callbacks : Callbacks σ) (first second : Nat) (context : ExecutionContext σ) :
    retire callbacks (first + second) context =
      (retire callbacks first context).bind (retire callbacks second) := by
  induction first generalizing context with
  | zero => rw [Nat.zero_add]; rfl
  | succ first ih =>
    rw [Nat.succ_add]
    simp only [retire]
    split
    · exact ih _
    · rfl

/-- An instruction before the last retired one let the run continue. -/
theorem retire_step {callbacks : Callbacks σ} {start middle last : ExecutionContext σ}
    {first count : Nat} (hcount : retire callbacks count start = some last)
    (hfirst : retire callbacks first start = some middle) (hlt : first < count) :
    ∃ next, interpretInstruction callbacks middle = (some .continueRunning, next) := by
  obtain ⟨rest, rfl⟩ := Nat.exists_eq_add_of_lt hlt
  rw [Nat.add_assoc, retire_add, hfirst, Option.bind_some] at hcount
  unfold retire at hcount
  split at hcount
  · rename_i next hstep
    exact ⟨next, hstep⟩
  · cases hcount

/-- How the loop ends: the budget is spent, or some instruction does not let it continue. -/
theorem interpretLoop_cases {callbacks : Callbacks σ} {start : ExecutionContext σ}
    {instructionBudget : UInt64} {fuel : Nat} (hcallback : callbacks.handleSyscall.isSome)
    (hbytes : start.machine.memory.bytes ≠ 0)
    (hfuel : start.result.retiredInstructions.toNat + fuel = instructionBudget.toNat) :
    (∃ last, retire callbacks fuel start = some last ∧
      interpretLoop callbacks instructionBudget fuel start =
        last.mapResult (EmulatorResult.setBackendFailure .instructionLimitReached)) ∨
    (∃ count last, count < fuel ∧ retire callbacks count start = some last ∧
      (interpretInstruction callbacks last =
          (some .retireAndStop, interpretLoop callbacks instructionBudget fuel start) ∨
        interpretInstruction callbacks last =
          (none, interpretLoop callbacks instructionBudget fuel start))) := by
  induction fuel generalizing start with
  | zero => exact .inl ⟨start, rfl, rfl⟩
  | succ fuel ih =>
    have hlt : start.result.retiredInstructions < instructionBudget := by
      rw [UInt64.lt_iff_toNat_lt]
      omega
    unfold interpretLoop
    rw [if_pos hlt]
    rcases hstep : interpretInstruction callbacks start with ⟨_ | _ | _, next⟩
    · exact .inr ⟨0, start, by omega, rfl, .inr hstep⟩
    · -- the instruction retires and the loop goes on with one less to spend
      have hnext := (interpretInstruction_stepped hcallback hbytes hstep).progressed
      have hretired : next.result.retiredInstructions.toNat + fuel = instructionBudget.toNat := by
        have hbudget := instructionBudget.toNat_lt
        rw [hnext.retired, UInt64.toNat_add, show (Nat.toUInt64 1).toNat = 1 from rfl]
        omega
      have hretire (count : Nat) :
          retire callbacks (count + 1) start = retire callbacks count next := by
        rw [retire, hstep]
      rcases ih (hnext.memory ▸ hbytes) hretired with
        ⟨last, hlast, hloop⟩ | ⟨count, last, hcount, hlast, hloop⟩
      · exact .inl ⟨last, (hretire fuel).trans hlast, hloop⟩
      · exact .inr ⟨count + 1, last, by omega, (hretire count).trans hlast, hloop⟩
    · exact .inr ⟨0, start, by omega, rfl, .inl hstep⟩

/-- The loop goes on from what retired instructions have left, by induction on their number. -/
theorem interpretLoop_of_retire {callbacks : Callbacks σ} {start last : ExecutionContext σ}
    {instructionBudget : UInt64} {count rest : Nat} (hcallback : callbacks.handleSyscall.isSome)
    (hbytes : start.machine.memory.bytes ≠ 0)
    (hwithin : start.result.retiredInstructions.toNat + count ≤ instructionBudget.toNat)
    (h : retire callbacks count start = some last) :
    interpretLoop callbacks instructionBudget (count + rest) start =
      interpretLoop callbacks instructionBudget rest last := by
  induction count generalizing start with
  | zero =>
    obtain rfl := Option.some.inj h
    rw [Nat.zero_add]
  | succ count ih =>
    unfold retire at h
    split at h
    · rename_i next hstep
      have hlt : start.result.retiredInstructions < instructionBudget := by
        rw [UInt64.lt_iff_toNat_lt]
        omega
      have hnext := (interpretInstruction_stepped hcallback hbytes hstep).progressed
      have hretired : next.result.retiredInstructions.toNat + count ≤ instructionBudget.toNat := by
        have hbudget := instructionBudget.toNat_lt
        rw [hnext.retired, UInt64.toNat_add, show (Nat.toUInt64 1).toNat = 1 from rfl]
        omega
      rw [Nat.succ_add, interpretLoop, if_pos hlt, hstep]
      exact ih (hnext.memory ▸ hbytes) hretired h
    · cases h

section Loop

variable {callbacks : Callbacks σ} {I : ExecutionContext σ → Prop}

/-- What every step of a loop keeps holds at its end, by induction on the bound of the loop. -/
theorem interpretLoop_keeps (hrecord : ∀ context f, I context → I (context.mapResult f))
    {budget : UInt64} {fuel : Nat} {start : ExecutionContext σ} (hstart : I start)
    (hstep : ∀ count < fuel, ∀ context, retire callbacks count start = some context → I context →
      I (interpretInstruction callbacks context).2) :
    I (interpretLoop callbacks budget fuel start) := by
  induction fuel generalizing start with
  | zero => exact hrecord _ _ hstart
  | succ fuel ih =>
    have hfirst := hstep 0 (Nat.succ_pos fuel) start rfl hstart
    unfold interpretLoop
    split
    next hlt =>
      rcases hrun : interpretInstruction callbacks start with ⟨_ | _ | _, next⟩
      · rw [hrun] at hfirst
        exact hfirst
      · rw [hrun] at hfirst
        refine ih hfirst fun count hcount context hretired => ?_
        apply hstep (count + 1) (Nat.succ_lt_succ hcount) context
        rw [retire, hrun]
        exact hretired
      · rw [hrun] at hfirst
        exact hfirst
    next hspent => exact hrecord _ _ hstart

end Loop

section Endings

variable {machine : Machine σ} {callbacks : Callbacks σ} {options : Options}

/-- How a valid run ends. -/
inductive Ending (machine : Machine σ) (callbacks : Callbacks σ) (options : Options) : Prop where
  /-- The budget is spent. -/
  | limit {last : ExecutionContext σ}
      (retired : retire callbacks options.instructionBudget.toNat
        (ExecutionContext.start machine) = some last)
      (final : runX64Emulator machine callbacks options =
        last.mapResult (EmulatorResult.setBackendFailure .instructionLimitReached))
  /-- The syscall callback ends the run. -/
  | stopped {count : Nat} {last : ExecutionContext σ}
      (within : count < options.instructionBudget.toNat)
      (retired : retire callbacks count (ExecutionContext.start machine) = some last)
      (step : interpretInstruction callbacks last =
        (some .retireAndStop, runX64Emulator machine callbacks options))
  /-- An instruction faults. -/
  | faulted {count : Nat} {last : ExecutionContext σ}
      (within : count < options.instructionBudget.toNat)
      (retired : retire callbacks count (ExecutionContext.start machine) = some last)
      (step : interpretInstruction callbacks last =
        (none, runX64Emulator machine callbacks options))

theorem isValidInvocation_iff :
    isValidInvocation machine.memory callbacks options = true ↔
      callbacks.handleSyscall.isSome = true ∧ machine.memory.bytes ≠ 0 ∧
        options.instructionBudget ≠ 0 := by
  simp [isValidInvocation, and_assoc]

/-- A valid run is the loop. -/
theorem runX64Emulator_of_valid (hengine : options.engine = .interpreter)
    (hvalid : isValidInvocation machine.memory callbacks options = true) :
    runX64Emulator machine callbacks options =
      interpretLoop callbacks options.instructionBudget options.instructionBudget.toNat
        (ExecutionContext.start machine) := by
  rw [runX64Emulator, if_neg (by rw [hengine]; simp), runInterpreter, hvalid]
  rfl

/-- A valid run goes on from what retired instructions have left. -/
theorem runX64Emulator_of_retire (hengine : options.engine = .interpreter)
    (hvalid : isValidInvocation machine.memory callbacks options = true) {count : Nat}
    {last : ExecutionContext σ} (hwithin : count ≤ options.instructionBudget.toNat)
    (h : retire callbacks count (ExecutionContext.start machine) = some last) :
    runX64Emulator machine callbacks options =
      interpretLoop callbacks options.instructionBudget
        (options.instructionBudget.toNat - count) last := by
  obtain ⟨hcallback, hbytes, -⟩ := isValidInvocation_iff.mp hvalid
  obtain ⟨rest, hrest⟩ := Nat.exists_eq_add_of_le hwithin
  have hstart : (ExecutionContext.start machine).result.retiredInstructions.toNat + count ≤
      options.instructionBudget.toNat := by
    rw [show (ExecutionContext.start machine).result.retiredInstructions.toNat = 0 from rfl]
    omega
  have hloop := @interpretLoop_of_retire _ _ _ _ _ _ rest hcallback hbytes hstart h
  rw [runX64Emulator_of_valid hengine hvalid, hrest, Nat.add_sub_cancel_left, hloop]

/-- Every valid run ends in one of the three ways. -/
theorem ending_of_valid (hengine : options.engine = .interpreter)
    (hvalid : isValidInvocation machine.memory callbacks options = true) :
    Ending machine callbacks options := by
  obtain ⟨hcallback, hbytes, -⟩ := isValidInvocation_iff.mp hvalid
  have hrun := runX64Emulator_of_valid hengine hvalid
  have hfuel : (ExecutionContext.start machine).result.retiredInstructions.toNat +
      options.instructionBudget.toNat = options.instructionBudget.toNat := Nat.zero_add _
  rcases interpretLoop_cases hcallback hbytes hfuel with
    ⟨last, hlast, hloop⟩ | ⟨count, last, hcount, hlast, hstop | hfault⟩
  · exact .limit hlast (hrun.trans hloop)
  · exact .stopped hcount hlast (hrun ▸ hstop)
  · exact .faulted hcount hlast (hrun ▸ hfault)

end Endings

/-- A run has only one instruction that does not let it continue. -/
theorem retire_unique {callbacks : Callbacks σ} {start middle last : ExecutionContext σ}
    {first count : Nat} (hfirst : retire callbacks first start = some middle)
    (hcount : retire callbacks count start = some last)
    (hmiddle : ∀ next, interpretInstruction callbacks middle ≠ (some .continueRunning, next))
    (hlast : ∀ next, interpretInstruction callbacks last ≠ (some .continueRunning, next)) :
    first = count ∧ middle = last := by
  rcases Nat.lt_trichotomy first count with hlt | rfl | hlt
  · obtain ⟨next, hstep⟩ := retire_step hcount hfirst hlt
    exact absurd hstep (hmiddle next)
  · exact ⟨rfl, Option.some.inj (hfirst.symm.trans hcount)⟩
  · obtain ⟨next, hstep⟩ := retire_step hfirst hcount hlt
    exact absurd hstep (hlast next)

end Ringos.Emulator
