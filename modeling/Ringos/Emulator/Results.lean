import Ringos.Emulator.Faults

/-!
# The result record of a run

The record starts out filled in as a failure of the backend, and handlers write
its three verdict fields at different places. On return they agree: either a
guest event with no backend failure, or a backend failure with no guest event.
-/

namespace Ringos.Emulator

variable {σ : Type}

namespace GuestStopReason

/-- The completion of the same name; `NONE` has none. -/
def completion : GuestStopReason → Option Completion
  | .none => Option.none
  | .threadExited => some .threadExited
  | .yielded => some .yielded
  | .invalidMemoryAccess => some .invalidMemoryAccess
  | .unsupportedInstruction => some .unsupportedInstruction

end GuestStopReason

namespace BackendFailure

/-- The completion of the same name; `NONE` has none. -/
def completion : BackendFailure → Option Completion
  | .none => Option.none
  | .instructionLimitReached => some .instructionLimitReached
  | .invalidArgument => some .invalidArgument
  | .unsupportedEngine => some .unsupportedEngine

end BackendFailure

namespace EmulatorResult

/-- The run ended by an event of the guest. -/
def ReportsGuestStop (result : EmulatorResult) : Prop :=
  result.backendFailure = .none ∧ result.guestStopReason.completion = some result.completion

/-- The run ended by a failure of the backend. -/
def ReportsBackendFailure (result : EmulatorResult) : Prop :=
  result.guestStopReason = .none ∧ result.backendFailure.completion = some result.completion

/-- What holds of the record of a run with a given budget. -/
structure Consistent (budget : UInt64) (result : EmulatorResult) : Prop where
  verdict : Xor result.ReportsGuestStop result.ReportsBackendFailure
  retired : result.retiredInstructions ≤ budget
  limit : result.backendFailure = .instructionLimitReached → result.retiredInstructions = budget

variable {result : EmulatorResult} {budget : UInt64}

/-- The two reports exclude each other. -/
theorem ReportsGuestStop.not_reportsBackendFailure (h : result.ReportsGuestStop) :
    ¬ result.ReportsBackendFailure := by
  rintro ⟨-, hfailure⟩
  rw [h.1] at hfailure
  cases hfailure

theorem ReportsGuestStop.consistent (h : result.ReportsGuestStop)
    (hretired : result.retiredInstructions ≤ budget) : result.Consistent budget where
  verdict := .inl ⟨h, h.not_reportsBackendFailure⟩
  retired := hretired
  limit hlimit := by
    rw [h.1] at hlimit
    cases hlimit

theorem ReportsBackendFailure.consistent (h : result.ReportsBackendFailure)
    (hretired : result.retiredInstructions ≤ budget)
    (hlimit : result.backendFailure = .instructionLimitReached →
      result.retiredInstructions = budget) : result.Consistent budget where
  verdict := .inr ⟨h, fun hstop => hstop.not_reportsBackendFailure h⟩
  retired := hretired
  limit := hlimit

end EmulatorResult

/-- A syscall that ends the run reports a guest event. -/
theorem Answered.reportsGuestStop {start context : ExecutionContext σ} {action : SyscallAction}
    (h : Answered start action .retireAndStop context) : context.result.ReportsGuestStop := by
  cases action with
  | continueRun => cases h.1
  | yield =>
    obtain ⟨-, hbackend, hcompletion, hreason⟩ := h
    exact ⟨hbackend, by rw [hreason, hcompletion]; rfl⟩
  | exitThread =>
    obtain ⟨-, hbackend, hcompletion, hreason⟩ := h
    exact ⟨hbackend, by rw [hreason, hcompletion]; rfl⟩

/-- A fault is a guest event. -/
theorem EmulatorResult.IsFault.reportsGuestStop {result : EmulatorResult} (h : result.IsFault) :
    result.ReportsGuestStop := by
  obtain ⟨hbackend, ⟨hcompletion, hreason⟩ | ⟨hcompletion, hreason⟩⟩ := h
  · exact ⟨hbackend, by rw [hreason, hcompletion]; rfl⟩
  · exact ⟨hbackend, by rw [hreason, hcompletion]; rfl⟩

/-- The record of every run is consistent. -/
theorem runX64Emulator_consistent (machine : Machine σ) (callbacks : Callbacks σ)
    (options : Options) :
    (runX64Emulator machine callbacks options).result.Consistent options.instructionBudget := by
  by_cases hengine : options.engine = .interpreter
  case neg =>
    simp only [runX64Emulator, ne_eq, hengine, not_false_eq_true, if_true]
    exact EmulatorResult.ReportsBackendFailure.consistent ⟨rfl, rfl⟩ (UInt64.zero_le)
      (fun h => by cases h)
  by_cases hvalid : isValidInvocation machine.memory callbacks options = true
  case neg =>
    simp only [runX64Emulator, ne_eq, hengine, not_true_eq_false, if_false, runInterpreter,
      Bool.eq_false_iff.mpr hvalid, Bool.not_false, if_true]
    exact EmulatorResult.ReportsBackendFailure.consistent ⟨rfl, rfl⟩ (UInt64.zero_le)
      (fun h => by cases h)
  obtain ⟨hcallback, hbytes, -⟩ := isValidInvocation_iff.mp hvalid
  -- the count is that of the instructions that have retired
  have hcount {count : Nat} {context : ExecutionContext σ}
      (hprogress : Progressed (ExecutionContext.start machine) count context) :
      context.result.retiredInstructions = count.toUInt64 :=
    hprogress.retired.trans (UInt64.zero_add _)
  have hwithin {count : Nat} (h : count ≤ options.instructionBudget.toNat) :
      count.toUInt64 ≤ options.instructionBudget := by
    rw [UInt64.le_iff_toNat_le, UInt64.toNat_ofNat_of_lt'
      (Nat.lt_of_le_of_lt h options.instructionBudget.toNat_lt)]
    exact h
  rcases ending_of_valid hengine hvalid with
    ⟨hretired, hfinal⟩ | ⟨hlt, hretired, hstep⟩ | ⟨hlt, hretired, hstep⟩
  · rename_i last
    have hlast := hcount (retire_progressed hcallback hbytes hretired)
    rw [hfinal]
    have hspent : (last.mapResult (EmulatorResult.setBackendFailure
        .instructionLimitReached)).result.retiredInstructions = options.instructionBudget :=
      hlast.trans UInt64.ofNat_toNat
    exact EmulatorResult.ReportsBackendFailure.consistent ⟨rfl, rfl⟩ (by rw [hspent]; exact UInt64.le_refl _)
      fun _ => hspent
  · have hprogress := retire_progressed hcallback hbytes hretired
    have hstepped := interpretInstruction_stepped hcallback (hprogress.memory ▸ hbytes) hstep
    obtain ⟨_, _, _, -, -, hanswered⟩ := hstepped.stopped
    refine hanswered.reportsGuestStop.consistent ?_
    rw [hcount (hprogress.trans hstepped.progressed)]
    exact hwithin hlt
  · have hprogress := retire_progressed hcallback hbytes hretired
    have hfault := interpretInstruction_faulted hcallback (hprogress.memory ▸ hbytes) hstep
    refine hfault.fault.reportsGuestStop.consistent ?_
    rw [hfault.retired, hcount hprogress]
    exact hwithin (Nat.le_of_lt hlt)

end Ringos.Emulator
