import Ringos.Arch.EmulatorThread
import Ringos.Emulator.Faults

/-!
# How an emulated guest leaves the kernel running

A guest that yields, exits or faults within one budget of instructions ends its
turn normally. One that does not makes `run_x64_emulator_thread` panic: the
spent budget is reported as a failure of the backend, and syscalls that let the
guest continue do not refill it.
-/

namespace Ringos.Arch

open Ringos.Core Ringos.Kernel Ringos.Emulator

/-- The ways a guest should leave `run_x64_emulator_thread`. -/
inductive GuestEnding (thread : ThreadRef) (runtime : UserRuntime) : Prop where
  /-- The thread has given up the CPU. -/
  | yielded (switched : runtime.currentThread ≠ some thread)
      (alive : (runtime.thread thread).state ≠ .exited)
  /-- The thread has exited by a syscall. -/
  | exited (switched : runtime.currentThread ≠ some thread)
      (gone : (runtime.thread thread).state = .exited)
  /-- The thread was terminated with the status of its fault. -/
  | terminated {before : UserRuntime} {status : Int32}
      (current : before.currentThread = some thread)
      (fault : status = Status.fault ∨ status = Status.notSupported)
      (after : runtime =
        (before.terminateCurrentThread .arm64 (signExtendStatus status) status).2)

/-- `run_x64_emulator_thread` returns, in one of those ways. -/
def EndsCleanly (runtime : UserRuntime) (storage : ProcessStorage) (thread : ThreadRef) : Prop :=
  ∃ left after, runX64EmulatorThread runtime storage thread = .ok (left, after) ∧
    GuestEnding thread after

/-- The guest does not retire a whole budget of instructions that let it continue. -/
def StopsWithinBudget (runtime : UserRuntime) (storage : ProcessStorage) (thread : ThreadRef) :
    Prop :=
  retire emulatorCallbacks emulatorOptions.instructionBudget.toNat
    (ExecutionContext.start (guestMachine runtime storage thread)) = none

/-- The user region is not null. -/
theorem getUserRegion_ne_zero (storage : ProcessStorage) : getUserRegion storage ≠ 0 := by
  intro hzero
  have hpositive : storage.userRegionStorage.toNat ≠ 0 := fun h =>
    storage.nonnull (UInt64.toNat_inj.mp h)
  have hfits := storage.fits
  -- a sum whose high bits are clear is below the page size, so it is at most the mask
  have hmasked : storage.userRegionStorage + 0x1FFFFF =
      (storage.userRegionStorage + 0x1FFFFF) &&& 0x1FFFFF := by
    have hsplit (value mask : UInt64) (h : value &&& ~~~mask = 0) : value = value &&& mask := by
      rw [← UInt64.toBitVec_inj] at h ⊢
      simp only [UInt64.toBitVec_and, UInt64.toBitVec_not] at h ⊢
      ext index hindex
      have hbit := congrArg (fun bits => bits[index]) h
      simp only [BitVec.getElem_and, BitVec.getElem_not] at hbit ⊢
      cases hmask : mask.toBitVec[index] <;> simp_all
    exact hsplit _ _ hzero
  have hle : (storage.userRegionStorage + 0x1FFFFF).toNat ≤ 0x1FFFFF := by
    rw [hmasked, UInt64.toNat_and]
    exact Nat.and_le_right
  rw [UInt64.toNat_add, show (0x1FFFFF : UInt64).toNat = 0x1FFFFF from rfl] at hle
  rw [show largePageSize.toNat = 0x200000 from rfl] at hfits
  omega

section Callback

variable {state : EmulatorState} {runtime after : UserRuntime} {answer : SyscallResult}
  {thread : ThreadRef}

/-- What an answer says about the thread that made the syscall. -/
def AnswersFor (thread : ThreadRef) (action : SyscallAction) (after : UserRuntime) : Prop :=
  match action with
  | .continueRun => after.currentThread = some thread
  | .yield => after.currentThread ≠ some thread ∧ (after.thread thread).state ≠ .exited
  | .exitThread => after.currentThread ≠ some thread ∧ (after.thread thread).state = .exited

/-- The syscall callback answers for the thread that was current. -/
theorem dispatchX64Syscall_spec (hcurrent : runtime.currentThread = some thread)
    (h : dispatchX64Syscall state runtime = (answer, after)) :
    AnswersFor thread answer.action after := by
  simp only [dispatchX64Syscall, hcurrent] at h
  split at h
  · rename_i hkept
    cases h
    exact hkept
  · rename_i hswitched
    split at h
    · rename_i hexited
      cases h
      exact ⟨hswitched, hexited⟩
    · rename_i halive
      cases h
      exact ⟨hswitched, halive⟩

/-- The same of the callback as the emulator calls it. -/
theorem emulatorCallbacks_spec {handleSyscall : EmulatorState → ByteMemory → UserRuntime →
      SyscallResult × ByteMemory × UserRuntime} {host host' : ByteMemory}
    (hhandle : emulatorCallbacks.handleSyscall = some handleSyscall)
    (hcall : handleSyscall state host runtime = (answer, host', after))
    (hcurrent : runtime.currentThread = some thread) :
    AnswersFor thread answer.action after := by
  obtain rfl := Option.some.inj hhandle
  obtain ⟨rfl, -, rfl⟩ := Prod.mk.inj hcall
  have hkept : (withMemory runtime host).currentThread = some thread := hcurrent
  exact dispatchX64Syscall_spec hkept rfl

end Callback

section Endings

variable {runtime : UserRuntime} {storage : ProcessStorage} {thread : ThreadRef}

theorem guestMachine_valid (runtime : UserRuntime) (storage : ProcessStorage)
    (thread : ThreadRef) :
    isValidInvocation (guestMachine runtime storage thread).memory emulatorCallbacks
      emulatorOptions = true :=
  isValidInvocation_iff.mpr ⟨rfl, getUserRegion_ne_zero storage, by decide⟩

/-- A fault leaves the callback's state alone. -/
theorem afterStepFault_world {σ : Type} (machine : Machine σ) :
    machine.afterStepFault.world = machine.world := by
  rw [Machine.afterStepFault_eq]
  split <;> rfl

/-- A run whose first instruction that does not let it continue lies within the budget stops
within the budget. -/
theorem stopsWithinBudget_of_step {count : Nat} {last : ExecutionContext UserRuntime}
    (hwithin : count < emulatorOptions.instructionBudget.toNat)
    (hretired : retire emulatorCallbacks count
      (ExecutionContext.start (guestMachine runtime storage thread)) = some last)
    (hstep : ∀ next, interpretInstruction emulatorCallbacks last ≠ (some .continueRunning, next)) :
    StopsWithinBudget runtime storage thread := by
  unfold StopsWithinBudget
  rw [Option.eq_none_iff_forall_ne_some]
  intro final hfinal
  obtain ⟨next, hnext⟩ := retire_step hfinal hretired hwithin
  exact hstep next hnext

theorem runX64EmulatorThread_eq : runX64EmulatorThread runtime storage thread =
    finishX64EmulatorThread storage (runX64Emulator (guestMachine runtime storage thread)
      emulatorCallbacks emulatorOptions) := rfl

/-- A fault terminates the thread that is current when the emulator stops. -/
theorem finishX64EmulatorThread_fault {final : ExecutionContext UserRuntime}
    (hfault : final.result.IsFault) (hcurrent : final.machine.world.currentThread = some thread) :
    ∃ left after, finishX64EmulatorThread storage final = .ok (left, after) ∧
      GuestEnding thread after := by
  obtain ⟨hbackend, hreason⟩ := hfault
  have hguest : isX64EmulatorGuestFault final.result = true := by
    rcases hreason with ⟨-, h⟩ | ⟨-, h⟩ <;> simp [isX64EmulatorGuestFault, h]
  have hstatus : getX64EmulatorGuestFaultStatus final.result = Status.fault ∨
      getX64EmulatorGuestFaultStatus final.result = Status.notSupported := by
    rcases hreason with ⟨-, h⟩ | ⟨-, h⟩ <;> simp [getX64EmulatorGuestFaultStatus, h]
  unfold finishX64EmulatorThread
  rw [if_neg (by simp [hbackend]), if_pos hguest]
  refine ⟨_, _, rfl, .terminated ?_ hstatus rfl⟩
  exact hcurrent

/-- A run that a syscall has ended is a normal return. -/
theorem finishX64EmulatorThread_answered {last final : ExecutionContext UserRuntime}
    {action : SyscallAction} (hanswered : Answered last action .retireAndStop final) :
    finishX64EmulatorThread storage final =
      .ok ({ storage with x64GuestState := final.machine.state },
        withMemory final.machine.world final.machine.host) := by
  unfold finishX64EmulatorThread
  cases action with
  | continueRun => cases hanswered.1
  | yield =>
    obtain ⟨-, hbackend, -, hreason⟩ := hanswered
    rw [if_neg (by simp [hbackend]), if_neg (by simp [isX64EmulatorGuestFault, hreason]),
      if_neg (by simp [hreason])]
  | exitThread =>
    obtain ⟨-, hbackend, -, hreason⟩ := hanswered
    rw [if_neg (by simp [hbackend]), if_neg (by simp [isX64EmulatorGuestFault, hreason]),
      if_neg (by simp [hreason])]

/-- A guest whose syscall ended the run has yielded or exited, as the callback answered. -/
theorem finishX64EmulatorThread_stop {last final : ExecutionContext UserRuntime}
    {action : SyscallAction} (hanswered : Answered last action .retireAndStop final)
    (hspec : AnswersFor thread action final.machine.world) :
    ∃ left after, finishX64EmulatorThread storage final = .ok (left, after) ∧
      GuestEnding thread after := by
  refine ⟨_, _, finishX64EmulatorThread_answered hanswered, ?_⟩
  cases action with
  | continueRun => cases hanswered.1
  | yield => exact .yielded hspec.1 hspec.2
  | exitThread => exact .exited hspec.1 hspec.2

/-- An emulated thread ends its turn without a panic exactly when its guest stops within one
budget of instructions. -/
theorem endsCleanly_iff (runtime : UserRuntime) (storage : ProcessStorage) (thread : ThreadRef)
    (hcurrent : runtime.currentThread = some thread) :
    EndsCleanly runtime storage thread ↔ StopsWithinBudget runtime storage thread := by
  have hbytes : (guestMachine runtime storage thread).memory.bytes ≠ 0 :=
    getUserRegion_ne_zero storage
  -- syscalls let the run continue only while the thread stays current
  have hworld {count : Nat} {last : ExecutionContext UserRuntime}
      (hretired : retire emulatorCallbacks count
        (ExecutionContext.start (guestMachine runtime storage thread)) = some last) :
      last.machine.world.currentThread = some thread := by
    refine retire_world rfl hbytes (P := fun world => world.currentThread = some thread)
      ?_ hretired hcurrent
    intro handleSyscall state host world answer host' world' hhandle hcall haction hbefore
    have hspec := emulatorCallbacks_spec hhandle hcall hbefore
    rwa [haction] at hspec
  have hkept {count : Nat} {last : ExecutionContext UserRuntime}
      (hretired : retire emulatorCallbacks count
        (ExecutionContext.start (guestMachine runtime storage thread)) = some last) :
      last.machine.memory.bytes ≠ 0 := by
    rw [(retire_progressed rfl hbytes hretired).memory]
    exact hbytes
  rcases ending_of_valid rfl (guestMachine_valid runtime storage thread) with
    ⟨hretired, hfinal⟩ | ⟨hwithin, hretired, hstep⟩ | ⟨hwithin, hretired, hstep⟩
  · refine iff_of_false ?_ fun hstops => ?_
    · rintro ⟨left, after, hok, -⟩
      rw [runX64EmulatorThread_eq, hfinal, finishX64EmulatorThread, if_pos] at hok
      · cases hok
      · simp [ExecutionContext.mapResult, EmulatorResult.setBackendFailure]
    · rw [StopsWithinBudget, hretired] at hstops
      cases hstops
  · refine iff_of_true ?_ (stopsWithinBudget_of_step hwithin hretired (by simp [hstep]))
    rw [EndsCleanly, runX64EmulatorThread_eq]
    generalize runX64Emulator (guestMachine runtime storage thread) emulatorCallbacks
      emulatorOptions = final at hstep ⊢
    obtain ⟨handleSyscall, state, answer, hhandle, hcall, hanswered⟩ :=
      (interpretInstruction_stepped rfl (hkept hretired) hstep).stopped
    have hspec := emulatorCallbacks_spec hhandle hcall (hworld hretired)
    exact finishX64EmulatorThread_stop hanswered hspec
  · refine iff_of_true ?_ (stopsWithinBudget_of_step hwithin hretired (by simp [hstep]))
    rw [EndsCleanly, runX64EmulatorThread_eq]
    generalize runX64Emulator (guestMachine runtime storage thread) emulatorCallbacks
      emulatorOptions = final at hstep ⊢
    have hfault := interpretInstruction_faulted rfl (hkept hretired) hstep
    refine finishX64EmulatorThread_fault hfault.fault ?_
    rw [hfault.machine, afterStepFault_world]
    exact hworld hretired

end Endings

/-- Process storage whose user region lies at host address `0x80000000`. -/
def sampleStorage : ProcessStorage where
  userRegionStorage := 0x80000000
  x64GuestState :=
    { generalRegisters := Vector.replicate 16 0
      simdRegisters := Vector.replicate 16 (Vector.replicate 16 0)
      instructionPointer := 0
      flags := 0 }
  nonnull := by decide
  fits := by decide

/-- A started runtime with one emulated thread, at the first byte of its image. -/
def sampleRuntime (code : List UInt8) : UserRuntime :=
  let created := (UserRuntime.reset (storeBytes (fun _ => 0) 0x80000000 code)).createProcess
    ⟨.x64, .ringos, .x64Emulator⟩ default
  let threaded := created.2.createThread 0 ⟨x64UserImageVirtualAddress, 0x409000, 0x202, 0⟩
  threaded.2.setCurrentThread (some 0)

/-- A guest that sets its syscall number to `SYSCALL_THREAD_EXIT` and traps ends cleanly. -/
theorem exitingGuest_endsCleanly :
    EndsCleanly (sampleRuntime [0xB8, 2, 0, 0, 0, 0x0F, 0x05]) sampleStorage 0 := by
  refine (endsCleanly_iff _ _ _ (by decide +kernel)).mpr ?_
  have hstops : (retire emulatorCallbacks emulatorOptions.instructionBudget.toNat
      (ExecutionContext.start (guestMachine (sampleRuntime [0xB8, 2, 0, 0, 0, 0x0F, 0x05])
        sampleStorage 0))).isNone = true := by decide +kernel
  exact Option.isNone_iff_eq_none.mp hstops

/-- A guest that jumps to itself panics the kernel. -/
theorem spinningGuest_panics :
    (sampleRuntime [0xEB, 0xFE]).currentThread = some 0 ∧
      (sampleRuntime [0xEB, 0xFE]).hasRunnableThread = true ∧
      ((sampleRuntime [0xEB, 0xFE]).process 0).metadata.executionBackend = .x64Emulator ∧
      ¬ EndsCleanly (sampleRuntime [0xEB, 0xFE]) sampleStorage 0 := by
  refine ⟨by decide +kernel, by decide +kernel, by decide +kernel, ?_⟩
  rintro ⟨left, after, hok, -⟩
  have herror : (runX64EmulatorThread (sampleRuntime [0xEB, 0xFE]) sampleStorage 0).toBool =
      false := by decide +kernel
  rw [hok] at herror
  cases herror

end Ringos.Arch
