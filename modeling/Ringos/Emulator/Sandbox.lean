import Ringos.Emulator.Faults

/-!
# The emulator as a sandbox

Whatever the guest bytes are, every access of a run stays inside the guest
region and the register files, and an instruction that retires without calling
the kernel has changed host memory by at most one store, at its operand.
-/

namespace Ringos.Emulator

open Ringos.Core

variable {σ : Type}

/-- What confines a run to its guest region. -/
structure Sandboxed (machine : Machine σ) (callbacks : Callbacks σ) (options : Options) :
    Prop where
  /-- Guest accesses lie in `bytes[0, size)` and register indices are below sixteen. -/
  accesses : ∀ access ∈ (runX64Emulator machine callbacks options).accesses,
    access.Safe machine.memory
  /-- An instruction of the run that retires and is no syscall makes at most one store, of
  four, eight or sixteen bytes, at its memory operand or at the decremented stack pointer. -/
  stores : isValidInvocation machine.memory callbacks options = true →
    ∀ count last outcome next instruction, count < options.instructionBudget.toNat →
      retire callbacks count (ExecutionContext.start machine) = some last →
      interpretInstruction callbacks last = (some outcome, next) →
      last.machine.fetchInstruction = some instruction →
      last.machine.isSyscall instruction = false →
      ∃ store : GuestStore, last.machine.Stored instruction store ∧
        next.machine.host = store.apply last.machine ∧
        ∃ recent, next.accesses = recent ++ last.accesses ∧
          guestWrites recent = store.writes machine.memory

section Accesses

variable {machine : Machine σ} {callbacks : Callbacks σ} {options : Options}

/-- The log of a context that progressed from the start of a run is safe. -/
theorem Progressed.accesses_safe {count : Nat} {context : ExecutionContext σ}
    (h : Progressed (ExecutionContext.start machine) count context) :
    ∀ access ∈ context.accesses, access.Safe machine.memory := by
  obtain ⟨recent, happend, hsafe⟩ := h.safe
  intro access hmem
  rw [happend, show (ExecutionContext.start machine).accesses = [] from rfl,
    List.append_nil] at hmem
  exact hsafe access hmem

/-- The log of a faulting step is safe where the log before it is. -/
theorem Faulted.accesses_safe {start next : ExecutionContext σ} {left : Machine σ}
    (h : Faulted start left next) (hmemory : start.machine.memory = machine.memory)
    (hstart : ∀ access ∈ start.accesses, access.Safe machine.memory) :
    ∀ access ∈ next.accesses, access.Safe machine.memory := by
  obtain ⟨recent, happend, hsafe⟩ := h.traced.safe
  intro access hmem
  rw [happend] at hmem
  rcases List.mem_append.mp hmem with hnew | hold
  · exact hmemory ▸ hsafe access hnew
  · exact hstart access hold

/-- Every access of a run is safe. -/
theorem runX64Emulator_accesses_safe :
    ∀ access ∈ (runX64Emulator machine callbacks options).accesses,
      access.Safe machine.memory := by
  by_cases hengine : options.engine = .interpreter
  case neg => simp [runX64Emulator, hengine]
  by_cases hvalid : isValidInvocation machine.memory callbacks options = true
  case neg =>
    simp [runX64Emulator, hengine, runInterpreter, hvalid, ExecutionContext.mapResult,
      ExecutionContext.start]
  obtain ⟨hcallback, hbytes, -⟩ := isValidInvocation_iff.mp hvalid
  rcases ending_of_valid hengine hvalid with
    ⟨hretired, hfinal⟩ | ⟨hwithin, hretired, hstep⟩ | ⟨hwithin, hretired, hstep⟩
  · rw [hfinal]
    exact (retire_progressed hcallback hbytes hretired).accesses_safe
  · have hprogress := retire_progressed hcallback hbytes hretired
    have hstepped := interpretInstruction_stepped hcallback (hprogress.memory ▸ hbytes) hstep
    exact (hprogress.trans hstepped.progressed).accesses_safe
  · have hprogress := retire_progressed hcallback hbytes hretired
    have hfault := interpretInstruction_faulted hcallback (hprogress.memory ▸ hbytes) hstep
    exact hfault.accesses_safe hprogress.memory hprogress.accesses_safe

/-- An instruction that retires without a syscall has made at most one store. -/
theorem Stepped.store {start next : ExecutionContext σ} {outcome : InstructionOutcome}
    {instruction : DecodedInstruction} (h : Stepped callbacks start outcome next)
    (hfetch : start.machine.fetchInstruction = some instruction)
    (hsyscall : start.machine.isSyscall instruction = false) :
    ∃ store : GuestStore, start.machine.Stored instruction store ∧
      next.machine.host = store.apply start.machine ∧
      ∃ recent, next.accesses = recent ++ start.accesses ∧
        guestWrites recent = store.writes start.machine.memory := by
  obtain ⟨instruction', dispatched, hfetch', hdispatched, rfl⟩ := h
  obtain rfl := Option.some.inj (hfetch'.symm.trans hfetch)
  rw [Dispatched, if_neg (by rw [hsyscall]; simp)] at hdispatched
  obtain ⟨-, store, ⟨-, hstored⟩, hadvanced⟩ := hdispatched
  obtain ⟨recent, happend, -, hwrites⟩ := hadvanced.traced
  exact ⟨store, hstored, hadvanced.host, recent, happend, hwrites⟩

end Accesses

section Outside

variable {callbacks : Callbacks σ} {memory : EmulatorMemory} {P : ByteMemory → σ → Prop}

/-- The emulator admits the bytes of the guest region. -/
theorem EmulatorMemory.contains_byte (memory : EmulatorMemory) (address : UInt64) :
    memory.contains address 1 = true ↔ memory.baseAddress.toNat ≤ address.toNat ∧
      address.toNat < memory.baseAddress.toNat + memory.size.toNat := by
  simp only [EmulatorMemory.contains, Bool.and_eq_true, Bool.not_eq_true',
    decide_eq_false_iff_not, UInt64.not_lt, UInt64.le_iff_toNat_le]
  constructor
  · rintro ⟨⟨hlow, hinside⟩, hbyte⟩
    have hdistance := UInt64.toNat_sub_of_le _ _ (UInt64.le_iff_toNat_le.mpr hlow)
    rw [UInt64.toNat_sub_of_le _ _ (UInt64.le_iff_toNat_le.mpr hinside)] at hbyte
    exact ⟨hlow, by omega⟩
  · rintro ⟨hlow, hhigh⟩
    have hdistance := UInt64.toNat_sub_of_le _ _ (UInt64.le_iff_toNat_le.mpr hlow)
    have hinside : (address - memory.baseAddress).toNat ≤ memory.size.toNat := by omega
    rw [UInt64.toNat_sub_of_le _ _ (UInt64.le_iff_toNat_le.mpr hinside)]
    exact ⟨⟨hlow, hinside⟩, by omega⟩

theorem mem_of_guestWrites {accesses : List Access} {offset : UInt64} {length : Nat}
    (h : (offset, length) ∈ guestWrites accesses) : Access.guestWrite offset length ∈ accesses := by
  obtain ⟨access, hmem, hwrite⟩ := List.mem_filterMap.mp h
  cases access with
  | guestWrite first size =>
    obtain ⟨rfl, rfl⟩ := Prod.mk.inj (Option.some.inj hwrite)
    exact hmem
  | guestRead first size => cases hwrite
  | generalRegister index => cases hwrite
  | simdRegister index => cases hwrite

/-- The store of an instruction changes nothing outside the guest region. -/
theorem Advanced.host_outside {start next : ExecutionContext σ} {store : GuestStore}
    (h : Advanced start store next) {address : UInt64}
    (hout : ¬ InRange start.machine.memory.bytes start.machine.memory.size.toNat address) :
    next.machine.host address = start.machine.host address := by
  rw [h.host]
  cases store with
  | none => rfl
  | some store =>
    obtain ⟨recent, -, hsafe, hwrites⟩ := h.traced
    have hlogged : (store.1 - start.machine.memory.baseAddress, store.2.length) ∈
        guestWrites recent := by
      rw [hwrites]
      exact List.mem_singleton_self _
    have hfit := hsafe _ (mem_of_guestWrites hlogged)
    have hsize := start.machine.memory.size.toNat_lt
    simp only [Access.Safe] at hfit
    exact storeBytes_of_not_inRange (by omega) fun hin => hout (hin.within hfit (by omega))

/-- A property of host memory and of the callback's state that does not depend on the guest region,
and that the callback keeps. -/
structure KeptOutside (memory : EmulatorMemory) (callbacks : Callbacks σ)
    (P : ByteMemory → σ → Prop) : Prop where
  stores : ∀ host host' world, (∀ address, ¬ InRange memory.bytes memory.size.toNat address →
    host' address = host address) → P host world → P host' world
  calls : ∀ handleSyscall state host world answer host' world',
    callbacks.handleSyscall = some handleSyscall →
      handleSyscall state host world = (answer, host', world') → P host world → P host' world'

/-- A step keeps such a property: it stores inside the region, it calls back, or it faults. -/
theorem KeptOutside.step (h : KeptOutside memory callbacks P)
    (hcallback : callbacks.handleSyscall.isSome) (hbytes : memory.bytes ≠ 0)
    {start : ExecutionContext σ} (hmemory : start.machine.memory = memory)
    (hstart : P start.machine.host start.machine.world) :
    (interpretInstruction callbacks start).2.machine.memory = memory ∧
      P (interpretInstruction callbacks start).2.machine.host
        (interpretInstruction callbacks start).2.machine.world := by
  have hregion : start.machine.memory.bytes ≠ 0 := hmemory ▸ hbytes
  rcases hstep : interpretInstruction callbacks start with ⟨_ | outcome, next⟩
  · have hfault := interpretInstruction_faulted hcallback hregion hstep
    have hleft : start.machine.afterStepFault.memory = start.machine.memory ∧
        start.machine.afterStepFault.host = start.machine.host ∧
        start.machine.afterStepFault.world = start.machine.world := by
      rw [Machine.afterStepFault_eq]
      split
      · exact ⟨rfl, rfl, rfl⟩
      · exact ⟨rfl, rfl, rfl⟩
    obtain ⟨hkept, hhost, hworld⟩ := hleft
    dsimp only
    rw [hfault.machine, hkept, hhost, hworld]
    exact ⟨hmemory, hstart⟩
  · have hstepped := interpretInstruction_stepped hcallback hregion hstep
    refine ⟨hstepped.progressed.memory.trans hmemory, ?_⟩
    obtain ⟨instruction, dispatched, -, hdispatched, rfl⟩ := hstepped
    unfold Dispatched at hdispatched
    split at hdispatched
    · obtain ⟨handleSyscall, returnAddress, answer, hhandle, hcall, -⟩ := hdispatched.called
      exact h.calls handleSyscall _ _ _ answer _ _ hhandle hcall hstart
    · obtain ⟨-, store, -, hadvanced⟩ := hdispatched
      show P dispatched.machine.host dispatched.machine.world
      rw [hadvanced.world]
      exact h.stores _ _ _ (fun address hout =>
        hadvanced.host_outside (hmemory ▸ hout)) hstart

/-- A run keeps it. -/
theorem KeptOutside.run {machine : Machine σ} {options : Options}
    (h : KeptOutside machine.memory callbacks P) (hstart : P machine.host machine.world) :
    P (runX64Emulator machine callbacks options).machine.host
      (runX64Emulator machine callbacks options).machine.world := by
  by_cases hengine : options.engine = .interpreter
  case neg =>
    rw [runX64Emulator, if_pos hengine]
    exact hstart
  by_cases hvalid : isValidInvocation machine.memory callbacks options = true
  case neg =>
    have hinvalid : (!isValidInvocation machine.memory callbacks options) = true := by simp [hvalid]
    rw [runX64Emulator, if_neg (not_not_intro hengine), runInterpreter, if_pos hinvalid]
    exact hstart
  obtain ⟨hcallback, hbytes, -⟩ := isValidInvocation_iff.mp hvalid
  rw [runX64Emulator_of_valid hengine hvalid]
  refine (interpretLoop_keeps (I := fun context => context.machine.memory = machine.memory ∧
    P context.machine.host context.machine.world) (fun _ _ hkept => hkept) ⟨rfl, hstart⟩
    fun _ _ context _ hkept => h.step hcallback hbytes hkept.1 hkept.2).2

end Outside

/-- Every run of the emulator is sandboxed. -/
theorem runX64Emulator_sandboxed (machine : Machine σ) (callbacks : Callbacks σ)
    (options : Options) : Sandboxed machine callbacks options where
  accesses := runX64Emulator_accesses_safe
  stores := by
    intro hvalid count last outcome next instruction _ hretired hstep hfetch hsyscall
    obtain ⟨hcallback, hbytes, -⟩ := isValidInvocation_iff.mp hvalid
    have hprogress := retire_progressed hcallback hbytes hretired
    have hstepped := interpretInstruction_stepped hcallback (hprogress.memory ▸ hbytes) hstep
    have hstore := hstepped.store hfetch hsyscall
    rw [hprogress.memory] at hstore
    exact hstore

/-- `mov [rip+0], eax` stores four bytes behind itself, and the run is sandboxed. -/
theorem movToMemory_sandboxed :
    Access.guestWrite 6 4 ∈ (runX64Emulator (sampleMachine [0x89, 0x05, 0, 0, 0, 0] 0)
        exitingCallbacks ⟨.interpreter, 1⟩).accesses ∧
      Sandboxed (sampleMachine [0x89, 0x05, 0, 0, 0, 0] 0) exitingCallbacks ⟨.interpreter, 1⟩ := by
  refine ⟨?_, runX64Emulator_sandboxed _ _ _⟩
  decide +kernel

end Ringos.Emulator
