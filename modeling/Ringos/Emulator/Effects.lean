import Ringos.Emulator.Interpreter

/-!
# What emulator code may do to its context

Three kinds of code make up an instruction handler. Inspecting code leaves the
machine alone and its outcome is a function of the machine; when it gives up, a
guest fault is on record. Storing code makes at most one store. Committing code
changes only the guest state and never gives up. Each kind has its rules here,
and every accessor is shown to be of its kind once.
-/

namespace Ringos.Emulator

open Ringos.Core
open Exec

variable {σ α β : Type}

/-- The access stays inside the guest region or the register file. -/
def Access.Safe (memory : EmulatorMemory) : Access → Prop
  | .guestRead offset length => offset.toNat + length ≤ memory.size.toNat
  | .guestWrite offset length => offset.toNat + length ≤ memory.size.toNat
  | .generalRegister index => index < 16
  | .simdRegister index => index < 16

/-- The guest writes of a log. -/
def guestWrites (accesses : List Access) : List (UInt64 × Nat) :=
  accesses.filterMap fun access =>
    match access with
    | .guestWrite offset length => some (offset, length)
    | _ => none

/-- The fields of the result that classify how a run ended, and the retired count. -/
def EmulatorResult.status (result : EmulatorResult) :
    Completion × GuestStopReason × BackendFailure × UInt64 :=
  (result.completion, result.guestStopReason, result.backendFailure, result.retiredInstructions)

/-- The result reports a guest fault. -/
def EmulatorResult.IsFault (result : EmulatorResult) : Prop :=
  result.backendFailure = .none ∧
    (result.completion = .invalidMemoryAccess ∧ result.guestStopReason = .invalidMemoryAccess ∨
      result.completion = .unsupportedInstruction ∧
        result.guestStopReason = .unsupportedInstruction)

/-- A store of a byte string at a guest address, or none. -/
abbrev GuestStore := Option (UInt64 × List UInt8)

/-- The host memory after a store. -/
def GuestStore.apply (machine : Machine σ) : GuestStore → ByteMemory
  | none => machine.host
  | some (guestAddress, bytes) =>
    storeBytes machine.host
      (machine.memory.bytes + (guestAddress - machine.memory.baseAddress)) bytes

/-- The log entries of a store. -/
def GuestStore.writes (memory : EmulatorMemory) : GuestStore → List (UInt64 × Nat)
  | none => []
  | some (guestAddress, bytes) => [(guestAddress - memory.baseAddress, bytes.length)]

/-- Since `start` only safe accesses have been logged, and these writes among them. -/
def Traced (start : ExecutionContext σ) (writes : List (UInt64 × Nat))
    (context : ExecutionContext σ) : Prop :=
  ∃ recent, context.accesses = recent ++ start.accesses ∧
    (∀ access ∈ recent, access.Safe start.machine.memory) ∧ guestWrites recent = writes

/-- Nothing has happened to the machine since `start`. -/
structure Untouched (start context : ExecutionContext σ) : Prop where
  machine : context.machine = start.machine
  status : context.result.status = start.result.status
  traced : Traced start [] context

/-- Since `start` a fault has been reported and the machine is `machine`. -/
structure Faulted (start : ExecutionContext σ) (machine : Machine σ)
    (context : ExecutionContext σ) : Prop where
  machine : context.machine = machine
  fault : context.result.IsFault
  retired : context.result.retiredInstructions = start.result.retiredInstructions
  traced : Traced start [] context

/-- The fault is an invalid memory access. -/
def Refused (start : ExecutionContext σ) (machine : Machine σ) (context : ExecutionContext σ) :
    Prop :=
  Faulted start machine context ∧ context.result.completion = .invalidMemoryAccess

/-- Since `start` one store has been made and the guest state may have changed. -/
structure Advanced (start : ExecutionContext σ) (store : GuestStore)
    (context : ExecutionContext σ) : Prop where
  memory : context.machine.memory = start.machine.memory
  host : context.machine.host = store.apply start.machine
  world : context.machine.world = start.machine.world
  status : context.result.status = start.result.status
  traced : Traced start (store.writes start.machine.memory) context

section Traced

variable {start context : ExecutionContext σ} {writes : List (UInt64 × Nat)}

theorem Traced.refl (start : ExecutionContext σ) : Traced start [] start :=
  ⟨[], rfl, by simp, rfl⟩

/-- Noting a safe access that is no write extends the trace. -/
theorem Traced.note {access : Access} (h : Traced start writes context)
    (hsafe : access.Safe start.machine.memory) (hwrite : guestWrites [access] = []) :
    Traced start writes (context.note access) := by
  obtain ⟨recent, happend, hall, hwrites⟩ := h
  refine ⟨access :: recent, ?_, ?_, ?_⟩
  · simp only [ExecutionContext.note, happend, List.cons_append]
  · intro other hmem
    rcases List.mem_cons.mp hmem with rfl | hlater
    · exact hsafe
    · exact hall other hlater
  · rw [← List.singleton_append, guestWrites, List.filterMap_append]
    simp only [guestWrites] at hwrite hwrites
    rw [hwrite, hwrites, List.nil_append]

/-- Noting the first write records it. -/
theorem Traced.noteWrite {offset : UInt64} {length : Nat} (h : Traced start [] context)
    (hsafe : (Access.guestWrite offset length).Safe start.machine.memory) :
    Traced start [(offset, length)] (context.note (.guestWrite offset length)) := by
  obtain ⟨recent, happend, hall, hwrites⟩ := h
  refine ⟨.guestWrite offset length :: recent, ?_, ?_, ?_⟩
  · simp only [ExecutionContext.note, happend, List.cons_append]
  · intro other hmem
    rcases List.mem_cons.mp hmem with rfl | hlater
    · exact hsafe
    · exact hall other hlater
  · rw [guestWrites, List.filterMap_cons]
    simp only [guestWrites] at hwrites
    rw [hwrites]

end Traced

section Predicates

variable {start context : ExecutionContext σ} {store : GuestStore} {machine : Machine σ}

theorem Untouched.refl (start : ExecutionContext σ) : Untouched start start :=
  ⟨rfl, rfl, Traced.refl start⟩

/-- Untouched is advanced by no store. -/
theorem Untouched.advanced (h : Untouched start context) : Advanced start none context :=
  ⟨by rw [h.machine], by rw [h.machine]; rfl, by rw [h.machine], h.status, h.traced⟩

/-- A change of the fault record is invisible to the status. -/
theorem Untouched.mapResult {f : EmulatorResult → EmulatorResult} (h : Untouched start context)
    (hf : ∀ result, (f result).status = result.status) :
    Untouched start (context.mapResult f) :=
  ⟨h.machine, (hf _).trans h.status, h.traced⟩

/-- Reporting a fault turns an untouched context into a faulted one. -/
theorem Untouched.fault {f : EmulatorResult → EmulatorResult} (h : Untouched start context)
    (hf : ∀ result, (f result).IsFault)
    (hretired : ∀ result, (f result).retiredInstructions = result.retiredInstructions) :
    Faulted start start.machine (context.mapResult f) := by
  refine ⟨h.machine, hf _, ?_, h.traced⟩
  have hstatus := h.status
  simp only [EmulatorResult.status, Prod.mk.injEq] at hstatus
  exact (hretired _).trans hstatus.2.2.2

/-- Reporting another fault keeps a faulted context faulted. -/
theorem Faulted.refault {f : EmulatorResult → EmulatorResult} (h : Faulted start machine context)
    (hf : ∀ result, (f result).IsFault)
    (hretired : ∀ result, (f result).retiredInstructions = result.retiredInstructions) :
    Faulted start machine (context.mapResult f) :=
  ⟨h.machine, hf _, (hretired _).trans h.retired, h.traced⟩

theorem setInvalidMemoryAccess_isFault (address : UInt64) (opcode : UInt8)
    (result : EmulatorResult) : (result.setInvalidMemoryAccess address opcode).IsFault :=
  ⟨rfl, .inl ⟨rfl, rfl⟩⟩

theorem setUnsupportedInstruction_isFault (opcode : UInt8) (result : EmulatorResult) :
    (result.setUnsupportedInstruction opcode).IsFault :=
  ⟨rfl, .inr ⟨rfl, rfl⟩⟩

end Predicates

/-- Inspecting code: from an untouched context its outcome is `value`, an invalid access being
on record when there is none. -/
def Denotes (start : ExecutionContext σ) (x : Exec σ α) (value : Option α) : Prop :=
  Attempt.Triple (Untouched start) x (fun a context => value = some a ∧ Untouched start context)
    (fun context => value = none ∧ Refused start start.machine context)

/-- Storing code: one store that `allowed` admits, or a fault that leaves `machine`. -/
def Stores (start : ExecutionContext σ) (allowed : GuestStore → Prop) (machine : Machine σ)
    (x : Exec σ α) : Prop :=
  Attempt.Triple (Untouched start) x
    (fun _ context => ∃ store, allowed store ∧ Advanced start store context)
    (Faulted start machine)

/-- Committing code: whatever has been stored stays stored, and the code returns. -/
def Commits (start : ExecutionContext σ) (x : Exec σ α) : Prop :=
  ∀ store, Attempt.Triple (Advanced start store) x (fun _ => Advanced start store)
    (fun _ => False)

/-- Code that commits and lets the run continue. -/
def Finishes (start : ExecutionContext σ) (x : Exec σ InstructionOutcome) : Prop :=
  ∀ store, Attempt.Triple (Advanced start store) x
    (fun outcome context => outcome = .continueRunning ∧ Advanced start store context)
    (fun _ => False)

/-- A whole handler: one admitted store and the run continues, or a fault that leaves
`machine`. -/
def Completes (start : ExecutionContext σ) (allowed : GuestStore → Prop) (machine : Machine σ)
    (x : Exec σ InstructionOutcome) : Prop :=
  Attempt.Triple (Untouched start) x
    (fun outcome context => outcome = .continueRunning ∧
      ∃ store, allowed store ∧ Advanced start store context)
    (Faulted start machine)

section Rules

variable {start : ExecutionContext σ} {x : Exec σ α} {f : α → Exec σ β} {value : Option α}
  {allowed : GuestStore → Prop} {machine : Machine σ}

theorem Denotes.pure (a : α) : Denotes start (Pure.pure a) (some a) :=
  Attempt.Triple.pure fun _ h => ⟨rfl, h⟩

/-- Code that denotes a value yields it. -/
theorem Denotes.fst_eq (h : Denotes start x value) : (x start).1 = value := by
  obtain ⟨hret, hfail⟩ := h start (Untouched.refl start)
  rcases hrun : x start with ⟨_ | a, next⟩
  · exact (hfail next hrun).1.symm
  · exact (hret a next hrun).1.symm

/-- A sequence of inspections denotes the sequence of their values. -/
theorem Denotes.bind {values : α → Option β} (hx : Denotes start x value)
    (hf : ∀ a, value = some a → Denotes start (f a) (values a)) :
    Denotes start (x >>= f) (value.bind values) := by
  have hx' : Attempt.Triple (Untouched start) x
      (fun a context => value = some a ∧ Untouched start context)
      (fun context => value.bind values = none ∧ Refused start start.machine context) := by
    refine hx.conseq (fun _ h => h) (fun _ _ h => h) ?_
    rintro context ⟨rfl, hrefused⟩
    exact ⟨rfl, hrefused⟩
  refine Attempt.Triple.bind hx' ?_
  rintro a context ⟨rfl, huntouched⟩
  exact hf a rfl context huntouched

/-- After an inspection that always succeeds the rest decides. -/
theorem Denotes.seq {a : α} {value' : Option β} (hx : Denotes start x (some a))
    (hf : Denotes start (f a) value') : Denotes start (x >>= f) value' := by
  refine (hx.bind fun b hb => ?_ : Denotes start (x >>= f) ((some a).bind fun _ => value'))
  obtain rfl := Option.some.inj hb
  exact hf

/-- Inspect, then return a function of what was found. -/
theorem Denotes.map (hx : Denotes start x value) (g : α → β) :
    Denotes start (x >>= fun a => Pure.pure (g a)) (value.map g) := by
  rw [Option.map_eq_bind]
  exact hx.bind fun a _ => Denotes.pure (g a)

theorem Denotes.congr {value' : Option α} (hx : Denotes start x value) (h : value = value') :
    Denotes start x value' := h ▸ hx

/-- A refused access has already marked the completion. -/
theorem Refused.mark {context : ExecutionContext σ} (h : Refused start machine context) :
    context.mapResult EmulatorResult.markInvalidMemoryAccess = context := by
  rw [ExecutionContext.mapResult, EmulatorResult.markInvalidMemoryAccess, ← h.2]

/-- Marking the completion after a failed inspection changes nothing. -/
theorem Denotes.orInvalidMemory (hx : Denotes start x value) :
    Denotes start (Exec.orInvalidMemory x) value := by
  apply Attempt.Triple.onFailure hx
  rintro context ⟨hnone, hrefused⟩
  rw [hrefused.mark]
  exact ⟨hnone, hrefused⟩

/-- The repair of the data movement handlers changes nothing after a failed read. -/
theorem Denotes.orUnsupported (hx : Denotes start x value) (faultOpcode : UInt8) :
    Denotes start (Emulator.orUnsupported faultOpcode x) value := by
  apply Attempt.Triple.onFailure hx
  rintro context ⟨hnone, hrefused⟩
  rw [if_pos hrefused.2]
  exact ⟨hnone, hrefused⟩

/-- Inspect, then run code that admits the refusals of the inspection among its faults. -/
theorem Denotes.then {Q : β → ExecutionContext σ → Prop} {E : ExecutionContext σ → Prop}
    (hx : Denotes start x value)
    (hE : ∀ context, value = none → Refused start start.machine context → E context)
    (hf : ∀ a, value = some a → Attempt.Triple (Untouched start) (f a) Q E) :
    Attempt.Triple (Untouched start) (x >>= f) Q E := by
  have hx' : Attempt.Triple (Untouched start) x
      (fun a context => value = some a ∧ Untouched start context) E :=
    hx.conseq (fun _ h => h) (fun _ _ h => h) fun context h => hE context h.1 h.2
  refine Attempt.Triple.bind hx' ?_
  rintro a context ⟨rfl, huntouched⟩
  exact hf a rfl context huntouched

/-- Inspect, then store. -/
theorem Denotes.stores (hx : Denotes start x value)
    (hf : ∀ a, value = some a → Stores start allowed start.machine (f a)) :
    Stores start allowed start.machine (x >>= f) :=
  hx.then (fun _ _ h => h.1) hf

/-- Inspect, then complete. -/
theorem Denotes.completes {f : α → Exec σ InstructionOutcome} (hx : Denotes start x value)
    (hf : ∀ a, value = some a → Completes start allowed start.machine (f a)) :
    Completes start allowed start.machine (x >>= f) :=
  hx.then (fun _ _ h => h.1) hf

/-- Store, then finish. -/
theorem Stores.completes {f : α → Exec σ InstructionOutcome}
    (hx : Stores start allowed machine x) (hf : ∀ a, Finishes start (f a)) :
    Completes start allowed machine (x >>= f) := by
  refine Attempt.Triple.bind hx ?_
  rintro a context ⟨store, hallowed, hadvanced⟩
  obtain ⟨hret, hfail⟩ := hf a store context hadvanced
  constructor
  · intro outcome next heq
    obtain ⟨hcontinue, hnext⟩ := hret outcome next heq
    exact ⟨hcontinue, store, hallowed, hnext⟩
  · intro next heq
    exact (hfail next heq).elim

/-- Committing code stores nothing. -/
theorem Commits.stores (hx : Commits start x) (hnone : allowed none) :
    Stores start allowed machine x := by
  refine (hx none).conseq (fun _ h => h.advanced) ?_ (fun _ h => h.elim)
  intro a context hadvanced
  exact ⟨none, hnone, hadvanced⟩

/-- A handler that only finishes stores nothing. -/
theorem Finishes.completes {x : Exec σ InstructionOutcome} (hx : Finishes start x)
    (hnone : allowed none) : Completes start allowed machine x := by
  refine (hx none).conseq (fun _ h => h.advanced) ?_ (fun _ h => h.elim)
  rintro outcome context ⟨hcontinue, hadvanced⟩
  exact ⟨hcontinue, none, hnone, hadvanced⟩

theorem Commits.bind (hx : Commits start x) (hf : ∀ a, Commits start (f a)) :
    Commits start (x >>= f) :=
  fun store => Attempt.Triple.bind (hx store) fun a => hf a store

/-- Commit, then finish. -/
theorem Commits.finishes {f : α → Exec σ InstructionOutcome} (hx : Commits start x)
    (hf : ∀ a, Finishes start (f a)) : Finishes start (x >>= f) :=
  fun store => Attempt.Triple.bind (hx store) fun a => hf a store

theorem Commits.pure (a : α) : Commits start (Pure.pure a : Exec σ α) :=
  fun _ => Attempt.Triple.pure fun _ h => h

theorem Commits.ite {c : Prop} [Decidable c] {y : Exec σ α} (hx : Commits start x)
    (hy : Commits start y) : Commits start (if c then x else y) := by
  split
  · exact hx
  · exact hy

/-- Refusing an encoding is a fault that leaves the machine alone. -/
theorem unsupported_triple {Q : α → ExecutionContext σ → Prop} (faultOpcode : UInt8) :
    Attempt.Triple (Untouched start) (unsupported faultOpcode) Q
      (Faulted start start.machine) := by
  refine Attempt.Triple.bind (Attempt.Triple.update (Q := fun _ context =>
    Faulted start start.machine context) fun context h => ?_) fun _ =>
      Attempt.Triple.fail fun _ h => h
  exact h.fault (setUnsupportedInstruction_isFault faultOpcode) fun _ => rfl

end Rules

end Ringos.Emulator
