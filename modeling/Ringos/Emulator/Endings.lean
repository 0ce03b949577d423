import Ringos.Emulator.IntegerEffects

/-!
# Both ways for code to end

`Leads` says where code that returns leads to. Here the code may also give up,
and then the completion on record is known; and of the accesses it makes the
length of the latest one is followed, which is that of the data when the
operands of an instruction come last.
-/

namespace Ringos.Emulator

open Ringos.Core
open Exec

variable {σ α β : Type}

/-- The length of the latest guest access of a log. -/
def latestAccess : List Access → Option Nat
  | [] => none
  | .guestRead _ length :: _ => some length
  | .guestWrite _ length :: _ => some length
  | .generalRegister _ :: earlier => latestAccess earlier
  | .simdRegister _ :: earlier => latestAccess earlier

/-- From `machine` and with that latest access the code returns within `Q`, or gives up with a
completion that `stops` admits. -/
def Ends (machine : Machine σ) (latest : Option Nat) (x : Exec σ α)
    (Q : α → Machine σ → Option Nat → Prop) (stops : Completion → Prop) : Prop :=
  Attempt.Triple
    (fun context => context.machine = machine ∧ latestAccess context.accesses = latest) x
    (fun a context => Q a context.machine (latestAccess context.accesses))
    fun context => stops context.result.completion

section Rules

variable {machine : Machine σ} {latest : Option Nat} {x : Exec σ α} {f : α → Exec σ β}
  {Q : α → Machine σ → Option Nat → Prop} {R : β → Machine σ → Option Nat → Prop}
  {stops : Completion → Prop}

theorem Ends.pure {a : α} (h : Q a machine latest) :
    Ends machine latest (Pure.pure a) Q stops := by
  apply Attempt.Triple.pure
  rintro context ⟨rfl, rfl⟩
  exact h

theorem Ends.bind
    (h : Ends machine latest x (fun a next last => Ends next last (f a) R stops) stops) :
    Ends machine latest (x >>= f) R stops :=
  Attempt.Triple.bind h fun _ context hcontext => hcontext context ⟨rfl, rfl⟩

theorem Ends.mono {Q' : α → Machine σ → Option Nat → Prop} {stops' : Completion → Prop}
    (h : Ends machine latest x Q stops) (hQ : ∀ a next last, Q a next last → Q' a next last)
    (hstops : ∀ completion, stops completion → stops' completion) :
    Ends machine latest x Q' stops' :=
  Attempt.Triple.conseq h (fun _ hs => hs) (fun a context => hQ a context.machine _)
    fun _ => hstops _

/-- How code has ended that was run. -/
theorem Ends.ran {context : ExecutionContext σ}
    (h : Ends context.machine (latestAccess context.accesses) x Q stops) :
    match x context with
    | (some a, next) => Q a next.machine (latestAccess next.accesses)
    | (none, next) => stops next.result.completion := by
  obtain ⟨hreturned, hstopped⟩ := h context ⟨rfl, rfl⟩
  rcases hrun : x context with ⟨_ | a, next⟩
  · exact hstopped next hrun
  · exact hreturned a next hrun

theorem Ends.read {g : Machine σ → α} (h : Q (g machine) machine latest) :
    Ends machine latest (Attempt.read fun context => g context.machine) Q stops := by
  apply Attempt.Triple.read
  rintro context ⟨rfl, rfl⟩
  exact h

/-- The record may hold anything. -/
theorem Ends.readAny {g : ExecutionContext σ → α} (h : ∀ a, Q a machine latest) :
    Ends machine latest (Attempt.read g) Q stops := by
  apply Attempt.Triple.read
  rintro context ⟨rfl, rfl⟩
  exact h _

theorem Ends.orInvalidMemory
    (h : Ends machine latest x Q fun _ => stops .invalidMemoryAccess) :
    Ends machine latest (Exec.orInvalidMemory x) Q stops :=
  Attempt.Triple.onFailure h fun _ hs => hs

variable {done : Unit → Machine σ → Option Nat → Prop}

theorem note_ends {access : Access}
    (h : ∀ earlier, latestAccess earlier = latest →
      done () machine (latestAccess (access :: earlier))) :
    Ends machine latest (note access) done stops := by
  apply Attempt.Triple.update
  rintro context ⟨rfl, hlatest⟩
  exact h _ hlatest

theorem setMachine_ends {g : Machine σ → Machine σ} (h : done () (g machine) latest) :
    Ends machine latest (setMachine g) done stops := by
  apply Attempt.Triple.update
  rintro context ⟨rfl, rfl⟩
  exact h

theorem setResult_ends {g : EmulatorResult → EmulatorResult} (h : done () machine latest) :
    Ends machine latest (setResult g) done stops := by
  apply Attempt.Triple.update
  rintro context ⟨rfl, rfl⟩
  exact h

/-- Refusing an encoding gives up with that on record. -/
theorem unsupported_ends {faultOpcode : UInt8} (h : stops .unsupportedInstruction) :
    Ends machine latest (unsupported faultOpcode) Q stops :=
  Attempt.Triple.bind (Q := fun _ context => stops context.result.completion)
    (.update fun _ _ => h) fun _ => .fail fun _ hs => hs

/-- Code that denotes a value ends with it, or with an invalid access on record. -/
theorem Denotes.ends {value : Option α}
    (hx : ∀ start : ExecutionContext σ, start.machine = machine → Denotes start x value)
    (h : ∀ a last, value = some a → Q a machine last)
    (hrefused : value = none → stops .invalidMemoryAccess) : Ends machine latest x Q stops := by
  rintro context ⟨rfl, -⟩
  obtain ⟨hreturned, hstopped⟩ := hx context rfl context (Untouched.refl context)
  constructor
  · intro a next hrun
    obtain ⟨hvalue, huntouched⟩ := hreturned a next hrun
    rw [huntouched.machine]
    exact h a _ hvalue
  · intro next hrun
    obtain ⟨hvalue, -, hcompletion⟩ := hstopped next hrun
    rw [hcompletion]
    exact hrefused hvalue

end Rules

section Accesses

variable {machine : Machine σ} {latest : Option Nat} (hbytes : machine.memory.bytes ≠ 0)
  {stops : Completion → Prop} {guestAddress : UInt64}

include hbytes

/-- The bytes of an instruction are read. -/
theorem readU8_ends {Q : UInt8 → Machine σ → Option Nat → Prop}
    (h : ∀ value last, machine.byteAt guestAddress = some value → Q value machine last)
    (hrefused : machine.byteAt guestAddress = none → stops .invalidMemoryAccess) :
    Ends machine latest (orInvalidMemory (readU8 guestAddress)) Q stops :=
  Denotes.ends (fun _ hstart => (hstart ▸ readU8_denotes (hstart ▸ hbytes) _ :
    Denotes _ _ (machine.byteAt guestAddress)).orInvalidMemory) h hrefused

theorem readGuest_ends {length : Nat} {Q : List UInt8 → Machine σ → Option Nat → Prop}
    (h : ∀ bytes, machine.bytesAt guestAddress length = some bytes → Q bytes machine (some length))
    (hrefused : machine.bytesAt guestAddress length = none → stops .invalidMemoryAccess) :
    Ends machine latest (readGuest guestAddress length) Q stops := by
  refine .bind (Denotes.ends (fun start hstart =>
    hstart ▸ translateGuestPointer_denotes (hstart ▸ hbytes) guestAddress length)
    (fun offset last hoffset => ?_) fun hnone => hrefused (by rw [Machine.bytesAt, hnone]; rfl))
  refine .bind (note_ends fun earlier _ => ?_)
  refine Ends.read (g := fun machine => loadBytes machine.host (machine.memory.bytes + offset) length)
    (h _ ?_)
  rw [Machine.bytesAt, hoffset, Option.map_some]

theorem readU32_ends {Q : UInt32 → Machine σ → Option Nat → Prop}
    (h : ∀ value, machine.wordAt guestAddress = some value → Q value machine (some 4))
    (hrefused : machine.wordAt guestAddress = none → stops .invalidMemoryAccess) :
    Ends machine latest (orInvalidMemory (readU32 guestAddress)) Q stops :=
  .orInvalidMemory (.bind (readGuest_ends hbytes
    (fun bytes hloaded => .pure (h _ (by rw [Machine.wordAt, hloaded]; rfl)))
    fun hnone => hrefused (by rw [Machine.wordAt, hnone]; rfl)))

theorem readI32_ends {Q : Int32 → Machine σ → Option Nat → Prop}
    (h : ∀ value, machine.wordAt guestAddress = some value → Q value.toInt32 machine (some 4))
    (hrefused : machine.wordAt guestAddress = none → stops .invalidMemoryAccess) :
    Ends machine latest (orInvalidMemory (readI32 guestAddress)) Q stops :=
  .orInvalidMemory (.bind (.bind (readGuest_ends hbytes
    (fun bytes hloaded => .pure (.pure (h _ (by rw [Machine.wordAt, hloaded]; rfl))))
    fun hnone => hrefused (by rw [Machine.wordAt, hnone]; rfl))))

theorem readI8_ends {Q : Int8 → Machine σ → Option Nat → Prop}
    (h : ∀ value last, machine.byteAt guestAddress = some value → Q value.toInt8 machine last)
    (hrefused : machine.byteAt guestAddress = none → stops .invalidMemoryAccess) :
    Ends machine latest (orInvalidMemory (readI8 guestAddress)) Q stops :=
  .orInvalidMemory (.bind (Denotes.ends
    (fun _ hstart => hstart ▸ readU8_denotes (hstart ▸ hbytes) _)
    (fun value last hvalue => .pure (h value last hvalue)) hrefused))

theorem writeGuest_ends {bytes : List UInt8} {Q : Unit → Machine σ → Option Nat → Prop}
    (h : (machine.memory.offsetOf guestAddress bytes.length).isSome →
      Q () { machine with host := storeBytes machine.host (machine.hostAddress guestAddress) bytes }
        (some bytes.length))
    (hrefused : machine.memory.offsetOf guestAddress bytes.length = none →
      stops .invalidMemoryAccess) :
    Ends machine latest (writeGuest guestAddress bytes) Q stops := by
  refine .bind (Denotes.ends (fun start hstart =>
    hstart ▸ translateGuestPointer_denotes (hstart ▸ hbytes) guestAddress bytes.length)
    (fun offset last hoffset => ?_) hrefused)
  obtain ⟨rfl, -⟩ := EmulatorMemory.offsetOf_bound hoffset
  exact .bind (note_ends fun _ _ => setMachine_ends (h (by rw [hoffset]; rfl)))

end Accesses

section Registers

variable {machine : Machine σ} {latest : Option Nat} {stops : Completion → Prop} {index : UInt32}

theorem getRegister64_ends {Q : UInt64 → Machine σ → Option Nat → Prop}
    (h : Q (machine.register index) machine latest) :
    Ends machine latest (getRegister64 index) Q stops :=
  .bind (note_ends fun _ hlatest =>
    Ends.read (g := fun machine => machine.register index) (hlatest ▸ h))

theorem getRegister32_ends {Q : UInt32 → Machine σ → Option Nat → Prop}
    (h : Q (machine.register index).toUInt32 machine latest) :
    Ends machine latest (getRegister32 index) Q stops :=
  .bind (getRegister64_ends (.pure h))

variable {Q : Unit → Machine σ → Option Nat → Prop}

theorem setRegister64_ends {value : UInt64} (h : Q () (machine.setRegister index value) latest) :
    Ends machine latest (setRegister64 index value) Q stops :=
  .bind (note_ends fun _ hlatest => setMachine_ends (hlatest ▸ h))

theorem setRegister32_ends {value : UInt32}
    (h : Q () (@Machine.assign _ false machine (.register index) value.toBitVec) latest) :
    Ends machine latest (setRegister32 index value) Q stops := by
  rw [Machine.assign, zeroExtended_32] at h
  exact setRegister64_ends h

/-- A flag routine replaces the flags by a function of them. -/
theorem changeFlags_ends {g : UInt64 → UInt64}
    (h : Q () (machine.setFlags (g machine.state.flags)) latest) :
    Ends machine latest (getFlags >>= fun flags => Exec.setFlags (g flags)) Q stops :=
  .bind (Ends.read (g := fun machine => machine.state.flags) (setMachine_ends h))

theorem continueAt_ends {instructionPointer : UInt64}
    {R : InstructionOutcome → Machine σ → Option Nat → Prop}
    (h : R .continueRunning (machine.jumpTo instructionPointer) latest) :
    Ends machine latest (continueAt instructionPointer) R stops :=
  .bind (setMachine_ends (.pure h))

end Registers

end Ringos.Emulator
