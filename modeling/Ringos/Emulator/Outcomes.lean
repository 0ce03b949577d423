import Ringos.Emulator.DecoderEffects

/-!
# Where code leads from a machine

The weakest precondition of emulator code, as a condition on the machine alone:
from a machine the code returns a value and a machine within `Q`, or gives up,
which `fails` has to admit. With `fails` true this is partial correctness. Each
accessor has one rule; a handler is evaluated by applying them in order.
-/

namespace Ringos.Emulator

open Ringos.Core
open Exec

variable {σ α β : Type}

/-- From `machine` the code returns within `Q`, or gives up where that is admitted. -/
def Leads (machine : Machine σ) (x : Exec σ α) (Q : α → Machine σ → Prop) (fails : Prop) : Prop :=
  Attempt.Triple (fun context => context.machine = machine) x
    (fun a context => Q a context.machine) fun _ => fails

section Rules

variable {machine : Machine σ} {x : Exec σ α} {f : α → Exec σ β} {Q : α → Machine σ → Prop}
  {R : β → Machine σ → Prop} {fails : Prop}

theorem Leads.pure {a : α} (h : Q a machine) : Leads machine (Pure.pure a) Q fails :=
  Attempt.Triple.pure fun _ hmachine => hmachine ▸ h

theorem Leads.bind (h : Leads machine x (fun a next => Leads next (f a) R fails) fails) :
    Leads machine (x >>= f) R fails :=
  Attempt.Triple.bind h fun _ context hcontext => hcontext context rfl

theorem Leads.mono {Q' : α → Machine σ → Prop} (h : Leads machine x Q fails)
    (hQ : ∀ a next, Q a next → Q' a next) : Leads machine x Q' fails :=
  Attempt.Triple.conseq h (fun _ hs => hs) (fun a context => hQ a context.machine) fun _ hs => hs

/-- What code that has returned has led to. -/
theorem Leads.returned {context next : ExecutionContext σ} {a : α}
    (h : Leads context.machine x Q fails) (hrun : x context = (some a, next)) : Q a next.machine :=
  (h context rfl).1 a next hrun

/-- Code that may not give up returns. -/
theorem Leads.returns {context : ExecutionContext σ} (h : Leads context.machine x Q False) :
    ∃ a next, x context = (some a, next) ∧ Q a next.machine := by
  rcases hrun : x context with ⟨_ | a, next⟩
  · exact ((h context rfl).2 next hrun).elim
  · exact ⟨a, next, rfl, h.returned hrun⟩

theorem Leads.fail (h : fails) : Leads machine (Attempt.fail : Exec σ α) Q fails :=
  Attempt.Triple.fail fun _ _ => h

theorem Leads.read {g : Machine σ → α} (h : Q (g machine) machine) :
    Leads machine (Attempt.read fun context => g context.machine) Q fails :=
  Attempt.Triple.read fun _ hmachine => by rw [hmachine]; exact h

/-- The record may hold anything. -/
theorem Leads.readAny {g : ExecutionContext σ → α} (h : ∀ a, Q a machine) :
    Leads machine (Attempt.read g) Q fails :=
  Attempt.Triple.read fun _ hmachine => by rw [hmachine]; exact h _

theorem Leads.onFailure {g : ExecutionContext σ → ExecutionContext σ} (h : Leads machine x Q fails) :
    Leads machine (Attempt.onFailure g x) Q fails :=
  Attempt.Triple.onFailure h fun _ hfails => hfails

theorem Leads.orInvalidMemory (h : Leads machine x Q fails) :
    Leads machine (Exec.orInvalidMemory x) Q fails := h.onFailure

theorem Leads.orUnsupported {faultOpcode : UInt8} (h : Leads machine x Q fails) :
    Leads machine (Emulator.orUnsupported faultOpcode x) Q fails := h.onFailure

variable {done : Unit → Machine σ → Prop}

theorem note_leads {access : Access} (h : done () machine) :
    Leads machine (note access) done fails :=
  Attempt.Triple.update fun _ hmachine => by rw [← hmachine] at h; exact h

theorem setResult_leads {g : EmulatorResult → EmulatorResult} (h : done () machine) :
    Leads machine (setResult g) done fails :=
  Attempt.Triple.update fun _ hmachine => by rw [← hmachine] at h; exact h

theorem setMachine_leads {g : Machine σ → Machine σ} (h : done () (g machine)) :
    Leads machine (setMachine g) done fails :=
  Attempt.Triple.update fun _ hmachine => by rw [← hmachine] at h; exact h

/-- Refusing an encoding gives up. -/
theorem unsupported_leads {faultOpcode : UInt8} (h : fails) :
    Leads machine (unsupported faultOpcode) Q fails :=
  .bind (setResult_leads (.fail h))

end Rules

/-- Code that denotes a value leads to it and leaves the machine alone. -/
theorem Denotes.leads {machine : Machine σ} {x : Exec σ α} {value : Option α}
    {Q : α → Machine σ → Prop} {fails : Prop}
    (hx : ∀ start : ExecutionContext σ, start.machine = machine → Denotes start x value)
    (h : ∀ a, value = some a → Q a machine) (hrefused : value = none → fails) :
    Leads machine x Q fails := by
  rintro context rfl
  obtain ⟨hret, hfail⟩ := hx context rfl context (Untouched.refl context)
  constructor
  · intro a next hrun
    obtain ⟨hvalue, huntouched⟩ := hret a next hrun
    rw [huntouched.machine]
    exact h a hvalue
  · intro next hrun
    exact hrefused (hfail next hrun).1

section Accesses

variable {machine : Machine σ} (hbytes : machine.memory.bytes ≠ 0) {fails : Prop}
  {guestAddress : UInt64}

include hbytes

theorem readU8_leads {Q : UInt8 → Machine σ → Prop}
    (h : ∀ value, machine.byteAt guestAddress = some value → Q value machine)
    (hrefused : machine.byteAt guestAddress = none → fails) :
    Leads machine (readU8 guestAddress) Q fails :=
  Denotes.leads (fun _ hstart => hstart ▸ readU8_denotes (hstart ▸ hbytes) _) h hrefused

theorem readU32_leads {Q : UInt32 → Machine σ → Prop}
    (h : ∀ value, machine.wordAt guestAddress = some value → Q value machine)
    (hrefused : machine.wordAt guestAddress = none → fails) :
    Leads machine (readU32 guestAddress) Q fails :=
  Denotes.leads (fun _ hstart => hstart ▸ readU32_denotes (hstart ▸ hbytes) _) h hrefused

theorem readU64_leads {Q : UInt64 → Machine σ → Prop}
    (h : ∀ value, machine.quadAt guestAddress = some value → Q value machine)
    (hrefused : machine.quadAt guestAddress = none → fails) :
    Leads machine (readU64 guestAddress) Q fails :=
  Denotes.leads (fun _ hstart => hstart ▸ readU64_denotes (hstart ▸ hbytes) _) h hrefused

theorem readI8_leads {Q : Int8 → Machine σ → Prop}
    (h : ∀ value, machine.byteAt guestAddress = some value → Q value.toInt8 machine)
    (hrefused : machine.byteAt guestAddress = none → fails) :
    Leads machine (readI8 guestAddress) Q fails :=
  .bind (readU8_leads hbytes (fun value hvalue => .pure (h value hvalue)) hrefused)

theorem readI32_leads {Q : Int32 → Machine σ → Prop}
    (h : ∀ value, machine.wordAt guestAddress = some value → Q value.toInt32 machine)
    (hrefused : machine.wordAt guestAddress = none → fails) :
    Leads machine (readI32 guestAddress) Q fails :=
  .bind (readU32_leads hbytes (fun value hvalue => .pure (h value hvalue)) hrefused)

/-- A write stores its bytes where the guest region holds them. -/
theorem writeGuest_leads {bytes : List UInt8} {Q : Unit → Machine σ → Prop}
    (h : (machine.memory.offsetOf guestAddress bytes.length).isSome →
      Q () { machine with
        host := storeBytes machine.host
          (machine.memory.bytes + (guestAddress - machine.memory.baseAddress)) bytes })
    (hrefused : machine.memory.offsetOf guestAddress bytes.length = none → fails) :
    Leads machine (writeGuest guestAddress bytes) Q fails := by
  refine .bind (Denotes.leads (fun start hstart =>
    hstart ▸ translateGuestPointer_denotes (hstart ▸ hbytes) guestAddress bytes.length)
    (fun offset hoffset => ?_) hrefused)
  obtain ⟨rfl, -⟩ := EmulatorMemory.offsetOf_bound hoffset
  exact .bind (note_leads (setMachine_leads (h (by rw [hoffset]; rfl))))

end Accesses

section Registers

variable {machine : Machine σ} {fails : Prop} {index : UInt32}

theorem getRegister64_leads {Q : UInt64 → Machine σ → Prop}
    (h : Q (machine.register index) machine) : Leads machine (getRegister64 index) Q fails :=
  .bind (note_leads (Leads.read (g := fun machine => machine.register index) h))

theorem getRegister32_leads {Q : UInt32 → Machine σ → Prop}
    (h : Q (machine.register index).toUInt32 machine) :
    Leads machine (getRegister32 index) Q fails :=
  .bind (getRegister64_leads (.pure h))

variable {Q : Unit → Machine σ → Prop}

theorem setRegister64_leads {value : UInt64} (h : Q () (machine.setRegister index value)) :
    Leads machine (setRegister64 index value) Q fails :=
  .bind (note_leads (setMachine_leads h))

theorem setRegister32_leads {value : UInt32} (h : Q () (machine.setRegister index value.toUInt64)) :
    Leads machine (setRegister32 index value) Q fails :=
  setRegister64_leads h

/-- The machine with other flags. -/
def Machine.setFlags (machine : Machine σ) (flags : UInt64) : Machine σ :=
  machine.mapState fun state => { state with flags := flags }

/-- The machine at another instruction. -/
def Machine.jumpTo (machine : Machine σ) (instructionPointer : UInt64) : Machine σ :=
  machine.mapState fun state => { state with instructionPointer := instructionPointer }

/-- A flag routine replaces the flags by a function of them. -/
theorem changeFlags_leads {g : UInt64 → UInt64}
    (h : Q () (machine.setFlags (g machine.state.flags))) :
    Leads machine (getFlags >>= fun flags => Exec.setFlags (g flags)) Q fails :=
  .bind (Leads.read (g := fun machine => machine.state.flags) (setMachine_leads h))

theorem continueAt_leads {instructionPointer : UInt64}
    {R : InstructionOutcome → Machine σ → Prop}
    (h : R .continueRunning (machine.jumpTo instructionPointer)) :
    Leads machine (continueAt instructionPointer) R fails :=
  .bind (setMachine_leads (.pure h))

end Registers

end Ringos.Emulator
