import Ringos.Emulator.Composition

/-!
# Steps do not depend on the record

What an instruction does to the guest, and the verdict it leaves, depend on the
guest and the verdict so far, and on nothing else a context holds: not on the
count of retired instructions, the fault fields or the log. So two contexts
that agree on the former stay in step. The reserved flag is part of what they
agree on, since every handler that writes the flags sets it.
-/

namespace Ringos.Emulator

open Ringos.Core
open Exec

variable {σ : Type}

/-- The reserved flag is set. -/
def EmulatorState.Normal (state : EmulatorState) : Prop :=
  state.flags ||| rflagsReserved = state.flags

/-- Two contexts with the same guest and the same verdict. -/
structure Alike (left right : ExecutionContext σ) : Prop where
  machine : left.machine = right.machine
  normal : left.machine.state.Normal
  completion : left.result.completion = right.result.completion
  guestStopReason : left.result.guestStopReason = right.result.guestStopReason
  backendFailure : left.result.backendFailure = right.result.backendFailure

namespace Alike

variable {left right : ExecutionContext σ}

/-- Update both guests alike. -/
theorem mapMachine (h : Alike left right) {f : Machine σ → Machine σ}
    (hf : left.machine.state.Normal → (f left.machine).state.Normal) :
    Alike (left.mapMachine f) (right.mapMachine f) where
  machine := congrArg f h.machine
  normal := hf h.normal
  completion := h.completion
  guestStopReason := h.guestStopReason
  backendFailure := h.backendFailure

/-- Write the same verdict into both records. -/
theorem mapResult (h : Alike left right) {f g : EmulatorResult → EmulatorResult}
    (hcompletion : (f left.result).completion = (g right.result).completion)
    (hreason : (f left.result).guestStopReason = (g right.result).guestStopReason)
    (hbackend : (f left.result).backendFailure = (g right.result).backendFailure) :
    Alike (left.mapResult f) (right.mapResult g) where
  machine := h.machine
  normal := h.normal
  completion := hcompletion
  guestStopReason := hreason
  backendFailure := hbackend

theorem note (h : Alike left right) (access : Access) :
    Alike (left.note access) (right.note access) :=
  ⟨h.machine, h.normal, h.completion, h.guestStopReason, h.backendFailure⟩

/-- Update the verdict of both records. -/
theorem judged (h : Alike left right) {f : EmulatorResult → EmulatorResult} (hf : Judges f) :
    Alike (left.mapResult f) (right.mapResult f) := by
  have hverdict := hf left.result right.result
    ⟨h.completion, h.guestStopReason, h.backendFailure⟩
  exact h.mapResult hverdict.completion hverdict.guestStopReason hverdict.backendFailure

end Alike

/-- Code that keeps two contexts in step. -/
abbrev InStep {α : Type} (x : Exec σ α) : Prop := Attempt.Respects Alike x

section Accessors

/-- A read of the guest. -/
theorem inStep_read {α : Type} (f : Machine σ → α) :
    InStep (Attempt.read fun context : ExecutionContext σ => f context.machine) :=
  .read fun _ _ h => congrArg f h.machine

/-- A write to the guest that leaves the flags alone. -/
theorem inStep_setMachine {f : Machine σ → Machine σ}
    (hf : ∀ machine, (f machine).state.flags = machine.state.flags) :
    InStep (setMachine f) :=
  .update fun _ _ h => h.mapMachine fun hnormal => by
    unfold EmulatorState.Normal at *
    rw [hf]
    exact hnormal

/-- The opcode of the record may differ, so what follows has to be in step for any two. -/
theorem inStep_readOpcode {α : Type} {f : UInt8 → Exec σ α}
    (h : ∀ opcode opcode' left right, Alike left right →
      (f opcode left).1 = (f opcode' right).1 ∧ Alike (f opcode left).2 (f opcode' right).2) :
    InStep (Attempt.read (fun context : ExecutionContext σ => context.result.fault.opcode) >>= f) :=
  ⟨fun hstart => h _ _ _ _ hstart⟩

theorem inStep_translateGuestPointer (guestAddress : UInt64) (length : Nat) :
    InStep (translateGuestPointer guestAddress length : Exec σ UInt64) := by
  refine @Attempt.Respects.bind _ _ _ _ _ _ (inStep_read Machine.memory) fun memory => ?_
  refine inStep_readOpcode fun opcode opcode' left right h => ?_
  split
  · exact ⟨rfl, h⟩
  · split
    · exact ⟨rfl, h⟩
    · exact ⟨rfl, h.mapResult rfl rfl rfl⟩

end Accessors

section Flags

/-- Flags that have the reserved one among them. -/
theorem or_reserved (flags : UInt64) : (flags ||| rflagsReserved) ||| rflagsReserved =
    flags ||| rflagsReserved := by
  rw [UInt64.or_assoc, UInt64.or_self]

/-- Adding flags keeps the reserved one. -/
theorem or_reserved_of {flags : UInt64} (h : flags ||| rflagsReserved = flags) (added : UInt64) :
    (flags ||| added) ||| rflagsReserved = flags ||| added := by
  rw [UInt64.or_assoc, UInt64.or_comm added, ← UInt64.or_assoc, h]

theorem clearedFlags_normal (flags : UInt64) :
    clearedFlags flags ||| rflagsReserved = clearedFlags flags := or_reserved _

/-- A change of the flags to some that include the reserved one. -/
theorem inStep_changeFlags {f : UInt64 → UInt64}
    (h : ∀ flags, f flags ||| rflagsReserved = f flags) :
    InStep (getFlags >>= fun flags => setFlags (f flags) : Exec σ Unit) :=
  @Attempt.Respects.bind _ _ _ _ _ _ (inStep_read fun machine => machine.state.flags)
    fun flags => .update fun _ _ hstart => hstart.mapMachine fun _ => h flags

/-- The flags of the increments. -/
instance (lhs result : UInt64) (isDecrement is64Bit : Bool) :
    Satisfies (fun _ x => InStep x)
      (setIncDecFlags lhs result isDecrement is64Bit : Exec σ Unit) :=
  ⟨inStep_changeFlags fun _ => or_reserved_of (or_reserved_of (or_reserved_of (or_reserved _) _) _) _⟩

end Flags

/-- Composed code keeps two contexts in step. -/
instance : Compositional fun _ (x : Exec σ _) => InStep x where
  pure a := .pure a
  fail := .fail
  bind hx hf := @Attempt.Respects.bind _ _ _ _ _ _ hx hf
  onFailure hf hx := @Attempt.Respects.onFailure _ _ _ _ _ hx fun _ _ h => h.judged hf
  readMachine := inStep_read
  setMachine hf := inStep_setMachine fun machine => (hf machine).1
  setResult hf := .update fun _ _ h => h.judged hf
  note access := .update fun _ _ h => h.note access
  translateGuestPointer := inStep_translateGuestPointer
  refuse guestAddress hx := by
    refine inStep_readOpcode fun opcode opcode' left right h => ?_
    split
    · exact ⟨rfl, h.mapResult rfl rfl rfl⟩
    · exact hx.related h
  setLogicFlags _ _ := inStep_changeFlags fun flags =>
    or_reserved_of (or_reserved_of (clearedFlags_normal flags) _) _
  setCompareFlags _ _ _ _ := inStep_changeFlags fun flags =>
    or_reserved_of (or_reserved_of (or_reserved_of (or_reserved_of
      (clearedFlags_normal flags) _) _) _) _
  setAddFlags _ _ _ _ := inStep_changeFlags fun flags =>
    or_reserved_of (or_reserved_of (or_reserved_of (or_reserved_of
      (clearedFlags_normal flags) _) _) _) _

/-- The callback is given the guest, and changes only host memory and its own state. -/
instance (callbacks : Callbacks σ) : Satisfies (fun _ x => InStep x) (callHandler callbacks) where
  satisfied := ⟨fun {left right} h => by
    unfold callHandler
    rw [h.machine]
    cases callbacks.handleSyscall with
    | none => exact ⟨rfl, h⟩
    | some handleSyscall =>
      refine ⟨rfl, rfl, ?_, h.completion, h.guestStopReason, h.backendFailure⟩
      exact h.machine ▸ h.normal⟩

/-- A step keeps two contexts in step. -/
theorem interpretInstruction_inStep (callbacks : Callbacks σ) :
    InStep (interpretInstruction callbacks) :=
  (interpretInstruction_satisfies (P := fun _ x => InStep x) callbacks
    fun instruction => executeX64GroupFf_satisfies instruction inferInstance).satisfied

end Ringos.Emulator
