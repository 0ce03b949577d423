import Ringos.Core.WaitGraph
import Ringos.Kernel.Types
import Mathlib.Logic.Function.Basic

/-!
# Synchronous calls between scheduled threads

What the runtime is for, without memory, names or handles: threads of any type
take turns on one CPU, a call blocks its client and runs its server, and each
pending call sits on a channel of any type. A step is what one kernel entry can
do to this picture; a mode says which steps a run avoids.
-/

namespace Ringos.Scheduler

open Ringos.Core Ringos.Kernel

/-- A pending call: who waits, who serves, and the state the server had before. -/
structure Call (T : Type) where
  client : T
  server : T
  saved : UserThreadState

/-- Thread states, the thread on the CPU and the pending calls by channel. -/
@[ext] structure State (T C : Type) where
  state : T → UserThreadState
  current : Option T
  pending : C → Option (Call T)

variable {T C : Type} [DecidableEq T] [DecidableEq C]

namespace State

/-- `client` waits for `server`, another thread, on some channel. -/
def Waits (s : State T C) (client server : T) : Prop :=
  ∃ c saved, s.pending c = some ⟨client, server, saved⟩ ∧ client ≠ server

/-- The state a thread has once it is on the CPU. -/
def promoted : UserThreadState → UserThreadState
  | .ready => .running
  | other => other

/-- Give the CPU to `next`, which is promoted; other states stay. -/
def dispatch (s : State T C) (next : T) : State T C :=
  { s with
    state := Function.update s.state next (promoted (s.state next))
    current := some next }

/-- The running thread steps back and a ready one takes the CPU. -/
def yieldTo (s : State T C) (active next : T) : State T C :=
  { s with state := Function.update s.state active .ready }.dispatch next

/-- `active` calls `server`, another thread, on channel `c`. -/
def call (s : State T C) (c : C) (active server : T) : State T C :=
  { s with
    state := Function.update s.state active .blocked
    pending := Function.update s.pending c (some ⟨active, server, s.state server⟩) }.dispatch server

/-- `active` calls itself on channel `c`. -/
def callSelf (s : State T C) (c : C) (active : T) : State T C :=
  { s with pending := Function.update s.pending c (some ⟨active, active, s.state active⟩) }

/-- `active` answers the call pending on `c` for another thread. -/
def complete (s : State T C) (c : C) (active client : T) (saved : UserThreadState) : State T C :=
  { s with
    state := Function.update (Function.update s.state active saved) client .ready
    pending := Function.update s.pending c none }.dispatch client

/-- The call pending on `c` ends and no thread changes its state. -/
def completeSelf (s : State T C) (c : C) : State T C :=
  { s with pending := Function.update s.pending c none }

/-- The exit of `active` cancels the call pending on `c` and readies its client. -/
def cancel (s : State T C) (active : T) (c : C) (client : T) : State T C :=
  { s with
    state := if client = active then s.state else Function.update s.state client .ready
    pending := Function.update s.pending c none }

/-- `active` has exited. -/
def retire (s : State T C) (active : T) : State T C :=
  { s with state := Function.update s.state active .exited }

/-- Nothing is ready and the CPU idles. -/
def idle (s : State T C) : State T C := { s with current := none }

/-- The call that the exit of `active` cancels is one pending on it, if there is any. -/
inductive Cancels (s : State T C) (active : T) : State T C → Prop
  | nothing : (∀ c client saved, s.pending c ≠ some ⟨client, active, saved⟩) →
      Cancels s active s
  | one (c : C) (client : T) (saved : UserThreadState) :
      s.pending c = some ⟨client, active, saved⟩ → Cancels s active (s.cancel active c client)

/-- After an exit the CPU goes to a ready thread, if there is any. -/
inductive Schedules (s : State T C) : State T C → Prop
  | next (next : T) : s.state next = .ready → Schedules s (s.dispatch next)
  | idle : (∀ t, s.state t ≠ .ready) → Schedules s s.idle

end State

/-- The conditions that the steps of a run keep. -/
structure Mode where
  /-- Exits are by running threads and leave no other thread's call pending on the exiting
  thread, and no pending call is lost. -/
  attached : Bool
  /-- No call goes to a blocked server. -/
  strict : Bool

/-- What one kernel entry can do, as far as the conditions of the run allow. -/
inductive Step (mode : Mode) (s : State T C) : State T C → Prop
  | quiet : Step mode s s
  | yields (active next : T) : s.current = some active → s.state active = .running →
      s.state next = .ready → Step mode s (s.yieldTo active next)
  | calls (c : C) (active server : T) : s.current = some active → s.state active = .running →
      s.pending c = none → server ≠ active → s.state server ≠ .exited →
      s.state server ≠ .empty → (mode.strict = true → s.state server ≠ .blocked) →
      Step mode s (s.call c active server)
  | callsSelf (c : C) (active : T) : s.current = some active → s.state active = .running →
      s.pending c = none → Step mode s (s.callSelf c active)
  | completes (c : C) (active client : T) (saved : UserThreadState) :
      s.current = some active → s.state active = .running →
      s.pending c = some ⟨client, active, saved⟩ → client ≠ active →
      Step mode s (s.complete c active client saved)
  | completesSelf (c : C) (active : T) (saved : UserThreadState) :
      s.current = some active → s.state active = .running →
      s.pending c = some ⟨active, active, saved⟩ → Step mode s (s.completeSelf c)
  | exits (active : T) (cancelled final : State T C) :
      s.current = some active → s.Cancels active cancelled →
      (mode.attached = true →
        s.state active = .running ∧ ∀ client, ¬ cancelled.Waits client active) →
      (cancelled.retire active).Schedules final → Step mode s final
  | drops (c : C) : mode.attached = false → Step mode s (s.completeSelf c)

end Ringos.Scheduler
