import Mathlib.Logic.Basic
import Mathlib.Order.Basic
import Mathlib.Tactic.Cases

/-!
# Acyclic waiting

A waiting relation is acyclic when some rank decreases along it. Dropping edges
keeps a rank; a new edge into a node that waits for nobody keeps one after the
rank is shifted. In an acyclic relation, following waits leaves any set in which
every member waits.
-/

namespace Ringos.Core

variable {T : Type}

/-- Some natural-number rank strictly decreases along every wait. -/
def Acyclic (waits : T → T → Prop) : Prop :=
  ∃ rank : T → ℕ, ∀ a b, waits a b → rank b < rank a

/-- Removing waits keeps the relation acyclic. -/
theorem Acyclic.mono {waits fewer : T → T → Prop} (h : Acyclic waits)
    (hle : ∀ a b, fewer a b → waits a b) : Acyclic fewer := by
  obtain ⟨rank, hrank⟩ := h
  exact ⟨rank, fun a b hab => hrank a b (hle a b hab)⟩

/-- Waiting for a node that waits for nobody closes no cycle. -/
theorem Acyclic.addSink [DecidableEq T] {waits more : T → T → Prop} {client server : T}
    (h : Acyclic waits) (hsink : ∀ b, ¬ waits server b) (hne : client ≠ server)
    (hle : ∀ a b, more a b → waits a b ∨ (a = client ∧ b = server)) : Acyclic more := by
  obtain ⟨rank, hrank⟩ := h
  refine ⟨fun t => if t = server then 0 else rank t + 1, fun a b hab => ?_⟩
  rcases hle a b hab with hw | ⟨rfl, rfl⟩
  · have ha : a ≠ server := fun he => hsink b (he ▸ hw)
    have hr := hrank a b hw
    by_cases hb : b = server
    · simp [ha, hb]
    · simp only [ha, hb, if_false]
      omega
  · simp [hne]

/-- If every member of `P` waits for a member of `P` or of `Q`, some member of `Q` exists. -/
theorem Acyclic.escapes {waits : T → T → Prop} (h : Acyclic waits) {P Q : T → Prop}
    (hstep : ∀ a, P a → ∃ b, waits a b ∧ (P b ∨ Q b)) {a : T} (ha : P a) : ∃ b, Q b := by
  obtain ⟨rank, hrank⟩ := h
  induction hn : rank a using Nat.strongRecOn generalizing a with
  | ind n ih =>
    obtain ⟨b, hw, hb | hb⟩ := hstep a ha
    · exact ih (rank b) (hn ▸ hrank a b hw) hb rfl
    · exact ⟨b, hb⟩

end Ringos.Core
