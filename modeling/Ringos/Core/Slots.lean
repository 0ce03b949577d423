import Mathlib.Data.Fintype.Basic
import Mathlib.Logic.Function.Basic

/-!
# Bounded slot tables

A fixed-capacity table is a function on its slot indices and a write is
`Function.update`. The only search such a table needs is the upward index scan
that stops at the first hit; its two outcomes are characterised here once.
-/

namespace Ringos.Core

/-- The upward scan `for index = 0, 1, ..., n - 1` that stops at the first hit. -/
def firstIndex {n : Nat} (p : Fin n → Bool) : Option (Fin n) := (List.finRange n).find? p

/-- A reported slot passes the test. -/
theorem firstIndex_some {n : Nat} {p : Fin n → Bool} {i : Fin n}
    (h : firstIndex p = some i) : p i = true :=
  List.find?_some h

/-- An empty scan means that every slot fails the test. -/
theorem firstIndex_eq_none {n : Nat} {p : Fin n → Bool} :
    firstIndex p = none ↔ ∀ i, p i = false := by
  simp [firstIndex, List.find?_eq_none]

/-- No slot below the reported one passes the test. -/
theorem firstIndex_min {n : Nat} {p : Fin n → Bool} {i j : Fin n}
    (h : firstIndex p = some i) (hj : p j = true) : i ≤ j := by
  obtain ⟨_, as, bs, hsplit, has⟩ := List.find?_eq_some_iff_append.mp h
  have hsorted : (List.finRange n).Pairwise (· < ·) := List.pairwise_lt_finRange n
  have hmem : j ∈ as ++ i :: bs := hsplit ▸ List.mem_finRange j
  rw [hsplit, List.pairwise_append] at hsorted
  rcases List.mem_append.mp hmem with hleft | hright
  · have := has j hleft
    simp [hj] at this
  · rcases List.mem_cons.mp hright with rfl | hlater
    · exact le_refl j
    · exact ((List.pairwise_cons.mp hsorted.2.1).1 j hlater).le

/-- Some passing slot makes the scan succeed. -/
theorem firstIndex_isSome {n : Nat} {p : Fin n → Bool} {i : Fin n} (h : p i = true) :
    ∃ j, firstIndex p = some j := by
  cases hf : firstIndex p with
  | some j => exact ⟨j, rfl⟩
  | none =>
    have := firstIndex_eq_none.mp hf i
    simp [h] at this

/-- The least passing slot is the one reported. -/
theorem firstIndex_eq_some {n : Nat} {p : Fin n → Bool} {i : Fin n} (hi : p i = true)
    (hmin : ∀ j, p j = true → i ≤ j) : firstIndex p = some i := by
  obtain ⟨j, hj⟩ := firstIndex_isSome hi
  have heq : j = i := le_antisymm (firstIndex_min hj hi) (hmin j (firstIndex_some hj))
  rw [hj, heq]

/-- When one more slot passes, the scan stops there or at an earlier slot as before. -/
theorem firstIndex_of_added {n : Nat} {p q : Fin n → Bool} {i c : Fin n} (hi : q i = true)
    (hother : ∀ j, j ≠ i → q j = p j) (h : firstIndex q = some c) :
    c = i ∨ (c < i ∧ firstIndex p = some c) := by
  by_cases hc : c = i
  · exact .inl hc
  have hlt : c < i := lt_of_le_of_ne (firstIndex_min h hi) hc
  refine .inr ⟨hlt, firstIndex_eq_some (hother c hc ▸ firstIndex_some h) fun j hj => ?_⟩
  by_cases hji : j = i
  · exact hji ▸ hlt.le
  · exact firstIndex_min h (hother j hji ▸ hj)

/-- An earlier slot stays the first one. -/
theorem firstIndex_added_of_lt {n : Nat} {p q : Fin n → Bool} {i c : Fin n}
    (hother : ∀ j, j ≠ i → q j = p j) (hlt : c < i) (h : firstIndex p = some c) :
    firstIndex q = some c := by
  refine firstIndex_eq_some ((hother c hlt.ne).trans (firstIndex_some h)) fun j hj => ?_
  by_cases hji : j = i
  · exact hji ▸ hlt.le
  · exact firstIndex_min h ((hother j hji).symm.trans hj)

/-- Scans of tests that agree on every slot agree. -/
theorem firstIndex_congr {n : Nat} {p q : Fin n → Bool} (h : ∀ i, p i = q i) :
    firstIndex p = firstIndex q := by
  rw [show p = q from funext h]

end Ringos.Core
