import Mathlib.Order.Interval.Set.Defs
import Mathlib.Data.Set.Function
import Mathlib.Data.List.Nodup

/-!
# Names drawn from a counter

Slots of any type carry at most one name each. Names come from a counter whose
`k`-th value is `stamp k`; they are given once and may be taken away. As long
as the counter has not come round, no two slots share a name and a name that
has been taken away is never given again.
-/

namespace Ringos.Core

/-- Named slots and the number of names given so far. -/
structure Naming (S α : Type) where
  /-- The name a slot carries. -/
  name : S → Option α
  /-- How many names have been given. -/
  count : Nat

namespace Naming

variable {S α : Type} (stamp : Nat → α)

/-- The names given so far, in order. -/
def given (count : Nat) : List α := (List.range count).map stamp

/-- Names are taken away, or the next one is given to some slot. -/
inductive Step (N N' : Naming S α) : Prop
  | kept : N'.count = N.count → (∀ s a, N'.name s = some a → N.name s = some a) → Step N N'
  | gave (slot : S) : N'.count = N.count + 1 →
      (∀ s a, N'.name s = some a → N.name s = some a ∨ s = slot ∧ a = stamp N.count) → Step N N'

/-- Every name in use has been given, and to one slot only. -/
structure Valid (N : Naming S α) : Prop where
  wasGiven : ∀ s a, N.name s = some a → a ∈ given stamp N.count
  unique : ∀ s s' a, N.name s = some a → N.name s' = some a → s = s'

variable {stamp} {bound : Nat} (hstamp : Set.InjOn stamp (Set.Iio bound))

include hstamp in
/-- Before the counter comes round the names given are distinct. -/
theorem given_nodup {count : Nat} (h : count ≤ bound) : (given stamp count).Nodup := by
  refine List.Nodup.map_on ?_ List.nodup_range
  intro i hi j hj heq
  rw [List.mem_range] at hi hj
  exact hstamp (hi.trans_le h) (hj.trans_le h) heq

include hstamp in
/-- Before the counter comes round the next name has not been given. -/
theorem stamp_not_given {count : Nat} (h : count < bound) : stamp count ∉ given stamp count := by
  intro hmem
  obtain ⟨i, hi, heq⟩ := List.mem_map.mp hmem
  rw [List.mem_range] at hi
  have : i = count := hstamp (hi.trans h) h heq
  omega

theorem given_succ (count : Nat) : given stamp (count + 1) = given stamp count ++ [stamp count] := by
  simp only [given, List.range_succ, List.map_append, List.map_singleton]

include hstamp in
/-- Every step before the counter comes round keeps the names valid. -/
theorem Step.valid {N N' : Naming S α} (hstep : Step stamp N N') (h : Valid stamp N)
    (hcount : N'.count ≤ bound) : Valid stamp N' := by
  cases hstep with
  | kept hsame hsub =>
    refine ⟨fun s a hs => ?_, fun s s' a hs hs' => h.unique s s' a (hsub s a hs) (hsub s' a hs')⟩
    rw [hsame]
    exact h.wasGiven s a (hsub s a hs)
  | gave slot hsucc hsub =>
    have hfresh := stamp_not_given hstamp (show N.count < bound by omega)
    refine ⟨fun s a hs => ?_, fun s s' a hs hs' => ?_⟩
    · rw [hsucc, given_succ, List.mem_append, List.mem_singleton]
      exact (hsub s a hs).imp (h.wasGiven s a) And.right
    · rcases hsub s a hs with hold | ⟨rfl, rfl⟩
      · rcases hsub s' a hs' with hold' | ⟨-, rfl⟩
        · exact h.unique s s' a hold hold'
        · exact absurd (h.wasGiven s _ hold) hfresh
      · rcases hsub s' _ hs' with hold' | ⟨rfl, -⟩
        · exact absurd (h.wasGiven s' _ hold') hfresh
        · rfl

include hstamp in
/-- A name that was given and is carried by no slot stays so. -/
theorem Step.stays_unused {N N' : Naming S α} (hstep : Step stamp N N')
    (hcount : N'.count ≤ bound) {a : α} (ha : a ∈ given stamp N.count)
    (hunused : ∀ s, N.name s ≠ some a) (s : S) : N'.name s ≠ some a := by
  intro hs
  cases hstep with
  | kept _ hsub => exact hunused s (hsub s a hs)
  | gave slot hsucc hsub =>
    rcases hsub s a hs with hold | ⟨-, rfl⟩
    · exact hunused s hold
    · exact stamp_not_given hstamp (show N.count < bound by omega) ha

/-- The count never falls. -/
theorem Step.count_le {N N' : Naming S α} (hstep : Step stamp N N') : N.count ≤ N'.count := by
  cases hstep with
  | kept hsame _ => exact hsame.ge
  | gave _ hsucc _ => omega

end Naming

end Ringos.Core
