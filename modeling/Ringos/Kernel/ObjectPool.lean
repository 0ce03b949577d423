import Ringos.Core.Slots
import Ringos.Kernel.Types

/-!
# The kernel object pools

A pool is a table of slots, each empty or holding an object; a pointer to an
object is its slot index. The pools share one handle counter, which `emplace`
reads and advances. Every pool has been reset before it is used, so the null
check of `m_next_handle_value` has no counterpart.
-/

namespace Ringos.Kernel

open Ringos.Core

/-- `kernel_object::get_handle` of an object type. -/
class KernelObject (α : Type) where
  /-- The handle the object was constructed with. -/
  getHandle : α → Handle

/-- `kernel_object_pool<object_t, capacity>`. -/
structure KernelObjectPool (α : Type) (capacity : Nat) where
  /-- The slots; `none` is a slot with `is_occupied` false. -/
  items : Fin capacity → Option α
  nextObjectId : UInt32

namespace KernelObjectPool

variable {α : Type} {capacity : Nat}

/-- `kernel_object_pool::reset`. -/
def reset : KernelObjectPool α capacity := ⟨fun _ => none, 1⟩

/-- `kernel_object_pool::emplace`: the slot used, the new pool and the advanced counter. -/
def emplace (pool : KernelObjectPool α capacity) (nextHandleValue : Handle)
    (construct : UInt32 → Handle → α) :
    Option (Fin capacity × KernelObjectPool α capacity × Handle) :=
  match firstIndex fun index => (pool.items index).isNone with
  | none => none
  | some index =>
    let currentItem := construct pool.nextObjectId nextHandleValue
    some (index, ⟨Function.update pool.items index (some currentItem), pool.nextObjectId + 1⟩,
      nextHandleValue + 1)

/-- `kernel_object_pool::find_by_handle`. -/
def findByHandle [KernelObject α] (pool : KernelObjectPool α capacity) (handleValue : Handle) :
    Option (Fin capacity) :=
  firstIndex fun index =>
    match pool.items index with
    | none => false
    | some currentItem => KernelObject.getHandle currentItem == handleValue

/-- `kernel_object_pool::erase_by_handle`. -/
def eraseByHandle [KernelObject α] (pool : KernelObjectPool α capacity) (handleValue : Handle) :
    Bool × KernelObjectPool α capacity :=
  match pool.findByHandle handleValue with
  | none => (false, pool)
  | some index => (true, { pool with items := Function.update pool.items index none })

/-- The object behind a pointer into the pool. -/
def get [Inhabited α] (pool : KernelObjectPool α capacity) (index : Fin capacity) : α :=
  (pool.items index).getD default

/-- A write through a pointer into the pool. -/
def modify (pool : KernelObjectPool α capacity) (index : Fin capacity) (f : α → α) :
    KernelObjectPool α capacity :=
  { pool with items := Function.update pool.items index ((pool.items index).map f) }

theorem get_of_items [Inhabited α] {pool : KernelObjectPool α capacity} {index : Fin capacity}
    {object : α} (h : pool.items index = some object) : pool.get index = object := by
  simp only [get, h, Option.getD_some]

@[simp] theorem modify_items_self (pool : KernelObjectPool α capacity) (index : Fin capacity)
    (f : α → α) : (pool.modify index f).items index = (pool.items index).map f := by
  simp only [modify, Function.update_self]

theorem modify_items_of_ne (pool : KernelObjectPool α capacity) {index other : Fin capacity}
    (h : other ≠ index) (f : α → α) : (pool.modify index f).items other = pool.items other := by
  simp only [modify, Function.update_of_ne h]

/-- A write through a pointer creates and destroys nothing. -/
@[simp] theorem modify_items_isSome (pool : KernelObjectPool α capacity)
    (index other : Fin capacity) (f : α → α) :
    ((pool.modify index f).items other).isSome = (pool.items other).isSome := by
  by_cases h : other = index
  · subst h
    simp only [modify_items_self, Option.isSome_map]
  · rw [modify_items_of_ne pool h]

theorem get_modify_self [Inhabited α] {pool : KernelObjectPool α capacity} {index : Fin capacity}
    (h : (pool.items index).isSome) (f : α → α) :
    (pool.modify index f).get index = f (pool.get index) := by
  obtain ⟨object, ho⟩ := Option.isSome_iff_exists.mp h
  simp only [get, modify_items_self, ho, Option.map_some, Option.getD_some]

theorem get_modify_of_ne [Inhabited α] (pool : KernelObjectPool α capacity)
    {index other : Fin capacity} (h : other ≠ index) (f : α → α) :
    (pool.modify index f).get other = pool.get other := by
  simp only [get, modify_items_of_ne pool h]

/-- A successful allocation takes the first free slot and the next handle. -/
theorem emplace_eq_some {pool pool' : KernelObjectPool α capacity} {next next' : Handle}
    {construct : UInt32 → Handle → α} {index : Fin capacity}
    (h : pool.emplace next construct = some (index, pool', next')) :
    pool.items index = none ∧
      pool'.items = Function.update pool.items index (some (construct pool.nextObjectId next)) ∧
      next' = next + 1 := by
  unfold emplace at h
  cases hf : firstIndex fun index => (pool.items index).isNone with
  | none => simp [hf] at h
  | some found =>
    simp only [hf, Option.some.injEq, Prod.mk.injEq] at h
    obtain ⟨rfl, rfl, rfl⟩ := h
    exact ⟨Option.isNone_iff_eq_none.mp (firstIndex_some hf), rfl, rfl⟩

/-- A resolved handle names an object that carries it. -/
theorem findByHandle_eq_some [KernelObject α] {pool : KernelObjectPool α capacity}
    {handleValue : Handle} {index : Fin capacity}
    (h : pool.findByHandle handleValue = some index) :
    ∃ object, pool.items index = some object ∧ KernelObject.getHandle object = handleValue := by
  have hp := firstIndex_some h
  cases ho : pool.items index with
  | none => simp [ho] at hp
  | some object => exact ⟨object, rfl, by simpa [ho] using hp⟩

/-- An unresolved handle is carried by no object of the pool. -/
theorem findByHandle_eq_none [KernelObject α] {pool : KernelObjectPool α capacity}
    {handleValue : Handle} (h : pool.findByHandle handleValue = none) {index : Fin capacity}
    {object : α} (ho : pool.items index = some object) :
    KernelObject.getHandle object ≠ handleValue := by
  have hp := firstIndex_eq_none.mp h index
  simpa [ho] using hp

/-- A write that keeps handles is not seen by handle lookup. -/
theorem findByHandle_modify [KernelObject α] (pool : KernelObjectPool α capacity)
    (index : Fin capacity) {f : α → α}
    (hf : ∀ object, KernelObject.getHandle (f object) = KernelObject.getHandle object)
    (handleValue : Handle) :
    (pool.modify index f).findByHandle handleValue = pool.findByHandle handleValue := by
  refine firstIndex_congr fun other => ?_
  by_cases ho : other = index
  · subst ho
    rw [modify_items_self]
    cases pool.items other with
    | none => rfl
    | some object => simp only [Option.map_some, hf]
  · rw [modify_items_of_ne pool ho]

/-- A handle that resolves to an old object after an allocation resolved to it before. -/
theorem findByHandle_of_emplace [KernelObject α] {pool pool' : KernelObjectPool α capacity}
    {handleValue : Handle} {index found : Fin capacity} {object : α}
    (hfree : pool.items index = none)
    (hitems : pool'.items = Function.update pool.items index (some object))
    (hne : found ≠ index) (h : pool'.findByHandle handleValue = some found) :
    pool.findByHandle handleValue = some found := by
  have hold : ∀ j, j ≠ index → pool'.items j = pool.items j := by
    intro j hj
    rw [hitems, Function.update_of_ne hj]
  refine firstIndex_eq_some ?_ fun j hj => ?_
  · rw [← hold found hne]
    exact firstIndex_some h
  · have hindex : j ≠ index := by
      rintro rfl
      simp [hfree] at hj
    rw [← hold j hindex] at hj
    exact firstIndex_min h hj

end KernelObjectPool

end Ringos.Kernel
