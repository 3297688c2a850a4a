import WorldForge.Value.Key

/-!
# Handle allocation

Handles are given out in ascending order and never twice: a handle that has been given back stays
dead, so an old reference cannot reach a newer instance. The first handle has the number that the
allocator was made with, as it was given.

* `mem_keys_allocate`, `deallocate?_eq_some_iff` — what is alive after either operation;
* `deallocate?_allocate` — giving a new handle back at once leaves nothing but the higher count.
-/

namespace WorldForge

/-- The number of the next handle to give out, and the handles alive, oldest first. -/
structure Allocator where
  next : Numeral
  alive : List InstanceHandle
  deriving DecidableEq

namespace Allocator

/-- The number at which handles begin unless told otherwise. -/
def firstHandle : Int := 0x1000

def startingAt (first : Numeral) : Allocator := ⟨first, []⟩

/-- An allocator as it is made unless told otherwise. -/
def fromFirst : Allocator := startingAt (.number firstHandle)

instance : Inhabited Allocator := ⟨fromFirst⟩

/-- What the handles alive are found by. -/
def keys (a : Allocator) : List Key := a.alive.map InstanceHandle.key

def isAlive (a : Allocator) (k : Key) : Bool := k ∈ a.keys

/-- The handle that the next allocation gives. -/
def fresh (a : Allocator) : InstanceHandle := ⟨a.next⟩

/-- Gives out the next handle. -/
def allocate (a : Allocator) : InstanceHandle × Allocator :=
  (a.fresh, ⟨.number (a.next.toInt + 1), a.alive ++ [a.fresh]⟩)

/-- Marks a live handle dead; `none` if it is not alive. -/
def deallocate? (a : Allocator) (k : Key) : Option Allocator :=
  if a.isAlive k then some { a with alive := a.alive.filter (·.key ≠ k) } else none

/-! ## What is alive -/

variable {a b : Allocator} {k : Key}

/-- What is alive is listed: `isAlive` is the question as the program asks it, and `keys` is what
proofs speak of. -/
theorem isAlive_iff : a.isAlive k = true ↔ k ∈ a.keys := by
  simp [isAlive]

/-- After an allocation the next handle is alive, and everything that was alive before. No other
handle comes to life. -/
theorem mem_keys_allocate : k ∈ a.allocate.2.keys ↔ k ∈ a.keys ∨ k = a.fresh.key := by
  simp [allocate, keys]

/-- Only a live handle is given back, and only that handle dies. -/
theorem deallocate?_eq_some_iff :
    a.deallocate? k = some b ↔
      k ∈ a.keys ∧ { a with alive := a.alive.filter (·.key ≠ k) } = b := by
  unfold deallocate?
  split
  · rename_i hAlive
    simp [isAlive_iff.1 hAlive]
  · rename_i hDead
    have hMem : k ∉ a.keys := fun hMem => hDead (isAlive_iff.2 hMem)
    simp [hMem]

/-- **Giving a new handle back undoes the allocation**, except that its number is used up: the
allocator goes on with the number after it. -/
theorem deallocate?_allocate (hFresh : a.fresh.key ∉ a.keys) :
    a.allocate.2.deallocate? a.fresh.key = some { a with next := .number (a.next.toInt + 1) } := by
  -- the older handles are other ones, so they all stay
  have hOld : a.alive.filter (·.key ≠ a.fresh.key) = a.alive := by
    rw [List.filter_eq_self]
    intro j hj
    have : j.key ≠ a.fresh.key := fun hEq => hFresh (hEq ▸ List.mem_map_of_mem hj)
    simpa using this
  rw [deallocate?_eq_some_iff]
  refine ⟨mem_keys_allocate.2 (.inr rfl), ?_⟩
  simp only [allocate, List.filter_append, hOld]
  simp

end Allocator

end WorldForge
