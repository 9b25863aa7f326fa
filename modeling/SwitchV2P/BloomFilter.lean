import Mathlib.Logic.Function.Basic

namespace SwitchV2P

/-!
# The invalidation filter

`BloomFilter<uint32_t>` indexes its array with the key itself, without a hash
and without reducing it.  A key from `m_size` on leads out of the array, to
memory that `Setup` has not written.
-/

/-- The state of a `BloomFilter<uint32_t>`. -/
structure BloomFilter where
  size : Nat
  /-- The memory from the first entry on; only `size` bytes are the filter's. -/
  array : UInt32 → UInt8

namespace BloomFilter

/-- `Setup`: every entry zero, and the memory behind them as it was found. -/
def setup (capacity : Nat) (heap : UInt32 → UInt8) : BloomFilter where
  size := capacity
  array := fun key => if key.toNat < capacity then 0 else heap key

/-- `Get`. -/
def get (filter : BloomFilter) (key : UInt32) : Bool :=
  filter.array key = 1

/-- `Put`. -/
def put (filter : BloomFilter) (key : UInt32) : BloomFilter where
  size := filter.size
  array := Function.update filter.array key 1

/-- No key of an entry is found at first. -/
theorem get_setup
    {capacity : Nat}
    {key : UInt32}
    (inside : key.toNat < capacity)
    (heap : UInt32 → UInt8) :
    (setup capacity heap).get key = false := by
  have zero : (setup capacity heap).array key = 0 :=
    if_pos inside
  rw [get, zero]
  rfl

/-- A key is found after a `Put` if it was put there, or found before. -/
theorem get_put (filter : BloomFilter) (key other : UInt32) :
    (filter.put key).get other = true ↔
      other = key ∨ filter.get other = true := by
  unfold get put
  by_cases same : other = key
  · subst same
    simp
  · simp [same]

end BloomFilter

end SwitchV2P
