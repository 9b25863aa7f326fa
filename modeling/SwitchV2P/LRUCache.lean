import Mathlib.Logic.Function.Basic

namespace SwitchV2P

/-!
# The cache of Bluebird and controller switches

`LRUCache` keeps a map and a deque of its keys, the latest used in front.  The
linear scan for a key in the deque and the erasure at the place where it stops
are `List.erase`; `scan?` is the loop itself.
-/

/-- The state of an `LRUCache<K, V>`. -/
structure LRUCache (K V : Type) where
  cacheSize : Nat
  map : K → Option V
  dq : List K

namespace LRUCache

variable {K V : Type} [DecidableEq K]

/-- A cache after `SetCapacity`. -/
def setCapacity (capacity : Nat) : LRUCache K V where
  cacheSize := capacity
  map := fun _ => none
  dq := []

/--
The loop `while (*it != key) it++`: where it stops, unless it runs past the
end.
-/
def scan? (key : K) : List K → Option Nat
  | [] => none
  | other :: rest =>
      if other ≠ key then
        (scan? key rest).map fun position => position + 1
      else
        some 0

/-- `Find`. -/
def find (cache : LRUCache K V) (key : K) : Bool :=
  (cache.map key).isSome

/-- `Remove`, of a key at which the scan stops. -/
def remove
    (cache : LRUCache K V)
    (key : K) :
    LRUCache K V :=
  { cache with
    map := Function.update cache.map key none
    dq := cache.dq.erase key }

/-- `Get`: the value on a hit, whose key comes to the front. -/
def get
    (cache : LRUCache K V)
    (key : K) :
    Option V × LRUCache K V :=
  match cache.map key with
  | some value =>
      (some value, { cache with dq := key :: cache.dq.erase key })
  | none => (none, cache)

/-- Drop the key at the back of the deque, if there is one. -/
def dropBack (cache : LRUCache K V) : Option (K × V) × LRUCache K V :=
  match cache.dq.getLast? with
  | some last =>
      ((cache.map last).map fun value => (last, value),
        { cache with
          map := Function.update cache.map last none
          dq := cache.dq.dropLast })
  | none => (none, cache)

/-- `Put (key, value, removed)`: what was removed, and the new cache. -/
def put
    (cache : LRUCache K V)
    (key : K)
    (value : V) :
    Option (K × V) × LRUCache K V :=
  let room :=
    match cache.map key with
    | some _ => (none, { cache with dq := cache.dq.erase key })
    | none =>
        if cache.cacheSize = cache.dq.length then
          cache.dropBack
        else
          (none, cache)
  (room.1,
    { room.2 with
      map := Function.update room.2.map key (some value)
      dq := key :: room.2.dq })

/-- A scan for a key of the deque stops at the place that is erased. -/
theorem scan?_of_mem
    {key : K}
    {dq : List K}
    (member : key ∈ dq) :
    ∃ position,
      scan? key dq = some position ∧
        dq.eraseIdx position = dq.erase key := by
  induction dq with
  | nil => exact absurd member List.not_mem_nil
  | cons other rest inductionHypothesis =>
      by_cases same : other = key
      · subst same
        exact ⟨0, if_neg (not_not.mpr rfl), by simp⟩
      · have inRest : key ∈ rest :=
          (List.mem_cons.mp member).resolve_left (Ne.symm same)
        obtain ⟨position, stops, erased⟩ := inductionHypothesis inRest
        refine ⟨position + 1, ?_, ?_⟩
        · rw [scan?, if_pos same, stops]
          rfl
        · rw [List.eraseIdx_cons_succ, erased,
            List.erase_cons_tail (by simpa using same)]

/-- A lookup that hits brings the key to the front. -/
theorem get_of_present
    {cache : LRUCache K V}
    {key : K}
    {value : V}
    (stored : cache.map key = some value) :
    cache.get key =
      (some value, { cache with dq := key :: cache.dq.erase key }) := by
  unfold get
  rw [stored]

theorem get_of_absent
    {cache : LRUCache K V}
    {key : K}
    (absent : cache.map key = none) :
    cache.get key = (none, cache) := by
  unfold get
  rw [absent]

/-- A lookup returns what the map has. -/
theorem get_fst (cache : LRUCache K V) (key : K) :
    (cache.get key).1 = cache.map key := by
  cases stored : cache.map key with
  | none => rw [get_of_absent stored]
  | some value => rw [get_of_present stored]

/-! ## What a write does -/

/-- A key that is present comes to the front. -/
theorem put_of_present
    {cache : LRUCache K V}
    {key : K}
    (value : V)
    (present : (cache.map key).isSome = true) :
    cache.put key value =
      (none,
        { cache with
          map := Function.update cache.map key (some value)
          dq := key :: cache.dq.erase key }) := by
  obtain ⟨old, found⟩ := Option.isSome_iff_exists.mp present
  unfold put
  rw [found]

/-- An absent key is added while there is room. -/
theorem put_of_room
    {cache : LRUCache K V}
    {key : K}
    (value : V)
    (absent : cache.map key = none)
    (room : cache.cacheSize ≠ cache.dq.length) :
    cache.put key value =
      (none,
        { cache with
          map := Function.update cache.map key (some value)
          dq := key :: cache.dq }) := by
  unfold put
  rw [absent]
  dsimp only
  rw [if_neg room]

/-- In a full cache an absent key takes the place of the last one. -/
theorem put_of_full
    {cache : LRUCache K V}
    {key last : K}
    {earlier : List K}
    (value : V)
    (absent : cache.map key = none)
    (full : cache.cacheSize = cache.dq.length)
    (shape : cache.dq = earlier ++ [last]) :
    cache.put key value =
      ((cache.map last).map fun value => (last, value),
        { cache with
          map :=
            Function.update (Function.update cache.map last none) key
              (some value)
          dq := key :: earlier }) := by
  have back : cache.dq.getLast? = some last := by
    rw [shape, List.getLast?_concat]
  have front : cache.dq.dropLast = earlier := by
    rw [shape, List.dropLast_concat]
  unfold put
  rw [absent]
  dsimp only
  rw [if_pos full]
  unfold dropBack
  rw [back]
  dsimp only
  rw [front]

end LRUCache

end SwitchV2P
