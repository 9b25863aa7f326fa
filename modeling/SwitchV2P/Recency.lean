import SwitchV2P.Histories

/-!
# Recency of use

A store of limited capacity that drops the least recently used key is described
by the history of what touched its keys.  `recency` lists the keys that were
used and not removed since, whether or not they were dropped; `cached` lists the
keys that are kept.

Everything here is independent of how a store is implemented.
-/

universe u v

open Histories

/-- What touches a key of a store: a write, a successful read or a removal. -/
inductive Touch (Key : Type u) (Value : Type v) where
  | put (key : Key) (value : Value)
  | got (key : Key)
  | removed (key : Key)
  deriving Repr, DecidableEq

namespace Touch

variable {Key : Type u} {Value : Type v}

/-- The key that is touched. -/
def key : Touch Key Value → Key
  | .put key _ => key
  | .got key => key
  | .removed key => key

/-- The key is written or read. -/
def Uses (touch : Touch Key Value) (key : Key) : Prop :=
  (∃ value, touch = .put key value) ∨ touch = .got key

/-- One of the keys is written or read. -/
def UsesEither (first second : Key) (touch : Touch Key Value) : Prop :=
  touch.Uses first ∨ touch.Uses second

/-- The key is written. -/
def Puts (key : Key) (touch : Touch Key Value) : Prop :=
  ∃ value, touch = .put key value

theorem Uses.key_eq
    {touch : Touch Key Value}
    {key : Key}
    (uses : touch.Uses key) :
    touch.key = key := by
  rcases uses with ⟨value, rfl⟩ | rfl <;> rfl

/-- A touch is a use of its key or a removal. -/
theorem uses_or_removed (touch : Touch Key Value) :
    touch.Uses touch.key ∨ touch = .removed touch.key := by
  cases touch with
  | put key value => exact Or.inl (Or.inl ⟨value, rfl⟩)
  | got key => exact Or.inl (Or.inr rfl)
  | removed key => exact Or.inr rfl

end Touch

namespace Recency

variable {Key : Type u} {Value : Type v} [DecidableEq Key]

/-- A use moves the key to the front, a removal takes it out. -/
def recencyStep (keys : List Key) : Touch Key Value → List Key
  | .put key _ => key :: keys.erase key
  | .got key => key :: keys.erase key
  | .removed key => keys.erase key

/-- The keys used and not removed since, the latest used first. -/
def recency (history : List (Touch Key Value)) : List Key :=
  history.foldl recencyStep []

/-- The same with no more than `capacity` keys. -/
def cachedStep
    (capacity : Nat)
    (keys : List Key) :
    Touch Key Value → List Key
  | .put key _ => (key :: keys.erase key).take capacity
  | .got key => (key :: keys.erase key).take capacity
  | .removed key => keys.erase key

/-- The keys kept by a store that drops the least recently used one. -/
def cached
    (capacity : Nat)
    (history : List (Touch Key Value)) :
    List Key :=
  history.foldl (cachedStep capacity) []

/-- Of two keys, the first was used later. -/
def MoreRecent
    (history : List (Touch Key Value))
    (newer older : Key) : Prop :=
  ∃ touch,
    Latest (Touch.UsesEither newer older) history touch ∧
      touch.Uses newer

/--
Since its last use the key was not removed, and at every moment since it was
among the `capacity` latest used keys not removed by then.
-/
def StaysRecent
    (capacity : Nat)
    (history : List (Touch Key Value))
    (key : Key) : Prop :=
  ∃ earlier use later,
    history = earlier ++ use :: later ∧
      use.Uses key ∧
      (∀ touch ∈ later, touch.key ≠ key) ∧
      ∀ since, since <+: later →
        key ∈ (recency (earlier ++ use :: since)).take capacity

variable
  {capacity : Nat}
  {history : List (Touch Key Value)}
  {touch : Touch Key Value}
  {key : Key}

/-! ## One more touch -/

theorem recency_append (touch : Touch Key Value) :
    recency (history ++ [touch]) = recencyStep (recency history) touch := by
  unfold recency
  rw [List.foldl_append]
  rfl

theorem cached_append (touch : Touch Key Value) :
    cached capacity (history ++ [touch]) =
      cachedStep capacity (cached capacity history) touch := by
  unfold cached
  rw [List.foldl_append]
  rfl

/-- A used key comes to the front. -/
theorem recencyStep_of_uses
    (keys : List Key)
    (uses : touch.Uses key) :
    recencyStep keys touch = key :: keys.erase key := by
  rcases uses with ⟨value, rfl⟩ | rfl <;> rfl

theorem cachedStep_of_uses
    (keys : List Key)
    (uses : touch.Uses key) :
    cachedStep capacity keys touch =
      (key :: keys.erase key).take capacity := by
  rcases uses with ⟨value, rfl⟩ | rfl <;> rfl

/-- Erasing a key from both sides keeps a prefix. -/
theorem isPrefix_erase
    {keys all : List Key}
    (isPrefix : keys <+: all)
    (key : Key) :
    keys.erase key <+: all.erase key := by
  obtain ⟨rest, rfl⟩ := isPrefix
  by_cases member : key ∈ keys
  · rw [List.erase_append_left rest member]
    exact List.prefix_append _ _
  · rw [List.erase_append_right rest member, List.erase_of_not_mem member]
    exact List.prefix_append _ _

/-! ## Order and number of the keys -/

theorem nodup_recency : (recency history).Nodup := by
  induction history using List.reverseRecOn with
  | nil => exact List.nodup_nil
  | append_singleton earlier touch inductionHypothesis =>
      rw [recency_append]
      rcases touch.uses_or_removed with uses | removed
      · rw [recencyStep_of_uses _ uses]
        exact
          List.nodup_cons.mpr
            ⟨inductionHypothesis.not_mem_erase,
              inductionHypothesis.erase _⟩
      · rw [removed]
        exact inductionHypothesis.erase _

omit [DecidableEq Key] in
/-- Among two keys that a touch does not use, it makes no difference. -/
theorem MoreRecent.append
    {newer older : Key}
    (moreRecent : MoreRecent history newer older)
    (notNewer : ¬ touch.Uses newer)
    (notOlder : ¬ touch.Uses older) :
    MoreRecent (history ++ [touch]) newer older := by
  obtain ⟨use, latest, usesNewer⟩ := moreRecent
  have neither : ¬ touch.UsesEither newer older :=
    not_or.mpr ⟨notNewer, notOlder⟩
  exact ⟨use, (latest_append_of_not neither).mpr latest, usesNewer⟩

omit [DecidableEq Key] in
/-- Of two keys only one was used later. -/
theorem MoreRecent.eq_of_both
    {first second : Key}
    (oneWay : MoreRecent history first second)
    (otherWay : MoreRecent history second first) :
    first = second := by
  obtain ⟨use, latest, usesFirst⟩ := oneWay
  obtain ⟨otherUse, otherLatest, usesSecond⟩ := otherWay
  have sameKind (touch : Touch Key Value) :
      touch.UsesEither second first ↔ touch.UsesEither first second :=
    or_comm
  obtain rfl := latest.unique ((latest_congr sameKind).mp otherLatest)
  rw [← usesFirst.key_eq, usesSecond.key_eq]

/-- `recency` is ordered by the latest uses. -/
theorem pairwise_recency :
    (recency history).Pairwise (MoreRecent history) := by
  induction history using List.reverseRecOn with
  | nil => exact List.Pairwise.nil
  | append_singleton earlier touch inductionHypothesis =>
      have older :
          ((recency earlier).erase touch.key).Pairwise
            (MoreRecent (earlier ++ [touch])) := by
        apply
          (inductionHypothesis.sublist List.erase_sublist).imp_of_mem
        intro first second firstMember secondMember moreRecent
        have apart {other : Key}
            (member : other ∈ (recency earlier).erase touch.key) :
            ¬ touch.Uses other := by
          intro uses
          rw [uses.key_eq] at member
          exact nodup_recency.not_mem_erase member
        exact moreRecent.append (apart firstMember) (apart secondMember)
      rw [recency_append]
      rcases touch.uses_or_removed with uses | removed
      · rw [recencyStep_of_uses _ uses]
        refine List.pairwise_cons.mpr ⟨fun other _ => ?_, older⟩
        have either : touch.UsesEither touch.key other := Or.inl uses
        exact ⟨touch, (latest_append_of_kind either).mpr rfl, uses⟩
      · rw [removed] at older ⊢
        exact older

/-- No more than `capacity` keys are kept. -/
theorem length_cached_le :
    (cached capacity history).length ≤ capacity := by
  induction history using List.reverseRecOn with
  | nil => exact Nat.zero_le capacity
  | append_singleton earlier touch inductionHypothesis =>
      rw [cached_append]
      rcases touch.uses_or_removed with uses | removed
      · rw [cachedStep_of_uses _ uses]
        exact List.length_take_le _ _
      · rw [removed]
        exact
          Nat.le_trans List.erase_sublist.length_le inductionHypothesis

/-- The keys that are kept are the latest used ones. -/
theorem isPrefix_cached :
    cached capacity history <+: recency history := by
  induction history using List.reverseRecOn with
  | nil => exact List.prefix_rfl
  | append_singleton earlier touch inductionHypothesis =>
      rw [cached_append, recency_append]
      have erased := isPrefix_erase inductionHypothesis touch.key
      rcases touch.uses_or_removed with uses | removed
      · rw [cachedStep_of_uses _ uses, recencyStep_of_uses _ uses]
        exact
          (List.take_prefix _ _).trans
            ((List.prefix_cons_inj touch.key).mpr erased)
      · rw [removed] at erased ⊢
        exact erased

theorem nodup_cached : (cached capacity history).Nodup :=
  nodup_recency.sublist isPrefix_cached.sublist

/-- A key that is dropped leaves a full store behind. -/
theorem length_cached_of_dropped
    (member : key ∈ cached capacity history)
    (apart : touch.key ≠ key)
    (dropped : key ∉ cached capacity (history ++ [touch])) :
    (cached capacity (history ++ [touch])).length = capacity := by
  rw [cached_append] at dropped ⊢
  have kept : key ∈ (cached capacity history).erase touch.key :=
    (List.mem_erase_of_ne (Ne.symm apart)).mpr member
  rcases touch.uses_or_removed with uses | removed
  · rw [cachedStep_of_uses _ uses] at dropped ⊢
    rw [List.length_take]
    apply Nat.min_eq_left
    by_contra room
    rw [List.take_of_length_le (Nat.le_of_not_le room)] at dropped
    exact dropped (List.mem_cons_of_mem _ kept)
  · rw [removed] at dropped
    exact absurd kept dropped

/-- A store that is full holds the latest used keys. -/
theorem mem_cached_of_full
    (full : (cached capacity history).length = capacity)
    (recent : key ∈ (recency history).take capacity) :
    key ∈ cached capacity history := by
  have all : cached capacity history = (recency history).take capacity := by
    have isPrefix : cached capacity history <+: recency history :=
      isPrefix_cached
    have byLength := List.prefix_iff_eq_take.mp isPrefix
    rw [full] at byLength
    exact byLength
  rw [all]
  exact recent

theorem mem_take_of_mem_cached
    (member : key ∈ cached capacity history) :
    key ∈ (recency history).take capacity := by
  have isPrefix :
      cached capacity history <+: (recency history).take capacity :=
    List.prefix_take_iff.mpr ⟨isPrefix_cached, length_cached_le⟩
  exact isPrefix.subset member

/-! ## What is kept -/

omit [DecidableEq Key] in
/-- There is room for the first key. -/
theorem mem_take_cons
    (capacity_pos : 0 < capacity)
    {keys : List Key} :
    key ∈ (key :: keys).take capacity := by
  cases capacity with
  | zero => exact absurd capacity_pos (Nat.lt_irrefl 0)
  | succ room => exact List.mem_cons_self

/-- A key that was just used stays recent. -/
theorem staysRecent_of_uses
    (capacity_pos : 0 < capacity)
    (uses : touch.Uses key) :
    StaysRecent capacity (history ++ [touch]) key := by
  refine
    ⟨history, touch, [], rfl, uses, fun _ none => by simp at none, ?_⟩
  intro since isPrefix
  rw [List.prefix_nil.mp isPrefix, recency_append,
    recencyStep_of_uses _ uses]
  exact mem_take_cons capacity_pos

/-- A key that was just removed does not. -/
theorem not_staysRecent_of_removed :
    ¬ StaysRecent capacity (history ++ [.removed key]) key := by
  rintro ⟨earlier, use, later, split, uses, untouched, _⟩
  rcases eq_last_or_earlier split with ⟨isLast, _⟩ | ⟨between, rfl, _⟩
  · rw [← isLast] at uses
    rcases uses with ⟨value, isPut⟩ | isGot
    · cases isPut
    · cases isGot
  · exact
      untouched (.removed key)
        (List.mem_append_right _ List.mem_cons_self) rfl

/-- Otherwise it has to be among the latest used keys now as well. -/
theorem staysRecent_append_iff (apart : touch.key ≠ key) :
    StaysRecent capacity (history ++ [touch]) key ↔
      StaysRecent capacity history key ∧
        key ∈ (recency (history ++ [touch])).take capacity := by
  constructor
  · rintro ⟨earlier, use, later, split, uses, untouched, recent⟩
    rcases eq_last_or_earlier split with
      ⟨isLast, _⟩ | ⟨between, rfl, before⟩
    · rw [← isLast] at uses
      exact absurd uses.key_eq apart
    · refine
        ⟨⟨earlier, use, between, before, uses,
            fun other member =>
              untouched other (List.mem_append_left _ member),
            fun since isPrefix =>
              recent since (isPrefix.trans (List.prefix_append _ _))⟩, ?_⟩
      rw [split]
      exact recent _ List.prefix_rfl
  · rintro ⟨⟨earlier, use, later, rfl, uses, untouched, recent⟩, recentNow⟩
    refine
      ⟨earlier, use, later ++ [touch], by simp, uses, ?_, ?_⟩
    · intro other member
      rcases List.mem_append.mp member with old | new
      · exact untouched other old
      · rw [List.mem_singleton.mp new]
        exact apart
    · intro since isPrefix
      rcases List.prefix_concat_iff.mp isPrefix with whole | within
      · rw [whole]
        rw [List.append_assoc, List.cons_append] at recentNow
        exact recentNow
      · exact recent since within

/-- A key is kept as long as it stays recent. -/
theorem mem_cached_iff (capacity_pos : 0 < capacity) :
    key ∈ cached capacity history ↔ StaysRecent capacity history key := by
  induction history using List.reverseRecOn with
  | nil =>
      constructor
      · exact fun member => absurd member List.not_mem_nil
      · rintro ⟨earlier, use, later, split, _⟩
        exact absurd split.symm (List.append_ne_nil_of_right_ne_nil _ (by simp))
  | append_singleton earlier touch inductionHypothesis =>
      by_cases concerns : touch.key = key
      · rcases touch.uses_or_removed with uses | removed
        · rw [concerns] at uses
          refine iff_of_true ?_ (staysRecent_of_uses capacity_pos uses)
          rw [cached_append, cachedStep_of_uses _ uses]
          exact mem_take_cons capacity_pos
        · rw [concerns] at removed
          rw [removed]
          refine iff_of_false ?_ not_staysRecent_of_removed
          rw [cached_append]
          exact nodup_cached.not_mem_erase
      · rw [staysRecent_append_iff concerns, ← inductionHypothesis]
        constructor
        · intro member
          refine ⟨?_, mem_take_of_mem_cached member⟩
          rw [cached_append] at member
          rcases touch.uses_or_removed with uses | removed
          · rw [cachedStep_of_uses _ uses] at member
            rcases List.mem_cons.mp (List.mem_of_mem_take member) with
              same | kept
            · exact absurd same.symm concerns
            · exact List.mem_of_mem_erase kept
          · rw [removed] at member
            exact List.mem_of_mem_erase member
        · rintro ⟨member, recent⟩
          by_contra dropped
          apply dropped
          exact
            mem_cached_of_full
              (length_cached_of_dropped member concerns dropped) recent

end Recency
