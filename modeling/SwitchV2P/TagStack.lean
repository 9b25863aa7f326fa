import Mathlib.Tactic.Common

/-!
# Packet tags of one type

A packet carries its tags in a list.  Adding a tag asserts that no tag of the
same type is present; in an optimised build the assertion vanishes and the new
tag shadows the old one.  `TagStack` keeps the tags of one type, newest first,
and remembers whether that assertion ever failed.
-/

universe u

/-- The tags of one type on one packet. -/
structure TagStack (Tag : Type u) where
  tags : List Tag
  /-- True once a tag was added to a packet that already carried one. -/
  doubled : Bool
  deriving Repr, DecidableEq

namespace TagStack

variable {Tag : Type u}

/-- A packet without tags of this type. -/
def empty : TagStack Tag where
  tags := []
  doubled := false

/-- `AddPacketTag`. -/
def add (stack : TagStack Tag) (tag : Tag) : TagStack Tag where
  tags := tag :: stack.tags
  doubled := stack.doubled || !stack.tags.isEmpty

/-- `PeekPacketTag`: the newest tag. -/
def peek (stack : TagStack Tag) : Option Tag :=
  stack.tags.head?

/-- The tags left after `RemovePacketTag`, which takes the newest one away. -/
def remove (stack : TagStack Tag) : TagStack Tag where
  tags := stack.tags.tail
  doubled := stack.doubled

/-- At most one tag, and no tag was ever added on top of another. -/
structure AtMostOne (stack : TagStack Tag) : Prop where
  undoubled : stack.doubled = false
  length_le : stack.tags.length ≤ 1

@[simp] theorem tags_empty : (empty : TagStack Tag).tags = [] :=
  rfl

@[simp] theorem peek_empty : (empty : TagStack Tag).peek = none :=
  rfl

@[simp] theorem tags_add (stack : TagStack Tag) (tag : Tag) :
    (stack.add tag).tags = tag :: stack.tags :=
  rfl

@[simp] theorem peek_add (stack : TagStack Tag) (tag : Tag) :
    (stack.add tag).peek = some tag :=
  rfl

@[simp] theorem tags_remove (stack : TagStack Tag) :
    stack.remove.tags = stack.tags.tail :=
  rfl

/-- The newest tag is one of the tags. -/
theorem mem_of_peek
    {stack : TagStack Tag}
    {tag : Tag}
    (found : stack.peek = some tag) :
    tag ∈ stack.tags :=
  List.mem_of_mem_head? found

/-- Without a newest tag there is none. -/
theorem tags_eq_nil_of_peek
    {stack : TagStack Tag}
    (missing : stack.peek = none) :
    stack.tags = [] :=
  List.head?_eq_none_iff.mp missing

/-- What remains after a removal was there before. -/
theorem mem_of_mem_remove
    {stack : TagStack Tag}
    {tag : Tag}
    (member : tag ∈ stack.remove.tags) :
    tag ∈ stack.tags :=
  List.mem_of_mem_tail member

theorem mem_add
    {stack : TagStack Tag}
    {tag added : Tag} :
    tag ∈ (stack.add added).tags ↔ tag = added ∨ tag ∈ stack.tags := by
  simp

namespace AtMostOne

theorem empty : (TagStack.empty : TagStack Tag).AtMostOne :=
  ⟨rfl, by simp⟩

/-- A tag may be added where there is none. -/
theorem add
    {stack : TagStack Tag}
    (single : stack.AtMostOne)
    (absent : stack.tags = [])
    (tag : Tag) :
    (stack.add tag).AtMostOne :=
  ⟨by simp [TagStack.add, single.undoubled, absent], by simp [absent]⟩

/-- Removing the only tag leaves none. -/
theorem tags_remove_eq_nil
    {stack : TagStack Tag}
    (single : stack.AtMostOne) :
    stack.remove.tags = [] := by
  have short := single.length_le
  cases shape : stack.tags with
  | nil => simp [shape]
  | cons first rest =>
      have restEmpty : rest = [] := by
        rw [shape] at short
        simpa using short
      simp [shape, restEmpty]

theorem remove
    {stack : TagStack Tag}
    (single : stack.AtMostOne) :
    stack.remove.AtMostOne :=
  by
  refine ⟨single.undoubled, ?_⟩
  rw [single.tags_remove_eq_nil]
  simp

/-- A removed tag may be put back, or replaced. -/
theorem remove_add
    {stack : TagStack Tag}
    (single : stack.AtMostOne)
    (tag : Tag) :
    (stack.remove.add tag).AtMostOne :=
  single.remove.add single.tags_remove_eq_nil tag

end AtMostOne

end TagStack
