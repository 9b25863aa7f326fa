import SwitchV2P.BitFormat
import Mathlib.Algebra.GroupWithZero.Nat
import Mathlib.Data.List.Perm.Basic

/-!
# Ones' complement sums

Addition of words in which the carry out of the top is added back in at the
bottom.  The sum of a list does not depend on its order, and a list that
contains the complement of the sum of its other words sums to the word of all
ones, which is how a receiver checks what it got.

Everything here is independent of what is being summed.
-/

namespace OnesComplement

open BitFormat

variable {width : Nat}

/-- Addition with the carry added back in. -/
def add (first second : BitVec width) : BitVec width :=
  if first.toNat + second.toNat < 2 ^ width then
    first + second
  else
    first + second + BitVec.ofNat width 1

/-- The sum of the words of a list. -/
def sum (words : List (BitVec width)) : BitVec width :=
  words.foldr add (BitVec.ofNat width 0)

theorem toNat_add (first second : BitVec width) :
    (add first second).toNat =
      if first.toNat + second.toNat < 2 ^ width then
        first.toNat + second.toNat
      else
        first.toNat + second.toNat - (2 ^ width - 1) := by
  have firstBound := first.isLt
  have secondBound := second.isLt
  rw [add]
  split
  next noCarry => rw [BitVec.toNat_add, Nat.mod_eq_of_lt noCarry]
  next carry =>
    have one : (BitVec.ofNat width 1).toNat = 1 := by
      cases width with
      | zero => omega
      | succ width =>
          rw [BitVec.toNat_ofNat, Nat.mod_eq_of_lt]
          exact Nat.one_lt_two_pow (Nat.succ_ne_zero width)
    rw [BitVec.toNat_add, BitVec.toNat_add, one, Nat.mod_add_mod]
    have split :
        first.toNat + second.toNat + 1 =
          first.toNat + second.toNat - (2 ^ width - 1) + 2 ^ width := by
      omega
    rw [split, Nat.add_mod_right, Nat.mod_eq_of_lt (by omega)]

theorem add_comm (first second : BitVec width) :
    add first second = add second first := by
  apply BitVec.eq_of_toNat_eq
  rw [toNat_add, toNat_add, Nat.add_comm]

theorem add_assoc (first second third : BitVec width) :
    add (add first second) third = add first (add second third) := by
  have firstBound := first.isLt
  have secondBound := second.isLt
  have thirdBound := third.isLt
  apply BitVec.eq_of_toNat_eq
  rw [toNat_add, toNat_add, toNat_add, toNat_add]
  generalize 2 ^ width = bound at *
  split <;> split <;> split <;> (try split) <;> omega

instance : LeftCommutative (@add width) where
  left_comm := fun first second third => by
    rw [← add_assoc, add_comm first second, add_assoc]

@[simp] theorem sum_cons
    (word : BitVec width)
    (words : List (BitVec width)) :
    sum (word :: words) = add word (sum words) :=
  rfl

/-- The order of the words does not matter. -/
theorem sum_eq_of_perm
    {words others : List (BitVec width)}
    (permuted : words.Perm others) :
    sum words = sum others :=
  permuted.foldr_eq (BitVec.ofNat width 0)

/-- A word and its complement sum to the word of all ones. -/
theorem add_not (word : BitVec width) :
    add (~~~word) word = BitVec.allOnes width := by
  have bound := word.isLt
  apply BitVec.eq_of_toNat_eq
  rw [toNat_add, BitVec.toNat_not, BitVec.toNat_allOnes, if_pos (by omega)]
  omega

/-- Wherever the complement of the sum of the others stands. -/
theorem sum_with_complement
    (before after : List (BitVec width)) :
    sum (before ++ ~~~(sum (before ++ after)) :: after) =
      BitVec.allOnes width := by
  rw [sum_eq_of_perm List.perm_middle, sum_cons, add_not]

/-- The first words of a bit string. -/
def wordsOf (width : Nat) : Nat → List Bool → List (BitVec width)
  | 0, _ => []
  | count + 1, bits =>
      ofBits width (bits.take width) ::
        wordsOf width count (bits.drop width)

/-- A string of whole words in front of another. -/
theorem wordsOf_append
    (count more : Nat)
    (bits others : List Bool)
    (wholeWords : bits.length = count * width) :
    wordsOf width (count + more) (bits ++ others) =
      wordsOf width count bits ++ wordsOf width more others := by
  induction count generalizing bits with
  | zero =>
      rw [Nat.zero_mul] at wholeWords
      rw [List.length_eq_zero_iff.mp wholeWords, Nat.zero_add,
        List.nil_append, wordsOf, List.nil_append]
  | succ count inductionHypothesis =>
      have expand : (count + 1) * width = count * width + width :=
        Nat.succ_mul count width
      have fits : width ≤ bits.length := by
        omega
      rw [Nat.add_right_comm, wordsOf, wordsOf,
        List.take_append_of_le_length fits,
        List.drop_append_of_le_length fits, List.cons_append,
        inductionHypothesis _ (by rw [List.length_drop]; omega)]

/-- The bits of one word. -/
theorem wordsOf_bitsOf_append
    (more : Nat)
    (word : BitVec width)
    (others : List Bool) :
    wordsOf width (more + 1) (bitsOf width word ++ others) =
      word :: wordsOf width more others := by
  rw [wordsOf, List.take_left' (length_bitsOf width word),
    List.drop_left' (length_bitsOf width word), ofBits_bitsOf]

end OnesComplement
