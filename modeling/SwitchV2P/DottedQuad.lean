import Mathlib.Data.UInt
import Mathlib.Tactic.Common

/-!
# Dotted-quad addresses

A 32-bit address written as four decimal numbers, each of which is reduced
modulo 256 when it is parsed.  Prefix matching compares the leading bits of two
addresses; for octet-aligned prefixes it compares leading octets.

Everything here is independent of the network that uses the addresses.
-/

namespace DottedQuad

/-- The address spelled `a.b.c.d`, each number taken modulo 256. -/
def ofOctets (a b c d : Nat) : UInt32 :=
  UInt32.ofNat
    (((a % 256 * 256 + b % 256) * 256 + c % 256) * 256 + d % 256)

/-- The numeric value of a dotted quad, without overflow. -/
theorem toNat_ofOctets (a b c d : Nat) :
    (ofOctets a b c d).toNat =
      ((a % 256 * 256 + b % 256) * 256 + c % 256) * 256 + d % 256 := by
  have small :
      ((a % 256 * 256 + b % 256) * 256 + c % 256) * 256 + d % 256 <
        2 ^ 32 := by
    omega
  simpa [ofOctets, UInt32.toNat_ofNat'] using Nat.mod_eq_of_lt small

/-- Two dotted quads are the same address exactly when their octets agree. -/
theorem ofOctets_eq_iff {a b c d a' b' c' d' : Nat} :
    ofOctets a b c d = ofOctets a' b' c' d' ↔
      a % 256 = a' % 256 ∧ b % 256 = b' % 256 ∧
        c % 256 = c' % 256 ∧ d % 256 = d' % 256 := by
  rw [← UInt32.toNat_inj, toNat_ofOctets, toNat_ofOctets]
  omega

/-- Adding to the last octet stays within the octet while it does not carry. -/
theorem ofOctets_add
    (a b c : Nat)
    {d e : Nat}
    (noCarry : d + e < 256) :
    ofOctets a b c d + UInt32.ofNat e = ofOctets a b c (d + e) := by
  rw [← UInt32.toNat_inj, UInt32.toNat_add, toNat_ofOctets,
    toNat_ofOctets, UInt32.toNat_ofNat']
  omega

/-- The leading octet of an address. -/
def firstOctet (address : UInt32) : Nat :=
  address.toNat / 2 ^ 24

theorem firstOctet_ofOctets (a b c d : Nat) :
    firstOctet (ofOctets a b c d) = a % 256 := by
  rw [firstOctet, toNat_ofOctets]
  omega

/--
Two addresses agree on their first `length` bits, as `Ipv4Mask::IsMatch` tests
for the mask of that many leading ones.
-/
def samePrefix
    (length : Nat)
    (first second : UInt32) :
    Bool :=
  first.toNat / 2 ^ (32 - length) = second.toNat / 2 ^ (32 - length)

theorem samePrefix_24_ofOctets {a b c d a' b' c' d' : Nat} :
    samePrefix 24 (ofOctets a b c d) (ofOctets a' b' c' d') = true ↔
      a % 256 = a' % 256 ∧ b % 256 = b' % 256 ∧ c % 256 = c' % 256 := by
  simp only [samePrefix, toNat_ofOctets, decide_eq_true_eq]
  omega

theorem samePrefix_16_ofOctets {a b c d a' b' c' d' : Nat} :
    samePrefix 16 (ofOctets a b c d) (ofOctets a' b' c' d') = true ↔
      a % 256 = a' % 256 ∧ b % 256 = b' % 256 := by
  simp only [samePrefix, toNat_ofOctets, decide_eq_true_eq]
  omega

/-- The empty prefix matches every address. -/
theorem samePrefix_zero (first second : UInt32) :
    samePrefix 0 first second = true := by
  have firstSmall : first.toNat < 2 ^ 32 := first.toNat_lt
  have secondSmall : second.toNat < 2 ^ 32 := second.toNat_lt
  simp only [samePrefix, decide_eq_true_eq]
  omega

end DottedQuad
