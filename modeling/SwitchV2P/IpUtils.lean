import SwitchV2P.DottedQuad

namespace SwitchV2P

/-!
# Address constructors

`IpUtils` spells every address as a dotted quad with `std::to_string` and lets
the parser reduce each number modulo 256.  The numbers are 32-bit in the
source; since 2^32 is a multiple of 256, sums of natural numbers give the same
octets.
-/

/-- An IPv4 address, as the 32-bit number `Ipv4Address::Get` returns. -/
abbrev Ipv4Address := UInt32

namespace IpUtils

open DottedQuad

def getNodeBasePhysicalAddress
    (podId leafOffset id : Nat) :
    Ipv4Address :=
  ofOctets (podId + 1) leafOffset id 0

def getNodePhysicalAddress
    (podId leafOffset id : Nat) :
    Ipv4Address :=
  getNodeBasePhysicalAddress podId leafOffset id + 1

def getContainerVirtualAddress (id : UInt32) : Ipv4Address :=
  id

def getSwitchBaseAddress
    (podCount podId spineOffset leafOffset : Nat) :
    Ipv4Address :=
  ofOctets (podCount + podId + 1) spineOffset leafOffset 0

def getLeafAddress
    (podCount podId spineOffset leafOffset : Nat) :
    Ipv4Address :=
  getSwitchBaseAddress podCount podId spineOffset leafOffset + 2

def getSpineFromLeafAddress
    (podCount podId spineOffset leafOffset : Nat) :
    Ipv4Address :=
  getSwitchBaseAddress (2 * podCount) podId spineOffset leafOffset + 1

def getCoreSwitchBaseAddress (spinePodId core : Nat) : Ipv4Address :=
  ofOctets 255 core spinePodId 0

def getCoreAddress (spinePodId core : Nat) : Ipv4Address :=
  getCoreSwitchBaseAddress spinePodId core + 1

/-- Every host address ends in the octet 1. -/
theorem getNodePhysicalAddress_octets (podId leafOffset id : Nat) :
    getNodePhysicalAddress podId leafOffset id =
      ofOctets (podId + 1) leafOffset id 1 :=
  ofOctets_add _ _ _ (d := 0) (e := 1) (by decide)

/-- No host has the address zero, because its last octet is 1. -/
theorem getNodePhysicalAddress_ne_zero (podId leafOffset id : Nat) :
    getNodePhysicalAddress podId leafOffset id ≠ 0 := by
  rw [getNodePhysicalAddress_octets]
  intro isZero
  have value := congrArg UInt32.toNat isZero
  rw [toNat_ofOctets, UInt32.toNat_zero] at value
  omega

/-- Every leaf address ends in the octet 2. -/
theorem getLeafAddress_octets
    (podCount podId spineOffset leafOffset : Nat) :
    getLeafAddress podCount podId spineOffset leafOffset =
      ofOctets (podCount + podId + 1) spineOffset leafOffset 2 :=
  ofOctets_add _ _ _ (d := 0) (e := 2) (by decide)

/-- The address of a spine towards its leaves lies above both other blocks. -/
theorem getSpineFromLeafAddress_octets
    (podCount podId spineOffset leafOffset : Nat) :
    getSpineFromLeafAddress podCount podId spineOffset leafOffset =
      ofOctets (2 * podCount + podId + 1) spineOffset leafOffset 1 :=
  ofOctets_add _ _ _ (d := 0) (e := 1) (by decide)

/-- Core addresses start with the octet 255. -/
theorem getCoreAddress_octets (spinePodId core : Nat) :
    getCoreAddress spinePodId core =
      ofOctets 255 core spinePodId 1 :=
  ofOctets_add _ _ _ (d := 0) (e := 1) (by decide)

end IpUtils

end SwitchV2P
