import Mathlib.Logic.Equiv.Defs

/-!
# Formats of fixed length

A header format lays its fields out one after the other, each with its most
significant bit first.  A format is a bijection between its values and the bit
strings of one length; formats are built from words, from pairs and along
bijections, and with them come extraction from the front of a bit string and
what extraction makes of strings that are too short.

Everything here is independent of the headers that are being laid out.
-/

universe u v

namespace BitFormat

/-- The bits of a word, the most significant first. -/
def bitsOf : (width : Nat) → BitVec width → List Bool
  | 0, _ => []
  | width + 1, word => word.msb :: bitsOf width (word.setWidth width)

/-- The word with the given bits; bits that are missing are zero. -/
def ofBits : (width : Nat) → List Bool → BitVec width
  | 0, _ => 0#0
  | width + 1, bits => BitVec.cons (bits.headD false) (ofBits width bits.tail)

@[simp] theorem length_bitsOf
    (width : Nat)
    (word : BitVec width) :
    (bitsOf width word).length = width := by
  induction width with
  | zero => rfl
  | succ width inductionHypothesis =>
      rw [bitsOf, List.length_cons, inductionHypothesis]

@[simp] theorem ofBits_bitsOf
    (width : Nat)
    (word : BitVec width) :
    ofBits width (bitsOf width word) = word := by
  induction width with
  | zero => exact Subsingleton.elim _ _
  | succ width inductionHypothesis =>
      rw [bitsOf, ofBits, List.headD_cons, List.tail_cons,
        inductionHypothesis, BitVec.cons_msb_setWidth]

theorem bitsOf_ofBits
    (width : Nat)
    (bits : List Bool)
    (sameLength : bits.length = width) :
    bitsOf width (ofBits width bits) = bits := by
  induction width generalizing bits with
  | zero => exact (List.length_eq_zero_iff.mp sameLength).symm
  | succ width inductionHypothesis =>
      cases bits with
      | nil => cases sameLength
      | cons bit rest =>
          rw [ofBits, bitsOf, BitVec.msb_cons, BitVec.setWidth_cons,
            List.headD_cons, List.tail_cons,
            inductionHypothesis rest (Nat.succ.inj sameLength)]

end BitFormat

/-- The values of a type, laid out as the bit strings of one length. -/
structure BitFormat (Value : Type u) where
  size : Nat
  encode : Value → List Bool
  decode : List Bool → Value
  length_encode : ∀ value, (encode value).length = size
  decode_encode : ∀ value, decode (encode value) = value
  encode_decode : ∀ bits, bits.length = size → encode (decode bits) = bits

namespace BitFormat

/-- A word of the given width. -/
def word (width : Nat) : BitFormat (BitVec width) where
  size := width
  encode := bitsOf width
  decode := ofBits width
  length_encode := length_bitsOf width
  decode_encode := ofBits_bitsOf width
  encode_decode := bitsOf_ofBits width

/-- One value after the other. -/
def pair
    {Value : Type u}
    {Other : Type v}
    (first : BitFormat Value)
    (second : BitFormat Other) :
    BitFormat (Value × Other) where
  size := first.size + second.size
  encode := fun values => first.encode values.1 ++ second.encode values.2
  decode := fun bits =>
    (first.decode (bits.take first.size),
      second.decode (bits.drop first.size))
  length_encode := fun values => by
    rw [List.length_append, first.length_encode, second.length_encode]
  decode_encode := fun values => by
    rw [List.take_left' (first.length_encode _),
      List.drop_left' (first.length_encode _), first.decode_encode,
      second.decode_encode]
  encode_decode := fun bits sameLength => by
    dsimp only
    rw [first.encode_decode _ (by rw [List.length_take]; omega),
      second.encode_decode _ (by rw [List.length_drop]; omega),
      List.take_append_drop]

/-- The values of another type, along a bijection. -/
def along
    {Value : Type u}
    {Other : Type v}
    (format : BitFormat Value)
    (bijection : Value ≃ Other) :
    BitFormat Other where
  size := format.size
  encode := fun value => format.encode (bijection.symm value)
  decode := fun bits => bijection (format.decode bits)
  length_encode := fun value => format.length_encode _
  decode_encode := fun value => by
    rw [format.decode_encode, Equiv.apply_symm_apply]
  encode_decode := fun bits sameLength => by
    rw [Equiv.symm_apply_apply, format.encode_decode bits sameLength]

variable
  {Value : Type u}
  {Other : Type v}
  (format : BitFormat Value)

/-- Take a value from the front; a string that is too short is an error. -/
def extract (bits : List Bool) : Option (Value × List Bool) :=
  if format.size ≤ bits.length then
    some (format.decode (bits.take format.size), bits.drop format.size)
  else
    none

/-- What was laid out in front is extracted again. -/
@[simp] theorem extract_encode_append
    (value : Value)
    (rest : List Bool) :
    format.extract (format.encode value ++ rest) = some (value, rest) := by
  have longEnough :
      format.size ≤ (format.encode value ++ rest).length := by
    rw [List.length_append, format.length_encode]
    exact Nat.le_add_right _ _
  rw [extract, if_pos longEnough, List.take_left' (format.length_encode _),
    List.drop_left' (format.length_encode _), format.decode_encode]

/-- Extraction succeeds on the strings that begin with the value's layout. -/
theorem extract_eq_some_iff
    {bits rest : List Bool}
    {value : Value} :
    format.extract bits = some (value, rest) ↔
      bits = format.encode value ++ rest := by
  constructor
  · intro extracted
    rw [extract] at extracted
    split at extracted
    next longEnough =>
      cases extracted
      rw [format.encode_decode _ (by rw [List.length_take]; omega),
        List.take_append_drop]
    next => cases extracted
  · rintro rfl
    exact format.extract_encode_append value rest

end BitFormat
