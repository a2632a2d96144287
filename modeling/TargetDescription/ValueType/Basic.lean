import TargetDescription.Stamp

/-!
# Value types

The types of the values that generated code computes with: scalars, and vectors of scalars.

A scalar has a number from 1 to 15, a vector of `2 ^ k` lanes the number `16 * k` plus that of its
lanes, so that the lane count and the lane type can be read off the number. The bounds are part of
the types, hence every number fits in a byte (`ValueType.number_lt`).

* `ScalarType`, `VectorType` and `ValueType` are the types.
* `name`, `number`, `membytes` and `doc` are their attributes.
-/

namespace TargetDescription

/-- What the bits of a scalar mean. -/
inductive ScalarKind
  | int
  | float
  | bool
  deriving DecidableEq

/-- The letter that starts the name of a scalar. -/
def ScalarKind.letter : ScalarKind → Char
  | int => 'i'
  | float => 'f'
  | bool => 'b'

/-- A scalar type, as declared in the registry `origin`. -/
structure ScalarType where
  origin : Stamp
  kind : ScalarKind
  bits : Nat
  doc : String
  number : Nat
  number_pos : 0 < number
  number_le : number ≤ 15
  deriving DecidableEq

namespace ScalarType

/-- The name of the scalar of a kind with so many bits. -/
def nameOf (kind : ScalarKind) (bits : Nat) : String :=
  String.singleton kind.letter ++ toString bits

/-- The letter of the kind and the number of bits. -/
def name (type : ScalarType) : String :=
  nameOf type.kind type.bits

/-- Whole bytes of memory. -/
def membytes (type : ScalarType) : Nat :=
  type.bits / 8

/-- The path of the constant that stands for the type in generated code. -/
def constantPath (type : ScalarType) : String :=
  "types::" ++ String.singleton type.kind.letter.toUpper ++ toString type.bits

end ScalarType

/-- A vector type of `2 ^ lanesLog2` lanes, as made by the registry `origin`. Two vector types may
be alike in all that they say of themselves; the stamp tells which making one comes from. -/
structure VectorType where
  origin : Stamp
  stamp : Stamp
  base : ScalarType
  lanesLog2 : Nat
  lanesLog2_pos : 0 < lanesLog2
  lanesLog2_le : lanesLog2 ≤ 15
  deriving DecidableEq

namespace VectorType

/-- The number of lanes. -/
def lanes (type : VectorType) : Nat :=
  1 <<< type.lanesLog2

/-- The name of the vector type with these lanes. -/
def nameOf (base : ScalarType) (lanes : Nat) : String :=
  base.name ++ "x" ++ toString lanes

/-- The name of the lane type and the number of lanes. -/
def name (type : VectorType) : String :=
  nameOf type.base type.lanes

/-- The lanes lie side by side in memory. -/
def membytes (type : VectorType) : Nat :=
  type.lanes * type.base.membytes

/-- The lane count in the high half of the byte, the lane type in the low half. -/
def number (type : VectorType) : Nat :=
  16 * type.lanesLog2 + type.base.number

/-- A sentence that names lane count and lane type. -/
def doc (type : VectorType) : String :=
  "A SIMD vector with " ++ toString type.lanes ++ " lanes containing a `" ++ type.base.name
    ++ "` each."

end VectorType

/-- A scalar or a vector type. -/
inductive ValueType
  | scalar (type : ScalarType)
  | vector (type : VectorType)
  deriving DecidableEq

namespace ValueType

/-- The name by which the registry knows the type. -/
def name : ValueType → String
  | scalar type => type.name
  | vector type => type.name

/-- The number of the type. -/
def number : ValueType → Nat
  | scalar type => type.number
  | vector type => type.number

/-- The bytes of memory that a value takes. -/
def membytes : ValueType → Nat
  | scalar type => type.membytes
  | vector type => type.membytes

/-- The description of the type. -/
def doc : ValueType → String
  | scalar type => type.doc
  | vector type => type.doc

/-- A type number fits in a byte. -/
theorem number_lt (type : ValueType) : type.number < 256 := by
  cases type with
  | scalar type =>
    have := type.number_le
    simp only [number]; omega
  | vector type =>
    have := type.base.number_le
    have := type.lanesLog2_le
    simp only [number, VectorType.number]; omega

end ValueType

end TargetDescription
