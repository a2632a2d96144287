import TargetDescription.Outcome
import TargetDescription.Table
import TargetDescription.ValueType.Basic

/-!
# The type registry

A registry declares scalars, each under a name of its own, and makes the vector types over them on
demand: asking again for the same lane type and lane count gives the same vector type, and not one
made alike, which would have a stamp of its own. It keeps the scalars in order, a table of the vector
types that were made, and a table of all types by name.

* `TypeRegistry.int`, `float` and `bool` declare a scalar, `vector` gives a vector type.
* `TypeRegistry.types` are all types, `byName` finds one.
-/

namespace TargetDescription

/-- The types of a catalog. The marks of its types name the registry by `origin`. -/
structure TypeRegistry where
  origin : Stamp
  scalars : List ScalarType := []
  /-- The vector types by the number of their lanes and the lane count. -/
  made : Table (Nat × Nat) VectorType := .empty
  /-- The types by name. -/
  named : Table String ValueType := .empty
  deriving DecidableEq

namespace TypeRegistry

/-- The largest number of a scalar. -/
def maxScalarNumber : Nat := 15

/-- The largest binary logarithm of a lane count. -/
def maxLanesLog2 : Nat := 15

/-- The vector types that were made, in this order. -/
def vectors (registry : TypeRegistry) : List VectorType :=
  registry.made.values

/-- All types, scalars first. -/
def types (registry : TypeRegistry) : List ValueType :=
  registry.scalars.map .scalar ++ registry.vectors.map .vector

/-- The number of types. -/
def size (registry : TypeRegistry) : Nat :=
  registry.named.size

/-- Is there a type of this name? -/
def hasName (registry : TypeRegistry) (name : String) : Bool :=
  (registry.named.get? name).isSome

/-- The type of this name. -/
def byName (registry : TypeRegistry) (name : String) : Except Error ValueType :=
  match registry.named.get? name with
  | some type => .ok type
  | none => .error (.unknownTypeName name)

/-- Takes in a scalar behind the others, and under its name. -/
def pushScalar (registry : TypeRegistry) (type : ScalarType) : TypeRegistry :=
  { registry with
    scalars := registry.scalars ++ [type]
    named := registry.named.insert type.name (.scalar type) }

/-- Takes in a vector type under the number of its lanes and their count, and under its name. -/
def pushVector (registry : TypeRegistry) (type : VectorType) : TypeRegistry :=
  { registry with
    made := registry.made.insert (type.base.number, type.lanes) type
    named := registry.named.insert type.name (.vector type) }

/-- Declares a scalar under the next number. -/
def declareScalar (registry : TypeRegistry) (kind : ScalarKind) (bits : Nat) (doc : String) :
    Outcome TypeRegistry ValueType :=
  let name := ScalarType.nameOf kind bits
  if bits = 0 then
    .fail (.invalidType (name ++ " must have a positive number of bits")) registry
  else if registry.hasName name then
    .fail (.duplicateTypeName name) registry
  else if fits : registry.scalars.length + 1 ≤ maxScalarNumber then
    let type : ScalarType :=
      ⟨registry.origin, kind, bits, doc, registry.scalars.length + 1, Nat.succ_pos _, fits⟩
    .ok (.scalar type) (registry.pushScalar type)
  else
    .fail (.tooManyScalarTypes name (registry.scalars.length + 1)) registry

/-- Declares an integer type. -/
def int (registry : TypeRegistry) (bits : Nat) : Outcome TypeRegistry ValueType :=
  registry.declareScalar .int bits s!"An integer type with {bits} bits."

/-- Declares a floating point type. -/
def float (registry : TypeRegistry) (bits : Nat) (doc : String) :
    Outcome TypeRegistry ValueType :=
  registry.declareScalar .float bits doc

/-- Declares a boolean type. -/
def bool (registry : TypeRegistry) (bits : Nat) : Outcome TypeRegistry ValueType :=
  registry.declareScalar .bool bits s!"A boolean type with {bits} bits."

/-- The vector type made before for a lane type of this number and this lane count. -/
def vectorMade? (registry : TypeRegistry) (base : ScalarType) (lanes : Nat) : Option VectorType :=
  registry.made.get? (base.number, lanes)

/-- The vector type with `lanes` lanes of a scalar: the one made before, or else a new one, marked
with the stamp, if the lane count is a power of two in range. -/
def vectorOf (registry : TypeRegistry) (stamp : Stamp) (base : ScalarType) (lanes : Nat) :
    Outcome TypeRegistry ValueType :=
  match registry.vectorMade? base lanes with
  | some type => .ok (.vector type) registry
  | none =>
    let log2 := lanes.log2
    if proper : 2 ≤ lanes ∧ 1 <<< log2 = lanes then
      if fits : log2 ≤ maxLanesLog2 then
        let name := VectorType.nameOf base lanes
        if registry.hasName name then
          .fail (.duplicateTypeName name) registry
        else
          let type : VectorType :=
            ⟨registry.origin, stamp, base, log2, (Nat.le_log2 (by omega)).2 proper.1, fits⟩
          .ok (.vector type) (registry.pushVector type)
      else
        .fail (.invalidLaneCount base.name lanes "lane count does not fit the type number") registry
    else
      .fail (.invalidLaneCount base.name lanes
        "lane count must be a power of two greater than one") registry

/-- The vector type with `lanes` lanes of a type, which must be a scalar. -/
def vector (registry : TypeRegistry) (stamp : Stamp) (base : ValueType) (lanes : Nat) :
    Outcome TypeRegistry ValueType :=
  match base with
  | .scalar base => registry.vectorOf stamp base lanes
  | .vector type =>
    .fail (.invalidType ("SIMD lanes must be scalar types, got " ++ type.name)) registry

end TypeRegistry

end TargetDescription
