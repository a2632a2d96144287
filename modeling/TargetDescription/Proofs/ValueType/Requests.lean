import TargetDescription.ValueType.Registry

/-!
# Requests to the type registry

* `TypeRegistry.Request` is a call on a registry, `TypeRegistry.request` what it gives and leaves.
* `TypeRegistry.requestAll` and `TypeRegistry.answers` are what several calls leave and give.
* `TypeRegistry.request_cases` says what a call can do: it adds a scalar or a vector type under a
  name of its own, finds a vector type, or is refused.
* `TypeRegistry.Indexed` is the invariant of the tables, and `TypeRegistry.Indexed.request` the step.
-/

namespace TargetDescription.TypeRegistry

/-- A call on a registry. -/
inductive Request
  | int (bits : Nat)
  | float (bits : Nat) (doc : String)
  | bool (bits : Nat)
  | vector (stamp : Stamp) (base : ValueType) (lanes : Nat)

/-- What a call gives and leaves. -/
def request (registry : TypeRegistry) : Request → Outcome TypeRegistry ValueType
  | .int bits => registry.int bits
  | .float bits doc => registry.float bits doc
  | .bool bits => registry.bool bits
  | .vector stamp base lanes => registry.vector stamp base lanes

/-- What several calls leave, whether they succeed or fail. -/
def requestAll (registry : TypeRegistry) (calls : List Request) : TypeRegistry :=
  calls.foldl (fun registry call => (registry.request call).state) registry

/-- The types that several calls give, in order. Failing calls give none. -/
def answers (registry : TypeRegistry) : List Request → List ValueType
  | [] => []
  | call :: rest =>
    (registry.request call).result.toOption.toList ++ (registry.request call).state.answers rest

variable {registry : TypeRegistry}

theorem byName_eq_ok_iff {name : String} {type : ValueType} :
    registry.byName name = .ok type ↔ registry.named.get? name = some type := by
  rw [byName]
  cases registry.named.get? name <;> simp

/-! ## What a call can do -/

variable (registry)

theorem declareScalar_cases (kind : ScalarKind) (bits : Nat) (doc : String) :
    (∃ type : ScalarType, type.number = registry.scalars.length + 1 ∧
        registry.named.get? type.name = none ∧
        registry.declareScalar kind bits doc = .ok (.scalar type) (registry.pushScalar type)) ∨
      ∃ error, registry.declareScalar kind bits doc = .fail error registry := by
  simp only [declareScalar]
  split
  · exact Or.inr ⟨_, rfl⟩
  split
  case isTrue => exact Or.inr ⟨_, rfl⟩
  case isFalse new =>
    split
    case isFalse => exact Or.inr ⟨_, rfl⟩
    case isTrue =>
      refine Or.inl ⟨_, ?number, ?name, rfl⟩
      case number => rfl
      case name => exact Option.not_isSome_iff_eq_none.1 new

theorem vectorOf_cases (stamp : Stamp) (base : ScalarType) (lanes : Nat) :
    (∃ type : VectorType, type.base = base ∧ type.lanes = lanes ∧
        registry.vectorMade? base lanes = none ∧ registry.named.get? type.name = none ∧
        registry.vectorOf stamp base lanes = .ok (.vector type) (registry.pushVector type)) ∨
      (∃ type, registry.vectorMade? base lanes = some type ∧
        registry.vectorOf stamp base lanes = .ok (.vector type) registry) ∨
      ∃ error, registry.vectorOf stamp base lanes = .fail error registry := by
  simp only [vectorOf]
  split
  case h_1 type made => exact Or.inr (Or.inl ⟨type, made, rfl⟩)
  case h_2 unmade =>
    split
    case isFalse => exact Or.inr (Or.inr ⟨_, rfl⟩)
    case isTrue proper =>
      split
      case isFalse => exact Or.inr (Or.inr ⟨_, rfl⟩)
      case isTrue =>
        split
        case isTrue => exact Or.inr (Or.inr ⟨_, rfl⟩)
        case isFalse new =>
          refine Or.inl ⟨_, ?base, ?lanes, unmade, ?name, rfl⟩
          case base => rfl
          case lanes => exact proper.2
          case name =>
            change registry.named.get? (VectorType.nameOf base (1 <<< lanes.log2)) = none
            rw [proper.2]
            exact Option.not_isSome_iff_eq_none.1 new

theorem request_cases (call : Request) :
    (∃ type : ScalarType, type.number = registry.scalars.length + 1 ∧
        registry.named.get? type.name = none ∧
        registry.request call = .ok (.scalar type) (registry.pushScalar type)) ∨
      (∃ type : VectorType, registry.vectorMade? type.base type.lanes = none ∧
        registry.named.get? type.name = none ∧
        registry.request call = .ok (.vector type) (registry.pushVector type)) ∨
      (∃ type ∈ registry.vectors, registry.request call = .ok (.vector type) registry) ∨
      ∃ error, registry.request call = .fail error registry := by
  cases call with
  | int bits =>
    exact (registry.declareScalar_cases .int bits _).imp_right fun h => Or.inr (Or.inr h)
  | float bits doc =>
    exact (registry.declareScalar_cases .float bits doc).imp_right fun h => Or.inr (Or.inr h)
  | bool bits =>
    exact (registry.declareScalar_cases .bool bits _).imp_right fun h => Or.inr (Or.inr h)
  | vector stamp base lanes =>
    cases base with
    | vector type => exact Or.inr (Or.inr (Or.inr ⟨_, rfl⟩))
    | scalar base =>
      obtain ⟨type, rfl, rfl, unmade, new, h⟩ | ⟨type, made, h⟩ | refused :=
        registry.vectorOf_cases stamp base lanes
      · exact Or.inr (Or.inl ⟨type, unmade, new, h⟩)
      · exact Or.inr (Or.inr (Or.inl ⟨type, Table.mem_values_of_get? made, h⟩))
      · exact Or.inr (Or.inr (Or.inr refused))

/-- A refused call leaves the registry as it was. -/
theorem state_request_of_error {call : Request} {error : Error}
    (h : (registry.request call).result = .error error) :
    (registry.request call).state = registry := by
  obtain ⟨_, -, -, same⟩ | ⟨_, -, -, same⟩ | ⟨_, -, same⟩ | ⟨_, same⟩ :=
    registry.request_cases call
  · rw [same] at h
    cases h
  · rw [same] at h
    cases h
  · rw [same]
    rfl
  · rw [same]
    rfl

/-! ## Lists and tables -/

variable {registry}

theorem vectors_pushVector {type : VectorType}
    (unmade : registry.vectorMade? type.base type.lanes = none) :
    (registry.pushVector type).vectors = registry.vectors ++ [type] :=
  Table.values_insert_of_new unmade

/-- A new scalar stands between the scalars and the vector types. -/
theorem perm_types_pushScalar (registry : TypeRegistry) (type : ScalarType) :
    (registry.pushScalar type).types.Perm (registry.types ++ [.scalar type]) := by
  simp only [types, vectors, pushScalar, List.map_append, List.map_singleton, List.append_assoc]
  exact List.perm_append_comm.append_left _

theorem types_pushVector {type : VectorType}
    (unmade : registry.vectorMade? type.base type.lanes = none) :
    (registry.pushVector type).types = registry.types ++ [.vector type] := by
  rw [types, vectors_pushVector unmade, List.map_append, ← List.append_assoc]
  rfl

/-- The tables lead to the types and to nothing else. Each vector type stands under the number of
its lanes and their count, and those that stand under their names are the scalars and the vector
types. -/
structure Indexed (registry : TypeRegistry) : Prop where
  made : registry.made.KeyedBy fun type => (type.base.number, type.lanes)
  named : registry.named.KeyedBy ValueType.name
  same : registry.named.values.Perm registry.types

theorem indexed_start (origin : Stamp) : Indexed { origin } where
  made := Table.keyedBy_empty _
  named := Table.keyedBy_empty _
  same := .nil

namespace Indexed

theorem pushScalar (indexed : registry.Indexed) {type : ScalarType}
    (new : registry.named.get? type.name = none) : (registry.pushScalar type).Indexed where
  made := indexed.made
  named := indexed.named.insert rfl
  same := by
    rw [TypeRegistry.pushScalar, Table.values_insert_of_new new]
    exact (indexed.same.append_right _).trans (registry.perm_types_pushScalar type).symm

theorem pushVector (indexed : registry.Indexed) {type : VectorType}
    (unmade : registry.vectorMade? type.base type.lanes = none)
    (new : registry.named.get? type.name = none) : (registry.pushVector type).Indexed where
  made := indexed.made.insert rfl
  named := indexed.named.insert rfl
  same := by
    rw [types_pushVector unmade, TypeRegistry.pushVector, Table.values_insert_of_new new]
    exact indexed.same.append_right _

theorem request (indexed : registry.Indexed) (call : Request) :
    (registry.request call).state.Indexed := by
  obtain ⟨type, -, new, h⟩ | ⟨type, unmade, new, h⟩ | ⟨type, -, h⟩ | ⟨error, h⟩ :=
    registry.request_cases call
  · rw [h]
    exact indexed.pushScalar new
  · rw [h]
    exact indexed.pushVector unmade new
  · rw [h]
    exact indexed
  · rw [h]
    exact indexed

/-- A name leads to the type that has it. -/
theorem byName_eq_ok_iff (indexed : registry.Indexed) {name : String} {type : ValueType} :
    registry.byName name = .ok type ↔ type ∈ registry.types ∧ type.name = name := by
  rw [TypeRegistry.byName_eq_ok_iff, indexed.named.get?_eq_some_iff, indexed.same.mem_iff]

/-- A name is free if no type has it. -/
theorem get?_eq_none_iff (indexed : registry.Indexed) {name : String} :
    registry.named.get? name = none ↔ name ∉ registry.types.map ValueType.name := by
  rw [indexed.named.get?_eq_none_iff, (indexed.same.map _).mem_iff]

theorem nodup_names (indexed : registry.Indexed) :
    (registry.types.map ValueType.name).Nodup :=
  (indexed.same.map _).nodup_iff.1 indexed.named.nodup

theorem size (indexed : registry.Indexed) : registry.size = registry.types.length := by
  rw [TypeRegistry.size, ← Table.length_values, indexed.same.length_eq]

/-- Lane number and lane count lead to the vector type that has them. -/
theorem vectorMade?_eq_some_iff (indexed : registry.Indexed) {base : ScalarType} {lanes : Nat}
    {type : VectorType} :
    registry.vectorMade? base lanes = some type ↔
      type ∈ registry.vectors ∧ type.base.number = base.number ∧ type.lanes = lanes := by
  rw [vectorMade?, indexed.made.get?_eq_some_iff, Prod.mk.injEq]
  rfl

theorem vectorMade?_eq_none_iff (indexed : registry.Indexed) {base : ScalarType} {lanes : Nat} :
    registry.vectorMade? base lanes = none ↔
      ∀ type ∈ registry.vectors, type.base.number = base.number → type.lanes ≠ lanes := by
  rw [Option.eq_none_iff_forall_ne_some]
  simp [indexed.vectorMade?_eq_some_iff]

end Indexed

end TargetDescription.TypeRegistry
