import Mathlib.Algebra.GroupWithZero.Nat
import Mathlib.Data.List.Nodup
import TargetDescription.Proofs.Occurrence
import TargetDescription.Proofs.ValueType.Requests

/-!
# The numbers of the types in a registry

A registry tells its types apart by name, by number and, as far as vector types go, by lane count
and number of the lanes. The three stay in step, whatever is declared, also if lanes come from
another registry: a vector type with lanes of the same number is then taken for the one asked for.

* `VectorType.number_eq_iff` says that a number holds the lane count and the number of the lanes.
* `TypeRegistry.Accounts` is the invariant; `TypeRegistry.Accounts.request` is the step and
  `TypeRegistry.accounts_requestAll` the run.
* `TypeRegistry.TellsApart` says what the answers of a registry can be relied on for, and
  `registry_tellsApart` is the main result.
-/

namespace TargetDescription

/-! ## Numbers of vector types -/

namespace VectorType

theorem log2_lanes (type : VectorType) : type.lanes.log2 = type.lanesLog2 := by
  rw [lanes, Nat.one_shiftLeft, Nat.log2_two_pow]

theorem lanesLog2_eq_iff {a b : VectorType} : a.lanesLog2 = b.lanesLog2 ↔ a.lanes = b.lanes := by
  rw [← log2_lanes, ← log2_lanes]
  constructor
  · intro h
    rw [log2_lanes, log2_lanes] at h
    rw [lanes, lanes, h]
  · exact congrArg Nat.log2

theorem number_div (type : VectorType) : type.number / 16 = type.lanesLog2 := by
  have := type.base.number_le
  rw [number]
  omega

theorem number_mod (type : VectorType) : type.number % 16 = type.base.number := by
  have := type.base.number_le
  rw [number]
  omega

/-- No scalar has the number of a vector type. -/
theorem lt_number (type : VectorType) : 15 < type.number := by
  have := type.lanesLog2_pos
  rw [number]
  omega

/-- The number of a vector type determines the lane count and the number of the lanes. -/
theorem number_eq_iff {a b : VectorType} :
    a.number = b.number ↔ a.base.number = b.base.number ∧ a.lanes = b.lanes := by
  rw [← lanesLog2_eq_iff]
  constructor
  · intro same
    rw [← number_mod, ← number_mod, ← number_div, ← number_div, same]
    exact ⟨rfl, rfl⟩
  · rintro ⟨base, lanes⟩
    rw [number, number, base, lanes]

/-- The number of the vector type holds this lane count and the number of these lanes, and the sum
that it is does not overflow a byte. -/
structure Packs (type : VectorType) (base : ScalarType) (lanes : Nat) : Prop where
  number : type.number = 16 * lanes.log2 + base.number
  inByte : (16 * UInt8.ofNat lanes.log2 + UInt8.ofNat base.number).toNat =
    16 * lanes.log2 + base.number
  lanesLog2 : type.number / 16 = lanes.log2
  lanes : 2 ^ (type.number / 16) = lanes
  base : type.number % 16 = base.number

theorem packs {type : VectorType} {base : ScalarType} {lanes : Nat}
    (hbase : type.base.number = base.number) (hlanes : type.lanes = lanes) :
    type.Packs base lanes := by
  subst hlanes
  have hlog2 := type.log2_lanes
  have hle := type.lanesLog2_le
  have hbase_le := base.number_le
  constructor
  case number => rw [VectorType.number, hlog2, hbase]
  case inByte =>
    rw [hlog2]
    simp only [UInt8.toNat_add, UInt8.toNat_mul, UInt8.toNat_ofNat', UInt8.toNat_ofNat]
    omega
  case lanesLog2 => rw [number_div, hlog2]
  case lanes => rw [number_div, VectorType.lanes, Nat.one_shiftLeft]
  case base => rw [number_mod, hbase]

end VectorType

/-! ## The invariant -/

namespace ValueType

/-- The type as a scalar. -/
def scalar? : ValueType → Option ScalarType
  | scalar type => some type
  | vector _ => none

/-- The type as a vector type. -/
def vector? : ValueType → Option VectorType
  | scalar _ => none
  | vector type => some type

theorem scalar?_eq_some_iff {type : ValueType} {s : ScalarType} :
    type.scalar? = some s ↔ type = scalar s := by
  cases type <;> simp [scalar?]

theorem vector?_eq_some_iff {type : ValueType} {v : VectorType} :
    type.vector? = some v ↔ type = vector v := by
  cases type <;> simp [vector?]

end ValueType

namespace TypeRegistry

variable {registry : TypeRegistry} {before : List ValueType}

/-- The registry holds the types that it has answered with, the scalars in order of declaration and
the vector types in order of their first request, and its tables lead to them. The scalars are
numbered in order, and no two types have the same number. -/
structure Accounts (registry : TypeRegistry) (answers : List ValueType) : Prop where
  indexed : registry.Indexed
  scalars : registry.scalars = answers.filterMap ValueType.scalar?
  vectors : registry.vectors = (answers.filterMap ValueType.vector?).eraseDups
  scalarNumbers : registry.scalars.map (·.number) = List.range' 1 registry.scalars.length
  numbers : (registry.types.map ValueType.number).Nodup

theorem accounts_start (origin : Stamp) : Accounts { origin } [] where
  indexed := indexed_start origin
  scalars := rfl
  vectors := rfl
  scalarNumbers := rfl
  numbers := List.nodup_nil

theorem mem_types_iff {type : ValueType} :
    type ∈ registry.types ↔
      (∃ s ∈ registry.scalars, type = .scalar s) ∨ ∃ v ∈ registry.vectors, type = .vector v := by
  simp only [types, List.mem_append, List.mem_map, eq_comm]

namespace Accounts

theorem mem_types_iff (accounts : registry.Accounts before) {type : ValueType} :
    type ∈ registry.types ↔ type ∈ before := by
  rw [TypeRegistry.mem_types_iff, accounts.scalars, accounts.vectors]
  simp only [List.mem_eraseDups, List.mem_filterMap, ValueType.scalar?_eq_some_iff,
    ValueType.vector?_eq_some_iff, exists_eq_right]
  cases type <;> simp

theorem number_le_length (accounts : registry.Accounts before) {type : ScalarType}
    (mem : type ∈ registry.scalars) : type.number ≤ registry.scalars.length := by
  have numbered : type.number ∈ registry.scalars.map (·.number) := List.mem_map_of_mem mem
  rw [accounts.scalarNumbers, List.mem_range'_1] at numbered
  omega

/-- The next scalar number is that of no type. -/
theorem scalarNumber_notMem (accounts : registry.Accounts before) {type : ScalarType}
    (number : type.number = registry.scalars.length + 1) :
    type.number ∉ registry.types.map ValueType.number := by
  intro taken
  obtain ⟨other, mem, same⟩ := List.mem_map.1 taken
  obtain ⟨s, hs, rfl⟩ | ⟨v, -, rfl⟩ := TypeRegistry.mem_types_iff.1 mem
  · have le := accounts.number_le_length hs
    rw [ValueType.number] at same
    omega
  · -- The numbers of vector types lie above those of all scalars.
    have gt := v.lt_number
    have le := type.number_le
    rw [ValueType.number] at same
    omega

/-- The number of a vector type that was not made yet is that of no type. -/
theorem vectorNumber_notMem (accounts : registry.Accounts before) {type : VectorType}
    (unmade : registry.vectorMade? type.base type.lanes = none) :
    type.number ∉ registry.types.map ValueType.number := by
  intro taken
  obtain ⟨other, mem, same⟩ := List.mem_map.1 taken
  obtain ⟨s, -, rfl⟩ | ⟨v, hv, rfl⟩ := TypeRegistry.mem_types_iff.1 mem
  · have gt := type.lt_number
    have le := s.number_le
    rw [ValueType.number] at same
    omega
  · obtain ⟨base, lanes⟩ := VectorType.number_eq_iff.1 same
    exact accounts.indexed.vectorMade?_eq_none_iff.1 unmade v hv base lanes

theorem newScalar (accounts : registry.Accounts before) {type : ScalarType}
    (number : type.number = registry.scalars.length + 1)
    (new : registry.named.get? type.name = none) :
    (registry.pushScalar type).Accounts (before ++ [.scalar type]) where
  indexed := accounts.indexed.pushScalar new
  scalars := by
    rw [pushScalar, accounts.scalars, List.filterMap_append]
    rfl
  vectors := by
    rw [List.filterMap_append]
    exact accounts.vectors.trans (congrArg List.eraseDups (List.append_nil _).symm)
  scalarNumbers := by
    rw [pushScalar, List.map_append, accounts.scalarNumbers, List.length_append,
      List.length_singleton, List.range'_1_concat, Nat.add_comm 1, List.map_singleton, number]
  numbers := by
    rw [((registry.perm_types_pushScalar type).map _).nodup_iff, List.map_append]
    exact List.nodup_append_singleton accounts.numbers (accounts.scalarNumber_notMem number)

theorem newVector (accounts : registry.Accounts before) {type : VectorType}
    (unmade : registry.vectorMade? type.base type.lanes = none)
    (new : registry.named.get? type.name = none) :
    (registry.pushVector type).Accounts (before ++ [.vector type]) where
  indexed := accounts.indexed.pushVector unmade new
  scalars := by
    rw [List.filterMap_append]
    exact accounts.scalars.trans (List.append_nil _).symm
  vectors := by
    have first : type ∉ before.filterMap ValueType.vector? := by
      rw [← List.mem_eraseDups, ← accounts.vectors]
      exact fun mem => accounts.indexed.vectorMade?_eq_none_iff.1 unmade type mem rfl rfl
    rw [vectors_pushVector unmade, accounts.vectors, List.filterMap_append]
    exact (List.eraseDups_append_singleton_of_notMem first).symm
  scalarNumbers := accounts.scalarNumbers
  numbers := by
    rw [types_pushVector unmade, List.map_append]
    exact List.nodup_append_singleton accounts.numbers (accounts.vectorNumber_notMem unmade)

/-- A vector type that is there is not added to the distinct ones. -/
theorem foundVector (accounts : registry.Accounts before) {type : VectorType}
    (mem : type ∈ registry.vectors) : registry.Accounts (before ++ [.vector type]) :=
  { accounts with
    scalars := by
      rw [accounts.scalars, List.filterMap_append]
      exact (List.append_nil _).symm
    vectors := by
      rw [accounts.vectors, List.mem_eraseDups] at mem
      have known : [type] ⊆ before.filterMap ValueType.vector? := by simpa using mem
      rw [accounts.vectors, List.filterMap_append]
      exact (List.eraseDups_append_of_subset known).symm }

theorem request (accounts : registry.Accounts before) (call : Request) :
    (registry.request call).state.Accounts
      (before ++ (registry.request call).result.toOption.toList) := by
  obtain ⟨type, number, new, h⟩ | ⟨type, unmade, new, h⟩ | ⟨type, mem, h⟩ | ⟨error, h⟩ :=
    registry.request_cases call
  · rw [h]
    exact accounts.newScalar number new
  · rw [h]
    exact accounts.newVector unmade new
  · rw [h]
    exact accounts.foundVector mem
  · rw [h]
    exact (List.append_nil before).symm ▸ accounts

end Accounts

theorem accounts_requestAll (accounts : registry.Accounts before) (calls : List Request) :
    (registry.requestAll calls).Accounts (before ++ registry.answers calls) := by
  induction calls generalizing registry before with
  | nil => exact (List.append_nil before).symm ▸ accounts
  | cons call rest ih =>
    rw [answers, ← List.append_assoc]
    exact ih (accounts.request call)

/-! ## What the answers can be relied on for -/

/-- The types of a registry that has given these answers. The scalars are those declared, numbered
from one in order of declaration. The number of a vector type holds the lane count and the number of
the lanes, those that it has and those that were asked for. No two types have the same number or the
same name, the name of an answer leads back to it, and the types are the scalars and the distinct
vector types among the answers. -/
structure TellsApart (registry : TypeRegistry) (answers : List ValueType) : Prop where
  scalars : registry.scalars = answers.filterMap ValueType.scalar?
  scalarNumbers : registry.scalars.map (·.number) = List.range' 1 registry.scalars.length
  fewScalars : registry.scalars.length ≤ 15
  packed : ∀ type ∈ registry.vectors, type.Packs type.base type.lanes
  requested : ∀ stamp base lanes type, (registry.vector stamp base lanes).result = .ok type →
    ∃ s v, base = .scalar s ∧ type = .vector v ∧ v.Packs s lanes
  numbers : (registry.types.map ValueType.number).Nodup
  names : (registry.types.map ValueType.name).Nodup
  found : ∀ type ∈ answers, registry.byName type.name = .ok type
  size : registry.size =
    registry.scalars.length + (answers.filterMap ValueType.vector?).eraseDups.length

namespace Accounts

theorem fewScalars (accounts : registry.Accounts before) : registry.scalars.length ≤ 15 := by
  by_contra many
  have last : registry.scalars.length ∈ registry.scalars.map (·.number) := by
    rw [accounts.scalarNumbers, List.mem_range'_1]
    omega
  obtain ⟨type, -, number⟩ := List.mem_map.1 last
  have le := type.number_le
  omega

theorem tellsApart (accounts : registry.Accounts before) : registry.TellsApart before where
  scalars := accounts.scalars
  scalarNumbers := accounts.scalarNumbers
  fewScalars := accounts.fewScalars
  packed := fun type _ => VectorType.packs rfl rfl
  requested := by
    intro stamp base lanes type h
    cases base with
    | vector type => cases h
    | scalar base =>
      rw [vector] at h
      obtain ⟨v, rfl, rfl, -, -, ok⟩ | ⟨v, made, ok⟩ | ⟨error, fail⟩ :=
        registry.vectorOf_cases stamp base lanes
      · rw [ok] at h
        exact ⟨_, v, rfl, (Except.ok.inj h).symm, VectorType.packs rfl rfl⟩
      · rw [ok] at h
        obtain ⟨-, hbase, hlanes⟩ := accounts.indexed.vectorMade?_eq_some_iff.1 made
        exact ⟨base, v, rfl, (Except.ok.inj h).symm, VectorType.packs hbase hlanes⟩
      · rw [fail] at h
        cases h
  numbers := accounts.numbers
  names := accounts.indexed.nodup_names
  found := fun _ answered =>
    accounts.indexed.byName_eq_ok_iff.2 ⟨accounts.mem_types_iff.2 answered, rfl⟩
  size := by
    rw [accounts.indexed.size, types, List.length_append, List.length_map, List.length_map,
      accounts.vectors]

end Accounts

end TypeRegistry

/-- **A registry tells its types apart.** Whatever is declared and whatever vector types are asked
for, successfully or not, with lanes from this registry or another one, names and numbers are
distinct, the number of a vector type holds its lanes, and every answer can be found again. -/
theorem registry_tellsApart (origin : Stamp) (calls : List TypeRegistry.Request) :
    (TypeRegistry.requestAll { origin } calls).TellsApart
      (TypeRegistry.answers { origin } calls) :=
  (TypeRegistry.accounts_requestAll (TypeRegistry.accounts_start origin) calls).tellsApart

/-- Lanes of another registry stand for the lanes of the same number. -/
example :
    let byte : ScalarType := ⟨⟨1⟩, .int, 8, "", 1, by decide, by decide⟩
    let word : ScalarType := ⟨⟨0⟩, .int, 32, "", 1, by decide, by decide⟩
    (TypeRegistry.answers { origin := ⟨0⟩ }
      [.int 32, .vector ⟨2⟩ (.scalar byte) 4, .vector ⟨3⟩ (.scalar word) 4]).map ValueType.name =
        ["i32", "i8x4", "i8x4"] := by
  decide

end TargetDescription
