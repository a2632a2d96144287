import Mathlib.Data.List.Basic
import TargetDescription.Proofs.Catalog.Registries
import TargetDescription.Proofs.ValueType.Numbers

/-!
# Vector types over the scalars of the registry

A registry looks up a vector type by the number of its lanes before it checks the lane count, and
adds a new one only under a name that is free. As long as it is asked for its own scalars only, the
number stands for the scalar and the name is always free, so the lane count alone decides.

* `VectorType.nameOf_inj` reads lane type and lane count off a name.
* `TypeRegistry.OwnLanes` is the invariant; `TypeRegistry.OwnLanes.request` is the step and
  `TypeRegistry.OwnLanes.requestAll` the run.
* `IsLaneCount` are the lane counts that there are.
* `vector_of_ownLanes` is the main result.
-/

namespace TargetDescription

/-! ## Names -/

theorem toString_nat_injective {m n : Nat} (h : toString m = toString n) : m = n := by
  have digits : Nat.toDigits 10 m = Nat.toDigits 10 n := by
    simpa only [Nat.toString_eq_repr, Nat.toList_repr] using congrArg String.toList h
  calc m = Nat.ofDigitChars 10 (Nat.toDigits 10 m) 0 := Nat.ofDigitChars_ten_toDigits.symm
    _ = Nat.ofDigitChars 10 (Nat.toDigits 10 n) 0 := by rw [digits]
    _ = n := Nat.ofDigitChars_ten_toDigits

theorem notMem_toList_toString {c : Char} (h : c.isDigit = false) (n : Nat) :
    c ∉ (toString n).toList := by
  intro mem
  rw [Nat.toString_eq_repr, Nat.toList_repr] at mem
  simp [Nat.isDigit_of_mem_toDigits (by decide) (by decide) mem] at h

/-- The letter between lane type and lane count occurs in neither. -/
theorem ScalarType.notMem_toList_name (type : ScalarType) : 'x' ∉ type.name.toList := by
  rw [name, nameOf, String.toList_append, String.toList_singleton, List.mem_append,
    List.mem_singleton]
  rintro (letter | digit)
  · cases hkind : type.kind <;> simp [hkind, ScalarKind.letter] at letter
  · exact notMem_toList_toString (by decide) _ digit

namespace VectorType

theorem toList_nameOf (base : ScalarType) (lanes : Nat) :
    (nameOf base lanes).toList = base.name.toList ++ 'x' :: (toString lanes).toList := by
  rw [nameOf, String.toList_append, String.toList_append, List.append_assoc]
  rfl

/-- The name of a vector type tells the name of its lanes and their count. -/
theorem nameOf_inj {a b : ScalarType} {m n : Nat} (h : nameOf a m = nameOf b n) :
    a.name = b.name ∧ m = n := by
  have chars := congrArg String.toList h
  rw [toList_nameOf, toList_nameOf, List.append_cons_inj_of_notMem a.notMem_toList_name
    (notMem_toList_toString (by decide) m)] at chars
  obtain ⟨names, -, lanes⟩ := chars
  exact ⟨String.toList_inj.1 names, toString_nat_injective (String.toList_inj.1 lanes)⟩

theorem name_ne_nameOf (type : ScalarType) (base : ScalarType) (lanes : Nat) :
    type.name ≠ nameOf base lanes := by
  intro h
  apply type.notMem_toList_name
  rw [h, toList_nameOf]
  simp

end VectorType

/-! ## Lane counts -/

/-- The powers of two from two on whose logarithm fits in half a byte. -/
def IsLaneCount (lanes : Nat) : Prop :=
  lanes.isPowerOfTwo ∧ 2 ≤ lanes ∧ lanes ≤ 2 ^ 15

theorem isLaneCount_iff {lanes : Nat} :
    IsLaneCount lanes ↔ (2 ≤ lanes ∧ 1 <<< lanes.log2 = lanes) ∧
      lanes.log2 ≤ TypeRegistry.maxLanesLog2 := by
  rw [IsLaneCount, Nat.one_shiftLeft]
  constructor
  · rintro ⟨⟨k, rfl⟩, two, small⟩
    rw [Nat.log2_two_pow]
    exact ⟨⟨two, rfl⟩, (Nat.pow_le_pow_iff_right (by decide)).1 small⟩
  · rintro ⟨⟨two, power⟩, fits⟩
    refine ⟨⟨lanes.log2, power.symm⟩, two, ?_⟩
    rw [← power]
    exact Nat.pow_le_pow_right (by decide) fits

theorem VectorType.isLaneCount_lanes (type : VectorType) : IsLaneCount type.lanes := by
  have two : 2 ^ 1 ≤ 2 ^ type.lanesLog2 := Nat.pow_le_pow_right (by decide) type.lanesLog2_pos
  rw [isLaneCount_iff, type.log2_lanes]
  rw [← Nat.one_shiftLeft (n := type.lanesLog2)] at two
  exact ⟨⟨two, rfl⟩, type.lanesLog2_le⟩

namespace TypeRegistry

variable {registry : TypeRegistry} {before : List ValueType} {base : ScalarType} {lanes : Nat}

/-! ## Asking for own scalars only -/

/-- The lanes of all vector types are scalars of the registry. -/
def OwnLanes (registry : TypeRegistry) : Prop :=
  ∀ type ∈ registry.vectors, type.base ∈ registry.scalars

/-- The call asks for no scalar of another registry as lanes. -/
def Request.AsksOwn (registry : TypeRegistry) : Request → Prop
  | .vector _ (.scalar base) _ => base ∈ registry.scalars
  | _ => True

instance (registry : TypeRegistry) : (call : Request) → Decidable (call.AsksOwn registry)
  | .vector _ (.scalar base) _ => inferInstanceAs (Decidable (base ∈ registry.scalars))
  | .vector _ (.vector _) _ | .int _ | .float _ _ | .bool _ => isTrue trivial

/-- Each of the calls asks for no scalars but those declared by then. -/
def AskOwn (registry : TypeRegistry) : List Request → Prop
  | [] => True
  | call :: rest => call.AsksOwn registry ∧ (registry.request call).state.AskOwn rest

instance decidableAskOwn (registry : TypeRegistry) :
    (calls : List Request) → Decidable (registry.AskOwn calls)
  | [] => isTrue trivial
  | call :: rest =>
    have := decidableAskOwn (registry.request call).state rest
    inferInstanceAs (Decidable (call.AsksOwn registry ∧ _))

namespace OwnLanes

theorem declareScalar (own : registry.OwnLanes) (kind : ScalarKind) (bits : Nat)
    (doc : String) : (registry.declareScalar kind bits doc).state.OwnLanes := by
  obtain ⟨type, -, -, h⟩ | ⟨error, h⟩ := registry.declareScalar_cases kind bits doc
  · rw [h]
    exact fun v mem => List.mem_append_left _ (own v mem)
  · rw [h]
    exact own

theorem vectorOf (own : registry.OwnLanes) (mem : base ∈ registry.scalars) (stamp : Stamp)
    (lanes : Nat) : (registry.vectorOf stamp base lanes).state.OwnLanes := by
  obtain ⟨type, rfl, rfl, unmade, -, h⟩ | ⟨type, -, h⟩ | ⟨error, h⟩ :=
    registry.vectorOf_cases stamp base lanes
  · rw [h, OwnLanes, Outcome.state_ok, vectors_pushVector unmade]
    exact List.forall_mem_append.2 ⟨own, List.forall_mem_singleton.2 mem⟩
  · rw [h]
    exact own
  · rw [h]
    exact own

theorem request (own : registry.OwnLanes) {call : Request}
    (asks : call.AsksOwn registry) : (registry.request call).state.OwnLanes := by
  cases call with
  | int bits => exact own.declareScalar _ _ _
  | float bits doc => exact own.declareScalar _ _ _
  | bool bits => exact own.declareScalar _ _ _
  | vector stamp base lanes =>
    cases base with
    | scalar base => exact own.vectorOf asks stamp lanes
    | vector type => exact own

theorem requestAll (own : registry.OwnLanes) {calls : List Request}
    (asks : registry.AskOwn calls) : (registry.requestAll calls).OwnLanes := by
  induction calls generalizing registry with
  | nil => exact own
  | cons call rest ih => exact ih (own.request asks.1) asks.2

end OwnLanes

theorem keptBy_requestAll (registry : TypeRegistry) (calls : List Request) :
    registry.KeptBy (registry.requestAll calls) := by
  induction calls generalizing registry with
  | nil => exact .refl registry
  | cons call rest ih => exact (registry.keptBy_request call).trans (ih _)

/-! ## Numbers and names stand for the lanes -/

/-- What is found by the number of a scalar has this scalar as its lanes. -/
theorem base_of_vectorMade? (accounts : registry.Accounts before) (own : registry.OwnLanes)
    (mem : base ∈ registry.scalars) {type : VectorType}
    (made : registry.vectorMade? base lanes = some type) :
    type.base = base ∧ type.lanes = lanes := by
  obtain ⟨there, number, count⟩ := accounts.indexed.vectorMade?_eq_some_iff.1 made
  have distinct : (registry.scalars.map (·.number)).Nodup := by
    rw [accounts.scalarNumbers]
    exact List.nodup_range'
  exact ⟨List.inj_on_of_nodup_map distinct (own type there) mem number, count⟩

/-- The name of a vector type that was not made yet is free. -/
theorem hasName_of_vectorMade?_eq_none (accounts : registry.Accounts before)
    (own : registry.OwnLanes) (mem : base ∈ registry.scalars)
    (unmade : registry.vectorMade? base lanes = none) :
    registry.hasName (VectorType.nameOf base lanes) = false := by
  rw [hasName, Option.isSome_eq_false_iff, Option.isNone_iff_eq_none,
    accounts.indexed.get?_eq_none_iff]
  intro taken
  obtain ⟨type, hmem, name⟩ := List.mem_map.1 taken
  obtain ⟨s, -, rfl⟩ | ⟨v, hv, rfl⟩ := mem_types_iff.1 hmem
  · exact VectorType.name_ne_nameOf s base lanes name
  · obtain ⟨names, count⟩ := VectorType.nameOf_inj name
    -- Both lane types are scalars of the registry, where a name belongs to one type.
    have same : ValueType.scalar v.base = .scalar base :=
      List.inj_on_of_nodup_map accounts.indexed.nodup_names
        (mem_types_iff.2 (.inl ⟨_, own v hv, rfl⟩)) (mem_types_iff.2 (.inl ⟨_, mem, rfl⟩)) names
    refine accounts.indexed.vectorMade?_eq_none_iff.1 unmade v hv ?_ count
    rw [ValueType.scalar.inj same]

/-! ## What the registry answers -/

theorem vector_of_isLaneCount (accounts : registry.Accounts before) (own : registry.OwnLanes)
    (mem : base ∈ registry.scalars) (fits : IsLaneCount lanes) (stamp : Stamp) :
    ∃ type, (registry.vector stamp (.scalar base) lanes).result = .ok (.vector type) ∧
      type.base = base ∧ type.lanes = lanes := by
  cases made : registry.vectorMade? base lanes with
  | some type =>
    rw [vector_of_made made]
    exact ⟨type, rfl, base_of_vectorMade? accounts own mem made⟩
  | none =>
    have free := hasName_of_vectorMade?_eq_none accounts own mem made
    obtain ⟨proper, small⟩ := isLaneCount_iff.1 fits
    simp only [vector, vectorOf, made, dif_pos proper, dif_pos small, free]
    exact ⟨_, rfl, rfl, proper.2⟩

theorem vector_of_not_isLaneCount (accounts : registry.Accounts before) (own : registry.OwnLanes)
    (mem : base ∈ registry.scalars) (fits : ¬ IsLaneCount lanes) (stamp : Stamp) :
    ∃ reason, registry.vector stamp (.scalar base) lanes =
      .fail (.invalidLaneCount base.name lanes reason) registry := by
  cases made : registry.vectorMade? base lanes with
  | some type =>
    obtain ⟨-, rfl⟩ := base_of_vectorMade? accounts own mem made
    exact absurd type.isLaneCount_lanes fits
  | none =>
    rw [isLaneCount_iff, not_and] at fits
    simp only [vector, vectorOf, made]
    split
    case isTrue proper =>
      rw [dif_neg (fits proper)]
      exact ⟨_, rfl⟩
    case isFalse => exact ⟨_, rfl⟩

theorem lanes_of_vector (accounts : registry.Accounts before) (own : registry.OwnLanes)
    (mem : base ∈ registry.scalars) {stamp : Stamp} {type : ValueType}
    (h : (registry.vector stamp (.scalar base) lanes).result = .ok type) :
    ∃ v, type = .vector v ∧ v.base = base ∧ v.lanes = lanes := by
  by_cases fits : IsLaneCount lanes
  · obtain ⟨v, given, hbase, hlanes⟩ := vector_of_isLaneCount accounts own mem fits stamp
    exact ⟨v, Except.ok.inj (h.symm.trans given), hbase, hlanes⟩
  · obtain ⟨reason, refused⟩ := vector_of_not_isLaneCount accounts own mem fits stamp
    simp [refused] at h

end TypeRegistry

/-- **The lane count alone decides about a vector type.** If a registry was never asked for lanes of
another one, it gives the vector type of any of its scalars with any lane count that there is, and
refuses the other lane counts for what they are. Asked again, at any time and with any stamp to mark
a new type, it gives the very same type and changes nothing; for any other of its scalars or another
lane count it gives another type. -/
theorem vector_of_ownLanes {origin : Stamp} {calls : List TypeRegistry.Request}
    (asks : TypeRegistry.AskOwn { origin } calls) {registry : TypeRegistry}
    (reached : TypeRegistry.requestAll { origin } calls = registry) {base : ScalarType}
    (mem : base ∈ registry.scalars) (lanes : Nat) (stamp : Stamp) :
    (IsLaneCount lanes → ∃ type, (registry.vector stamp (.scalar base) lanes).result =
        .ok (.vector type) ∧ type.base = base ∧ type.lanes = lanes) ∧
      (¬ IsLaneCount lanes → ∃ reason, registry.vector stamp (.scalar base) lanes =
        .fail (.invalidLaneCount base.name lanes reason) registry) ∧
      ∀ type, (registry.vector stamp (.scalar base) lanes).result = .ok type →
        ∀ between later, (registry.vector stamp (.scalar base) lanes).state.AskOwn between →
          (registry.vector stamp (.scalar base) lanes).state.requestAll between = later →
            ∀ again, later.vector again (.scalar base) lanes = .ok type later ∧
              ∀ other ∈ later.scalars, ∀ count found,
                (later.vector again (.scalar other) count).result = .ok found →
                  (found = type ↔ other = base ∧ count = lanes) := by
  subst reached
  have accounts := TypeRegistry.accounts_requestAll (TypeRegistry.accounts_start origin) calls
  have start : TypeRegistry.OwnLanes { origin } := nofun
  have own := start.requestAll asks
  refine ⟨fun fits => TypeRegistry.vector_of_isLaneCount accounts own mem fits stamp,
    fun fits => TypeRegistry.vector_of_not_isLaneCount accounts own mem fits stamp, ?_⟩
  rintro type given between later asksLater rfl again
  have accountsLater := TypeRegistry.accounts_requestAll
    (accounts.request (.vector stamp (.scalar base) lanes)) between
  have asksOwn : TypeRegistry.Request.AsksOwn _ (.vector stamp (.scalar base) lanes) := mem
  have ownLater := (own.request asksOwn).requestAll asksLater
  have same := TypeRegistry.vector_again given (TypeRegistry.keptBy_requestAll _ between) again
  refine ⟨same, fun other hother count found hfound => ?_⟩
  constructor
  · rintro rfl
    obtain ⟨v, rfl, rfl, rfl⟩ := TypeRegistry.lanes_of_vector accounts own mem given
    obtain ⟨w, equal, rfl, rfl⟩ :=
      TypeRegistry.lanes_of_vector accountsLater ownLater hother hfound
    obtain rfl := ValueType.vector.inj equal
    exact ⟨rfl, rfl⟩
  · rintro ⟨rfl, rfl⟩
    rw [same] at hfound
    exact (Except.ok.inj hfound).symm

/-- The integers of 32 bits in a registry that declares them first. -/
def word : ScalarType :=
  ⟨⟨0⟩, .int, 32, "An integer type with 32 bits.", 1, by decide, by decide⟩

/-- The booleans of one bit in a registry that declares them next. -/
def flag : ScalarType :=
  ⟨⟨0⟩, .bool, 1, "A boolean type with 1 bits.", 2, by decide, by decide⟩

/-- Eight words are found again behind a refused call and eight flags, which are another type. At
the start, the stamp of the last call would have marked another type of eight words. -/
theorem vector_of_ownLanes_words :
    TypeRegistry.AskOwn { origin := ⟨0⟩ } [.int 32, .vector ⟨1⟩ (.scalar word) 4] ∧
      ∃ registry later type,
        TypeRegistry.requestAll { origin := ⟨0⟩ } [.int 32, .vector ⟨1⟩ (.scalar word) 4] =
          registry ∧
        word ∈ registry.scalars ∧ (registry.vector ⟨2⟩ (.scalar word) 8).result = .ok type ∧
        (registry.vector ⟨5⟩ (.scalar word) 8).result ≠ .ok type ∧
        (registry.vector ⟨2⟩ (.scalar word) 8).state.requestAll
          [.bool 1, .vector ⟨3⟩ (.scalar word) 3, .vector ⟨4⟩ (.scalar flag) 8] = later ∧
        later.vector ⟨5⟩ (.scalar word) 8 = .ok type later ∧
        ∀ found, (later.vector ⟨5⟩ (.scalar flag) 8).result = .ok found → found ≠ type := by
  have asks : TypeRegistry.AskOwn { origin := ⟨0⟩ } [.int 32, .vector ⟨1⟩ (.scalar word) 4] := by
    decide
  have declared : word ∈ (TypeRegistry.requestAll { origin := ⟨0⟩ }
      [.int 32, .vector ⟨1⟩ (.scalar word) 4]).scalars := by decide
  obtain ⟨given, -, again⟩ := vector_of_ownLanes asks rfl declared 8 ⟨2⟩
  obtain ⟨type, given, -, -⟩ := given ⟨⟨3, rfl⟩, by decide, by decide⟩
  have unlike : ((TypeRegistry.requestAll { origin := ⟨0⟩ }
      [.int 32, .vector ⟨1⟩ (.scalar word) 4]).vector ⟨5⟩ (.scalar word) 8).result ≠
        .ok (.vector type) := by
    rw [← given]
    decide
  obtain ⟨same, others⟩ := again _ given
    [.bool 1, .vector ⟨3⟩ (.scalar word) 3, .vector ⟨4⟩ (.scalar flag) 8] _ (by decide) rfl ⟨5⟩
  refine ⟨asks, _, _, _, rfl, declared, given, unlike, rfl, same, fun found hfound heq => ?_⟩
  have equal := (others flag (by decide) 8 found hfound).1 heq
  exact absurd equal.1 (by decide)

end TargetDescription
