import Mathlib.Data.List.Infix
import TargetDescription.Proofs.Format.Signatures
import TargetDescription.Proofs.ValueType.Requests

/-!
# Registries keep what they have answered

What a registry finds stands in a table, and writing a key of a table takes away what was there.
Registries write only names, signatures and lanes that are not there yet, and their lists grow at
the end; so what was found once is found again, and the vector type made for a lane type and a lane
count stays the one for the two.

* `TypeRegistry.KeptBy` and `FormatRegistry.KeptBy` say that one registry is a later state of
  another; for kinds, `Table.KeptBy` says it.
* `TypeRegistry.keptBy_request`, `KindRegistry.keptBy_request` and `FormatRegistry.keptBy_insert`
  are the steps.
* `TypeRegistry.vector_again` says that a vector type once given is given again.
-/

namespace TargetDescription

/-! ## Types -/

namespace TypeRegistry

/-- The first registry is kept by the second one. -/
structure KeptBy (registry later : TypeRegistry) : Prop where
  scalars : registry.scalars <+: later.scalars
  made : registry.made.KeptBy later.made
  named : registry.named.KeptBy later.named

variable {registry later : TypeRegistry}

namespace KeptBy

theorem refl (registry : TypeRegistry) : registry.KeptBy registry :=
  ⟨List.prefix_rfl, .refl _, .refl _⟩

theorem trans {middle : TypeRegistry} (first : registry.KeptBy middle)
    (second : middle.KeptBy later) : registry.KeptBy later where
  scalars := first.scalars.trans second.scalars
  made := first.made.trans second.made
  named := first.named.trans second.named

theorem byName (kept : registry.KeptBy later) {name : String} {type : ValueType}
    (found : registry.byName name = .ok type) : later.byName name = .ok type := by
  rw [byName_eq_ok_iff] at found ⊢
  exact kept.named name type found

/-- The vector type once made is the one that will be found. -/
theorem vectorMade? (kept : registry.KeptBy later) {base : ScalarType} {lanes : Nat}
    {type : VectorType} (made : registry.vectorMade? base lanes = some type) :
    later.vectorMade? base lanes = some type :=
  kept.made _ type made

end KeptBy

variable (registry)

/-- Whatever is asked for, the registry is kept. -/
theorem keptBy_request (call : Request) : registry.KeptBy (registry.request call).state := by
  obtain ⟨type, -, new, h⟩ | ⟨type, unmade, new, h⟩ | ⟨type, -, h⟩ | ⟨error, h⟩ :=
    registry.request_cases call
  · rw [h]
    exact ⟨List.prefix_append _ _, .refl _, Table.keptBy_insert new _⟩
  · rw [h]
    exact ⟨List.prefix_rfl, Table.keptBy_insert unmade _, Table.keptBy_insert new _⟩
  · rw [h]
    exact .refl registry
  · rw [h]
    exact .refl registry

/-! ### Asking for a vector type again -/

variable {registry}

/-- A vector type that was made before is given whatever the stamp. -/
theorem vector_of_made {base : ScalarType} {lanes : Nat} {type : VectorType}
    (made : registry.vectorMade? base lanes = some type) (stamp : Stamp) :
    registry.vector stamp (.scalar base) lanes = .ok (.vector type) registry := by
  rw [vector, vectorOf, made]

/-- A vector type that was given is there afterwards, whether it is new or not. -/
theorem exists_made_of_vector {stamp : Stamp} {base type : ValueType} {lanes : Nat}
    (h : (registry.vector stamp base lanes).result = .ok type) :
    ∃ s v, base = .scalar s ∧ type = .vector v ∧
      (registry.vector stamp base lanes).state.vectorMade? s lanes = some v := by
  cases base with
  | vector v => cases h
  | scalar s =>
    rw [vector] at h ⊢
    obtain ⟨v, rfl, rfl, unmade, -, ok⟩ | ⟨v, made, ok⟩ | ⟨error, fail⟩ :=
      registry.vectorOf_cases stamp s lanes
    · rw [ok] at h ⊢
      exact ⟨v.base, v, rfl, (Except.ok.inj h).symm, Table.get?_insert_self _ _ _⟩
    · rw [ok] at h ⊢
      exact ⟨s, v, rfl, (Except.ok.inj h).symm, made⟩
    · rw [fail] at h
      cases h

/-- Asking again for a vector type gives the very one that was given, and changes nothing. The stamp
of the second call would mark another one. -/
theorem vector_again {stamp : Stamp} {base type : ValueType} {lanes : Nat}
    (h : (registry.vector stamp base lanes).result = .ok type)
    (kept : (registry.vector stamp base lanes).state.KeptBy later) (again : Stamp) :
    later.vector again base lanes = .ok type later := by
  obtain ⟨s, v, rfl, rfl, made⟩ := exists_made_of_vector h
  exact vector_of_made (kept.vectorMade? made) again

end TypeRegistry

/-! ## Kinds -/

namespace KindRegistry

theorem keptBy_request (registry : KindRegistry) (call : Request) :
    registry.named.KeptBy (registry.request call).state.named := by
  obtain ⟨kind, new, h⟩ | ⟨error, h⟩ := registry.request_cases call
  · rw [h]
    exact Table.keptBy_insert new kind
  · rw [h]
    exact .refl _

end KindRegistry

/-! ## Formats -/

namespace FormatRegistry

/-- The first registry is kept by the second one. -/
structure KeptBy (registry later : FormatRegistry) : Prop where
  formats : registry.formats <+: later.formats
  signed : registry.signed.KeptBy later.signed

theorem keptBy_insert (registry : FormatRegistry) (declaration : FormatDeclaration) :
    registry.KeptBy (registry.insert declaration).state := by
  obtain ⟨format, -, new, h⟩ | ⟨error, h⟩ := registry.insert_cases declaration
  · rw [h]
    exact ⟨List.prefix_append _ _, Table.keptBy_insert new format⟩
  · rw [h]
    exact ⟨List.prefix_rfl, .refl _⟩

namespace KeptBy

variable {registry later : FormatRegistry} {format : InstructionFormat}

theorem refl (registry : FormatRegistry) : registry.KeptBy registry :=
  ⟨List.prefix_rfl, .refl _⟩

theorem trans {middle : FormatRegistry} (first : registry.KeptBy middle)
    (second : middle.KeptBy later) : registry.KeptBy later :=
  ⟨first.formats.trans second.formats, first.signed.trans second.signed⟩

theorem lookup (kept : registry.KeptBy later) {ins outs : List Operand}
    (found : registry.lookup ins outs = .ok format) : later.lookup ins outs = .ok format := by
  have same := kept.signed _ format (bySignature?_of_lookup found)
  rw [FormatRegistry.lookup, bySignature?, same]

theorem byName? (kept : registry.KeptBy later) {name : String}
    (found : registry.byName? name = some format) : later.byName? name = some format :=
  kept.formats.find?_eq_some found

end KeptBy

end FormatRegistry

end TargetDescription
