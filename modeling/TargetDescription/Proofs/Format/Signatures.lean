import TargetDescription.Proofs.Format.Lookup
import TargetDescription.Proofs.Operand.KindNames

/-!
# Formats are known by their signatures

Whatever is declared in a format registry, its formats have different signatures. So the operands of
an instruction lead to at most one format, the one that fits them. The positions at which that
format has values are then those at which the instruction has value inputs, and nothing that is read
at such a position is missing.

* `InstructionFormat.Fits` says that a format is for some inputs and outputs.
* `FormatRegistry.WellFormed` holds of a registry after every run, `wellFormed_insertAll`; its step
  is `wellFormed_insert`.
* `InstructionFormat.Places` says how the positions of a format go together with inputs.
* `lookup_by_signature` is the main result.
-/

namespace TargetDescription

namespace InstructionFormat

/-! ## Positions of values -/

/-- The positions from `start` on at which there are values. -/
theorem mem_valuePositions {start i : Nat} {places : List FormatOperand} :
    i ∈ valuePositions start places ↔
      ∃ j place, i = start + j ∧ places[j]? = some place ∧ place.kind.isValue = true := by
  induction places generalizing start with
  | nil => simp [valuePositions]
  | cons place rest ih =>
    have later : i ∈ valuePositions (start + 1) rest ↔ ∃ j other, i = start + (j + 1) ∧
        (place :: rest)[j + 1]? = some other ∧ other.kind.isValue = true := by
      simp only [ih, List.getElem?_cons_succ, Nat.add_assoc, Nat.add_comm 1]
    rw [valuePositions]
    constructor
    · intro mem
      split at mem
      case isTrue value =>
        rcases List.mem_cons.1 mem with rfl | mem
        · exact ⟨0, place, rfl, rfl, value⟩
        · obtain ⟨j, h⟩ := later.1 mem
          exact ⟨j + 1, h⟩
      case isFalse =>
        obtain ⟨j, h⟩ := later.1 mem
        exact ⟨j + 1, h⟩
    · rintro ⟨j, other, hi, hj, value⟩
      cases j with
      | zero =>
        obtain rfl := Option.some.inj hj
        rw [if_pos value, hi]
        exact List.mem_cons_self
      | succ j =>
        have mem := later.2 ⟨j, other, hi, hj, value⟩
        split
        · exact List.mem_cons_of_mem _ mem
        · exact mem

theorem pairwise_valuePositions (start : Nat) (places : List FormatOperand) :
    (valuePositions start places).Pairwise (· < ·) := by
  induction places generalizing start with
  | nil => exact List.Pairwise.nil
  | cons place rest ih =>
    rw [valuePositions]
    split
    case isTrue =>
      refine List.pairwise_cons.2 ⟨fun i mem => ?_, ih (start + 1)⟩
      obtain ⟨j, _, rfl, -⟩ := mem_valuePositions.1 mem
      omega
    case isFalse => exact ih (start + 1)

theorem mem_valueOperands {format : InstructionFormat} {i : Nat} :
    i ∈ format.valueOperands ↔
      ∃ place, format.operands[i]? = some place ∧ place.kind.isValue = true := by
  rw [valueOperands, mem_valuePositions]
  constructor
  · rintro ⟨j, place, hi, h⟩
    rw [Nat.zero_add] at hi
    exact ⟨place, hi ▸ h⟩
  · rintro ⟨place, h⟩
    exact ⟨i, place, (Nat.zero_add i).symm, h⟩

/-! ## The designated position -/

/-- The position that may control the types is one of a value, and there is one if there are
values. -/
structure Designates (format : InstructionFormat) : Prop where
  value : ∀ i, format.typevarOperand = some i → i ∈ format.valueOperands
  none_iff : format.typevarOperand = none ↔ format.valueOperands = []

/-- A declaration that is accepted gives a format with the places of its parts. It designates the
position that is declared, which is that of a value, or else that of the first value. -/
theorem exists_of_build {declaration : FormatDeclaration} {origin : Stamp}
    {format : InstructionFormat} (built : declaration.build origin = .ok format) :
    ∃ designated, format =
        { origin
          name := declaration.name
          operands := declaration.operands
          multipleResults := declaration.multipleResults
          boxedStorage := declaration.boxedStorage
          typevarOperand := designated } ∧
      ((∃ index, designated = some index ∧ index ∈ valuePositions 0 declaration.operands) ∨
        designated = (valuePositions 0 declaration.operands).head?) := by
  unfold FormatDeclaration.build at built
  cases hindex : declaration.typevarOperand with
  | some index =>
    simp only [hindex] at built
    split at built
    case isTrue declared =>
      obtain ⟨place, hplace, isValue⟩ := (Option.any_eq_true _ _).1 declared
      have value : index ∈ valuePositions 0 declaration.operands :=
        mem_valuePositions.2 ⟨index, place, (Nat.zero_add index).symm, hplace, isValue⟩
      exact ⟨some index, (Except.ok.inj built).symm, Or.inl ⟨index, rfl, value⟩⟩
    case isFalse => cases built
  | none =>
    simp only [hindex] at built
    exact ⟨_, (Except.ok.inj built).symm, Or.inr rfl⟩

theorem designates_of_build {declaration : FormatDeclaration} {origin : Stamp}
    {format : InstructionFormat} (built : declaration.build origin = .ok format) :
    format.Designates := by
  obtain ⟨_, rfl, ⟨index, rfl, value⟩ | rfl⟩ := exists_of_build built
  · constructor
    case value =>
      intro i hi
      obtain rfl := Option.some.inj hi
      exact value
    case none_iff => exact iff_of_false (by simp) (List.ne_nil_of_mem value)
  · exact ⟨fun i => List.mem_of_head?, List.head?_eq_none_iff⟩

/-! ## Formats that fit -/

/-- The format is for instructions with these inputs and outputs. It has kinds of the same names in
the same order; and it allows several results just if there are several outputs, or one that stands
for any number of values. -/
structure Fits (format : InstructionFormat) (ins outs : List Operand) : Prop where
  kindNames : format.kinds.map OperandKind.name = ins.map fun operand => operand.kind.name
  multipleResults : format.multipleResults = true ↔
    1 < outs.length ∨ ∃ single, outs = [single] ∧ single.kind = .variableArgs

end InstructionFormat

theorem OperandKind.isVariableArgs_iff {kind : OperandKind} :
    kind.isVariableArgs = true ↔ kind = .variableArgs := by
  cases kind <;> simp [isVariableArgs]

namespace FormatRegistry

theorem multipleResults_iff {outs : List Operand} :
    multipleResults outs = true ↔
      1 < outs.length ∨ ∃ single, outs = [single] ∧ single.kind = .variableArgs := by
  unfold multipleResults
  split
  case h_1 single => simp [OperandKind.isVariableArgs_iff]
  case h_2 several =>
    rw [decide_eq_true_iff]
    refine (or_iff_left ?_).symm
    rintro ⟨single, rfl, -⟩
    exact several single rfl

theorem fits_iff {format : InstructionFormat} {ins outs : List Operand} :
    format.Fits ins outs ↔ format.signature = signatureOf ins outs := by
  rw [InstructionFormat.signature, signatureOf, FormatSignature.mk.injEq, Bool.eq_iff_iff,
    multipleResults_iff]
  constructor
  · exact fun fits => ⟨fits.multipleResults, fits.kindNames⟩
  · rintro ⟨results, names⟩
    exact ⟨names, results⟩

/-! ## The registry -/

/-- The formats are those under the signatures, and each designates one of its values, if it has
any. -/
structure WellFormed (registry : FormatRegistry) : Prop where
  listed : registry.signed.values = registry.formats
  designates : ∀ format ∈ registry.formats, format.Designates

/-- What several declarations leave, whether they succeed or fail. -/
def insertAll (registry : FormatRegistry) (declarations : List FormatDeclaration) :
    FormatRegistry :=
  declarations.foldl (fun registry declaration => (registry.insert declaration).state) registry

theorem wellFormed_start (origin : Stamp) : WellFormed { origin } where
  listed := rfl
  designates := List.forall_mem_nil _

/-- No two formats have the same signature. -/
theorem WellFormed.distinct {registry : FormatRegistry} (formed : registry.WellFormed) :
    (registry.formats.map InstructionFormat.signature).Nodup :=
  formed.listed ▸ registry.keyed.nodup

/-- A declaration adds one format of a new signature, or it is refused. -/
theorem insert_cases (registry : FormatRegistry) (declaration : FormatDeclaration) :
    (∃ format, declaration.build registry.origin = .ok format ∧
        registry.bySignature? format.signature = none ∧
        registry.insert declaration = .ok format (registry.push format)) ∨
      ∃ error, registry.insert declaration = .fail error registry := by
  unfold insert
  cases hbuild : declaration.build registry.origin with
  | error error => exact Or.inr ⟨error, rfl⟩
  | ok format =>
    cases known : registry.bySignature? format.signature with
    | some existing =>
      exact Or.inr ⟨.duplicateFormatSignature format.name existing.name, by simp only [known]⟩
    | none => exact Or.inl ⟨format, rfl, known, by simp only [known]⟩

theorem wellFormed_insert {registry : FormatRegistry} (formed : registry.WellFormed)
    (declaration : FormatDeclaration) : (registry.insert declaration).state.WellFormed := by
  obtain ⟨format, built, new, h⟩ | ⟨error, h⟩ := registry.insert_cases declaration
  · rw [h, Outcome.state_ok]
    constructor
    case listed =>
      rw [FormatRegistry.push, Table.values_insert_of_new new, formed.listed]
    case designates =>
      refine List.forall_mem_append.2 ⟨formed.designates, List.forall_mem_singleton.2 ?_⟩
      exact InstructionFormat.designates_of_build built
  · rw [h]
    exact formed

/-- The registry stays well formed, whatever is declared. -/
theorem wellFormed_insertAll {registry : FormatRegistry} (formed : registry.WellFormed)
    (declarations : List FormatDeclaration) : (registry.insertAll declarations).WellFormed := by
  induction declarations generalizing registry with
  | nil => exact formed
  | cons declaration rest ih => exact ih (wellFormed_insert formed declaration)

/-- The format that is found is the one that fits. -/
theorem lookup_eq_ok_iff {registry : FormatRegistry} (formed : registry.WellFormed)
    {ins outs : List Operand} {format : InstructionFormat} :
    registry.lookup ins outs = .ok format ↔
      format ∈ registry.formats ∧ format.Fits ins outs := by
  rw [fits_iff, ← formed.listed, ← registry.keyed.get?_eq_some_iff]
  constructor
  · exact bySignature?_of_lookup
  · intro found
    rw [← bySignature?] at found
    rw [lookup, found]

end FormatRegistry

namespace InstructionFormat

/-! ## The positions of the inputs -/

/-- The positions of the format are those of the inputs. Its values, in increasing order, are at the
positions of the value inputs, the designated one is among them, and at each position that the
inference of types reads there is an input. -/
structure Places (format : InstructionFormat) (ins : List Operand) : Prop where
  arity : format.kinds.length = ins.length
  increasing : format.valueOperands.Pairwise (· < ·)
  values : ∀ i, i ∈ format.valueOperands ↔
    ∃ operand, ins[i]? = some operand ∧ operand.isValue = true
  designates : format.Designates
  inRange : ∀ i, i ∈ format.valueOperands ∨ format.typevarOperand = some i → i < ins.length
  inputs : (format.valueInputs ins).map some = format.valueOperands.map fun i => ins[i]?

/-- Kinds of one name are kinds of values at the same positions. -/
theorem mem_valueOperands_of_kindNames {format : InstructionFormat} {ins : List Operand}
    (names : format.kinds.map OperandKind.name = ins.map fun operand => operand.kind.name)
    {i : Nat} :
    i ∈ format.valueOperands ↔ ∃ operand, ins[i]? = some operand ∧ operand.isValue = true := by
  have here := congrArg (fun names => names[i]?) names
  simp only [kinds, List.map_map, List.getElem?_map] at here
  rw [mem_valueOperands]
  cases hplace : format.operands[i]? with
  | none =>
    rw [hplace, Option.map_none, eq_comm, Option.map_eq_none_iff] at here
    simp [here]
  | some place =>
    rw [hplace, Option.map_some, eq_comm, Option.map_eq_some_iff] at here
    obtain ⟨operand, hoperand, name⟩ := here
    have value : place.kind.isValue = operand.isValue := by
      rw [Operand.isValue, Bool.eq_iff_iff, OperandKind.isValue_iff_name,
        OperandKind.isValue_iff_name, name]
      rfl
    simp [hoperand, value]

theorem map_some_filterMap {α β : Type} {f : α → Option β} {as : List α}
    (h : ∀ a ∈ as, (f a).isSome = true) : (as.filterMap f).map some = as.map f := by
  induction as with
  | nil => rfl
  | cons a rest ih =>
    obtain ⟨here, later⟩ := List.forall_mem_cons.1 h
    obtain ⟨b, hb⟩ := Option.isSome_iff_exists.1 here
    rw [List.filterMap_cons_some hb, List.map_cons, List.map_cons, ih later, hb]

theorem places_of_fits {format : InstructionFormat} {ins outs : List Operand}
    (designates : format.Designates) (fits : format.Fits ins outs) : format.Places ins := by
  have values : ∀ i, i ∈ format.valueOperands ↔
      ∃ operand, ins[i]? = some operand ∧ operand.isValue = true :=
    fun i => mem_valueOperands_of_kindNames fits.kindNames
  have inRange : ∀ i ∈ format.valueOperands, i < ins.length := by
    intro i mem
    obtain ⟨operand, hoperand, -⟩ := (values i).1 mem
    exact (List.getElem?_eq_some_iff.1 hoperand).1
  constructor
  case arity => simpa using congrArg List.length fits.kindNames
  case increasing => exact pairwise_valuePositions 0 format.operands
  case values => exact values
  case designates => exact designates
  case inRange =>
    rintro i (mem | designated)
    · exact inRange i mem
    · exact inRange i (designates.value i designated)
  case inputs =>
    refine map_some_filterMap fun i mem => ?_
    rw [List.getElem?_eq_getElem (inRange i mem), Option.isSome_some]

end InstructionFormat

/-- **Operands lead to the format of their signature.** Whatever was declared, no two formats have
the same signature, and the format that is found is the one that fits the inputs and outputs. Its
positions are those of the inputs; and if the kinds of both come from one registry, then they are
the same kinds. -/
theorem lookup_by_signature (origin : Stamp) (declarations : List FormatDeclaration)
    (ins outs : List Operand) :
    ((FormatRegistry.insertAll { origin } declarations).formats.map
        InstructionFormat.signature).Nodup ∧
      (∀ format, (FormatRegistry.insertAll { origin } declarations).lookup ins outs = .ok format ↔
        format ∈ (FormatRegistry.insertAll { origin } declarations).formats ∧
          format.Fits ins outs) ∧
      ∀ format, (FormatRegistry.insertAll { origin } declarations).lookup ins outs = .ok format →
        format.Places ins ∧ ∀ (kindOrigin : Stamp) (requests : List KindRegistry.Request),
          (∀ kind ∈ format.kinds ++ ins.map Operand.kind,
            kind ∈ (KindRegistry.requestAll { origin := kindOrigin } requests).kinds) →
          format.kinds = ins.map Operand.kind := by
  have formed :=
    FormatRegistry.wellFormed_insertAll (FormatRegistry.wellFormed_start origin) declarations
  refine ⟨formed.distinct, fun format => FormatRegistry.lookup_eq_ok_iff formed, fun format h => ?_⟩
  obtain ⟨mem, fits⟩ := (FormatRegistry.lookup_eq_ok_iff formed).1 h
  refine ⟨InstructionFormat.places_of_fits (formed.designates format mem) fits, ?_⟩
  intro kindOrigin requests one
  have keyed := KindRegistry.keyed_requestAll (KindRegistry.keyed_start kindOrigin) requests
  obtain ⟨ofFormat, ofInputs⟩ := List.forall_mem_append.1 one
  apply KindRegistry.eq_of_names_eq keyed.nodup_names ofFormat ofInputs
  rw [fits.kindNames, List.map_map]
  rfl

/-- The kind of 64-bit immediates. -/
def wideImmediate : OperandKind :=
  .immediate ⟨⟨0⟩, "imm64", "", "imm", by decide⟩

/-- Formats with up to two values and an immediate. The third has the signature of the second. -/
def arithmeticFormats : List FormatDeclaration :=
  [{ name := "Binary", parts := [.values 2] },
    { name := "BinaryImm", parts := [.values 1, .kind wideImmediate] },
    { name := "Copy", parts := [.values 1, .member "offset" wideImmediate] },
    { name := "Swap", parts := [.values 2], multipleResults := true }]

/-- A value and an immediate to add to it. -/
def addends : List Operand :=
  [⟨"x", .typeVar (.free ⟨1⟩ "Int" ""), ""⟩, ⟨"N", .kind wideImmediate, ""⟩]

theorem lookup_by_signature_addends :
    ∃ format, (FormatRegistry.insertAll { origin := ⟨0⟩ } arithmeticFormats).lookup addends [] =
        .ok format ∧
      format.name = "BinaryImm" ∧ format.Fits addends [] ∧ format.Places addends ∧
      format.kinds = addends.map Operand.kind := by
  have found : ∃ format, (FormatRegistry.insertAll { origin := ⟨0⟩ } arithmeticFormats).lookup
      addends [] = .ok format ∧ format.name = "BinaryImm" ∧
        ∀ kind ∈ format.kinds ++ addends.map Operand.kind, kind ∈ (KindRegistry.requestAll
          { origin := ⟨0⟩ } [.immediate "imm64" "" none]).kinds :=
    ⟨_, rfl, rfl, by decide⟩
  obtain ⟨format, h, name, kinds⟩ := found
  obtain ⟨-, exact, places⟩ := lookup_by_signature ⟨0⟩ arithmeticFormats addends []
  obtain ⟨places, sameKinds⟩ := places format h
  exact ⟨format, h, name, ((exact format).1 h).2, places, sameKinds ⟨0⟩ _ kinds⟩

end TargetDescription
