import TargetDescription.Proofs.Encoding.FieldPredicate
import TargetDescription.Proofs.Instruction.Binding

/-!
# The types of an encoding

An encoding is made of an instruction and all its types, in whatever way these were bound. So it has
a type for each variable, and its first type is that of the controlling one.

* `Encoding.FullyTyped` is what is true of the types of an encoding.
* `InstructionRef.Built.fullyTyped` says that it is true of every encoding that can be made.
* `bindAll_in_steps` is the main result, on binding and on what it leads to.
-/

namespace TargetDescription

namespace Encoding

/-- The type bound to a variable of the instruction. -/
def typeOf? (encoding : Encoding) (typeVar : TypeVar) : Option ValueType :=
  (encoding.inst.typeVars.zip encoding.types).lookup typeVar

/-- The encoding can be made of this reference to an instruction. -/
def MadeOf (encoding : Encoding) (ref : InstructionRef) : Prop :=
  ∃ fieldStamp settingStamp recipe bits field setting,
    make fieldStamp settingStamp ref recipe bits field setting = .ok encoding

/-- The encoding has the types that are bound, one for each variable of the instruction, and the
first for the controlling one. -/
structure FullyTyped (encoding : Encoding) (ref : InstructionRef) : Prop where
  inst : encoding.inst = ref.inst
  types : encoding.types = ref.types
  number : encoding.types.length = encoding.inst.numTypeVars
  control : encoding.controlType? = encoding.inst.control?.bind encoding.typeOf?
  polymorphic : encoding.controlType?.isSome = encoding.inst.isPolymorphic

end Encoding

/-! ## Encodings that can be made -/

theorem InstructionRef.Built.of_fullyBound {ref : InstructionRef} (built : ref.Built)
    {inst : Instruction} {types : List ValueType} (h : ref.fullyBound = .ok (inst, types)) :
    inst = ref.inst ∧ types = ref.types ∧ types.length = inst.numTypeVars := by
  cases ref with
  | plain own =>
    rw [fullyBound, Instruction.fullyBound] at h
    split at h
    case isTrue => cases h
    case isFalse monomorphic =>
      cases h
      rw [Bool.not_eq_true] at monomorphic
      exact ⟨rfl, rfl, (Instruction.numTypeVars_of_monomorphic monomorphic).symm⟩
  | bound bound =>
    rw [fullyBound, Instruction.fullyBound_of_bindAll built.bindAll_eq] at h
    split at h
    case isTrue full =>
      cases h
      exact ⟨rfl, rfl, full⟩
    case isFalse => cases h

namespace Encoding

variable {encoding : Encoding}

theorem control_of_length (number : encoding.types.length = encoding.inst.numTypeVars) :
    encoding.controlType? = encoding.inst.control?.bind encoding.typeOf? ∧
      encoding.controlType?.isSome = encoding.inst.isPolymorphic := by
  rcases poly : encoding.inst.polymorphism with _ | p
  · have monomorphic : encoding.inst.isPolymorphic = false := by
      rw [Instruction.isPolymorphic, poly]
      rfl
    have untyped : encoding.types = [] := by
      rw [Instruction.numTypeVars_of_monomorphic monomorphic] at number
      exact List.length_eq_zero_iff.1 number
    constructor
    · rw [controlType?, untyped, Instruction.control?, poly]
      rfl
    · rw [controlType?, untyped, monomorphic]
      rfl
  · obtain ⟨type, rest, typed⟩ : ∃ type rest, encoding.types = type :: rest := by
      refine List.exists_cons_of_length_pos ?_
      rw [number]
      exact Instruction.numTypeVars_pos (Option.isSome_iff_exists.2 ⟨p, poly⟩)
    constructor
    · rw [controlType?, Instruction.control?, poly, Option.map_some, Option.bind_some, typeOf?,
        Instruction.typeVars_of_polymorphism poly, typed, List.zip_cons_cons,
        List.lookup_cons_self]
      rfl
    · rw [controlType?, typed, Instruction.isPolymorphic, poly]
      rfl

end Encoding

theorem InstructionRef.Built.fullyTyped {ref : InstructionRef} (built : ref.Built)
    {encoding : Encoding} (made : encoding.MadeOf ref) : encoding.FullyTyped ref := by
  obtain ⟨_, _, _, _, _, _, h⟩ := made
  obtain ⟨bound, -⟩ := Encoding.make_eq_ok_iff.1 h
  obtain ⟨inst, types, number⟩ := built.of_fullyBound bound
  obtain ⟨control, polymorphic⟩ := Encoding.control_of_length number
  exact ⟨inst, types, number, control, polymorphic⟩

/-- **Types can be bound at once or in steps.** An instruction without variables takes no types and
needs none. Any other takes as many as it has variables or fewer; steps that go on from there agree
with binding at once, and nothing is missing just if there is a type for each variable. So every
encoding that can be made has a type for each variable of its instruction. -/
theorem bindAll_in_steps (inst : Instruction) (types : List ValueType) :
    (inst.isPolymorphic = false →
        inst.bindAll types = .error (.notPolymorphic inst.name) ∧
          inst.fullyBound = .ok (inst, [])) ∧
      (∀ p, inst.polymorphism = some p →
        ((∃ bound, inst.bindAll types = .ok bound) ↔ types.length ≤ inst.numTypeVars) ∧
        (∀ bound, inst.bindAll types = .ok bound → bound.Holds inst p types) ∧
        inst.fullyBound = BoundInstruction.fullyBound ⟨inst, []⟩ ∧
        ∀ step steps, (InstructionRef.plain inst).bindChain (step :: steps) =
          (InstructionRef.bound ⟨inst, []⟩).bindChain (step :: steps)) ∧
      ∀ (ref : InstructionRef) (encoding : Encoding), ref.Built → encoding.MadeOf ref →
        encoding.FullyTyped ref := by
  refine ⟨fun monomorphic => ⟨?_, ?_⟩, fun p poly => ?_,
    fun ref encoding built made => built.fullyTyped made⟩
  · exact Instruction.bindAll_of_monomorphic monomorphic
  · exact Instruction.fullyBound_of_monomorphic monomorphic
  · have polymorphic : inst.isPolymorphic = true := Option.isSome_iff_exists.2 ⟨p, poly⟩
    refine ⟨⟨?_, fun few => ⟨_, Instruction.bindAll_of_le polymorphic few⟩⟩,
      fun bound h => Instruction.holds_of_bindAll h poly,
      Instruction.fullyBound_of_polymorphic polymorphic,
      InstructionRef.bindChain_plain polymorphic⟩
    rintro ⟨bound, h⟩
    exact (Instruction.bindAll_eq_ok_iff.1 h).2.1

/-- The conversion to a wider type, where both widths are variables. -/
def extension : Instruction :=
  { origin := ⟨0⟩, name := "extend", doc := ""
    ins := [⟨"x", .typeVar (.free ⟨1⟩ "Narrow" ""), ""⟩]
    outs := [⟨"a", .typeVar (.free ⟨2⟩ "Wide" ""), ""⟩]
    format := ⟨⟨0⟩, "Unary", [⟨none, .value⟩], false, false, some 0⟩
    polymorphism := some ⟨.free ⟨2⟩ "Wide" "", [.free ⟨1⟩ "Narrow" ""], false⟩
    isTerminator := false, isBranch := false }

/-- An integer type of so many bits. -/
def integer (bits : Nat) : ValueType :=
  .scalar ⟨⟨0⟩, .int, bits, "", 3, by decide, by decide⟩

/-- A recipe for conversions. -/
def extensionRecipe : Recipe :=
  ⟨⟨3⟩, "Extend", extension.format, none, none⟩

/-- With one type given, one is missing; with two the conversion can be encoded, and a chain ends
with the third, however many follow. -/
theorem bindAll_in_steps_extension :
    ∃ bound, extension.bindAll [integer 64] = .ok bound ∧
      bound.fullyBound = .error (.unboundTypevar "extend.i64" "Narrow") ∧
      (InstructionRef.bound bound).bindChain [.given (integer 32)] =
        .ok (.bound ⟨extension, [integer 64, integer 32]⟩) ∧
      (InstructionRef.bound bound).bindChain
          [.given (integer 32), .given (integer 8), .given (integer 8)] =
        .error (.tooManyTypeArguments "extend" 3 2) ∧
      ∃ encoding, Encoding.make ⟨4⟩ ⟨5⟩ (.bound ⟨extension, [integer 64, integer 32]⟩)
          extensionRecipe 99 none none = .ok encoding ∧
        encoding.controlType? = encoding.inst.control?.bind encoding.typeOf? := by
  obtain ⟨-, polymorphic, encodings⟩ := bindAll_in_steps extension [integer 64]
  obtain ⟨accepts, holds, -, -⟩ := polymorphic _ rfl
  obtain ⟨bound, given⟩ := accepts.2 (by decide)
  have h := holds bound given
  obtain rfl := h.carries
  obtain ⟨encoding, made⟩ : ∃ encoding, Encoding.make ⟨4⟩ ⟨5⟩
      (.bound ⟨extension, [integer 64, integer 32]⟩) extensionRecipe 99 none none = .ok encoding :=
    ⟨_, rfl⟩
  have atOnce : extension.bindAll [integer 64, integer 32] =
      .ok ⟨extension, [integer 64, integer 32]⟩ := rfl
  refine ⟨_, given, ?_, ?_, ?_, encoding, made, ?_⟩
  · exact h.incomplete (by decide)
  · exact h.chain _ [integer 32] rfl
  · exact h.chain _ [integer 32, integer 8, integer 8] rfl
  · exact (encodings _ encoding (.bindAll atOnce) ⟨_, _, _, _, _, _, made⟩).control

end TargetDescription
