import TargetDescription.Catalog.Basic
import TargetDescription.Proofs.Format.Lookup
import TargetDescription.Proofs.Instruction.Control

/-!
# Type variables of defined instructions

Whatever formats a catalog has, the type variables found for an instruction determine its signature:
given a type for each of them, every operand has a type.

* `Polymorphism.Governs` is what holds of the variables of a polymorphic instruction.
* `Instruction.WellDefined` is what defining an instruction ensures, `wellDefined_of_define`.
* `define_governs` is the main result.
-/

namespace TargetDescription

/-- The variables determine the types of the instruction. They are free and distinct. The
controlling one is the declared type of the designated input or of the first output, and all outputs
derive from it; the others are those of single inputs, in order. -/
structure Polymorphism.Governs (p : Polymorphism) (inst : Instruction) : Prop where
  free : ∀ v ∈ p.control :: p.others, v.isFree = true
  distinct : (p.control :: p.others).Nodup
  outputs : ∀ operand ∈ inst.outs, ∀ v, operand.type = .typeVar v → v.root = p.control
  inputs : ∀ operand ∈ inst.ins, ∀ v, operand.type = .typeVar v →
    v.root = p.control ∨ v ∈ p.others
  single : ∀ v ∈ p.others, ∃ (i : Nat) (operand : Operand),
    inst.ins[i]? = some operand ∧ operand.type = .typeVar v ∧
      (∀ (j : Nat) (other : Operand), inst.ins[j]? = some other →
        other.type.root? = some v → j = i) ∧
      ∀ other ∈ inst.outs, other.type.root? ≠ some v
  ordered : p.others = otherRoots p.control inst.ins
  declared :
    (∃ operand, inst.format.typevarInput? inst.ins = some operand ∧
      operand.type = .typeVar p.control) ∨
    ∃ first, inst.outs.head? = some first ∧ first.type = .typeVar p.control

namespace Polymorphism.Inferred

variable {p : Polymorphism} {inst : Instruction} {operand : Operand}

/-- Variables that some attempt found govern the instruction. -/
theorem governs (inferred : Inferred p inst.ins inst.outs operand)
    (origin : inst.format.typevarInput? inst.ins = some operand ∨
      inst.outs.head? = some operand) : p.Governs inst where
  free := by
    intro v mem
    rcases List.mem_cons.1 mem with rfl | mem
    · exact inferred.free
    · rw [inferred.others] at mem
      obtain ⟨_, _, hroot, -⟩ := mem_otherRoots.1 mem
      exact OperandType.isFree_of_root? hroot
  distinct := by
    rw [inferred.others]
    refine List.nodup_cons.2 ⟨fun mem => ?_, inferred.controls.once⟩
    obtain ⟨_, _, _, other⟩ := mem_otherRoots.1 mem
    exact other rfl
  outputs := fun output mem v h =>
    inferred.controls.outputs output mem v.root (OperandType.root?_eq_some_iff.2 ⟨v, h, rfl⟩)
  inputs := by
    intro input mem v h
    have hroot := OperandType.root?_eq_some_iff.2 ⟨v, h, rfl⟩
    refine or_iff_not_imp_left.2 fun other => ?_
    have declared := (inferred.controls.inputs input mem v.root hroot).resolve_left other
    have same : v.root = v := OperandType.typeVar.inj (declared.symm.trans h)
    rw [inferred.others]
    exact mem_otherRoots.2 ⟨input, mem, same ▸ hroot, same ▸ other⟩
  single := by
    intro v mem
    rw [inferred.others] at mem
    obtain ⟨input, hinput, hroot, other⟩ := mem_otherRoots.1 mem
    obtain ⟨i, hi⟩ := List.mem_iff_getElem?.1 hinput
    have declared := (inferred.controls.inputs input hinput v hroot).resolve_left other
    refine ⟨i, input, hi, declared, fun j second hj hsecond => ?_, fun output hout houtput => ?_⟩
    · exact eq_of_root?_eq inferred.controls.once other hj hi hsecond hroot
    · exact other (inferred.controls.outputs output hout v houtput)
  ordered := inferred.others
  declared := origin.imp (fun h => ⟨operand, h, inferred.declared⟩)
    fun h => ⟨operand, h, inferred.declared⟩

/-- The variables are the roots that occur among the operands. -/
theorem mem_typeVars_iff (inferred : Inferred p inst.ins inst.outs operand)
    (mem : operand ∈ inst.ins ++ inst.outs) {root : TypeVar} :
    root ∈ p.typeVars ↔ ∃ other ∈ inst.ins ++ inst.outs, other.type.root? = some root := by
  rw [typeVars, List.mem_cons, inferred.others]
  constructor
  · rintro (rfl | h)
    · have own := (TypeVar.root_eq_self_iff p.control).2 inferred.free
      exact ⟨operand, mem, OperandType.root?_eq_some_iff.2 ⟨_, inferred.declared, own⟩⟩
    · obtain ⟨input, hinput, hroot, -⟩ := mem_otherRoots.1 h
      exact ⟨input, List.mem_append_left _ hinput, hroot⟩
  · rintro ⟨other, hother, hroot⟩
    rcases List.mem_append.1 hother with hinput | houtput
    · by_cases same : root = p.control
      · exact Or.inl same
      · exact Or.inr (mem_otherRoots.2 ⟨other, hinput, hroot, same⟩)
    · exact Or.inl (inferred.controls.outputs other houtput root hroot)

end Polymorphism.Inferred

/-- Type variables occur among values only, so the other inputs can be left out. -/
theorem InstructionFormat.exists_typeVar_iff {format : InstructionFormat} {ins outs : List Operand}
    (names : format.operands.map (·.kind.name) = ins.map (·.kind.name)) :
    (∃ operand ∈ format.valueInputs ins ++ outs, ∃ v, operand.type = .typeVar v) ↔
      ∃ operand ∈ ins ++ outs, ∃ v, operand.type = .typeVar v := by
  rw [valueInputs_eq_filter names]
  refine exists_congr fun operand => and_congr_left fun ⟨v, hv⟩ => ?_
  have value : operand.isValue = true :=
    Operand.isValue_of_root? (OperandType.root?_eq_some_iff.2 ⟨v, hv, rfl⟩)
  simp [value]

namespace Instruction

/-- The instruction has a format for its inputs, and the polymorphism inferred for it. -/
structure WellDefined (inst : Instruction) : Prop where
  names : inst.format.operands.map (·.kind.name) = inst.ins.map (·.kind.name)
  inferred : Polymorphism.infer inst.name inst.format inst.ins inst.outs = .ok inst.polymorphism

theorem wellDefined_of_build {declaration : InstructionDeclaration} {formats : FormatRegistry}
    {origin : Stamp} {inst : Instruction} (h : declaration.build formats origin = .ok inst) :
    inst.WellDefined := by
  rw [InstructionDeclaration.build] at h
  cases hformat : formats.lookup declaration.ins declaration.outs with
  | error error => simp [hformat] at h
  | ok format =>
    cases hinfer : Polymorphism.infer declaration.name format declaration.ins declaration.outs with
    | error error => simp [hformat, hinfer] at h
    | ok polymorphism =>
      simp only [hformat, hinfer, Except.ok.injEq] at h
      subst h
      exact ⟨FormatRegistry.kindNames_of_lookup hformat, hinfer⟩

theorem wellDefined_of_define {catalog : Catalog} {group : OpenInstructionGroup}
    {declaration : InstructionDeclaration} {inst : Instruction}
    (h : (catalog.define group declaration).result = .ok inst) : inst.WellDefined := by
  rw [Catalog.define] at h
  cases hslot : catalog.checkSlot .instructions group.name with
  | error error => simp [hslot] at h
  | ok =>
    simp only [hslot] at h
    split at h
    case isTrue => cases h
    case isFalse =>
      cases hbuild : declaration.build catalog.formats catalog.origin with
      | error error => simp [hbuild] at h
      | ok built =>
        simp only [hbuild, Outcome.result_ok, Except.ok.injEq] at h
        exact h ▸ wellDefined_of_build hbuild

namespace WellDefined

variable {inst : Instruction} {p : Polymorphism}

theorem isPolymorphic_iff (defined : inst.WellDefined) :
    inst.isPolymorphic = true ↔
      ∃ operand ∈ inst.ins ++ inst.outs, ∃ v, operand.type = .typeVar v := by
  rw [isPolymorphic, Polymorphism.isSome_of_infer defined.inferred,
    InstructionFormat.exists_typeVar_iff defined.names]

/-- The attempt behind the polymorphism, with all inputs in the place of the values. -/
theorem exists_inferred (defined : inst.WellDefined) (h : inst.polymorphism = some p) :
    ∃ operand, (inst.format.typevarInput? inst.ins = some operand ∨
        inst.outs.head? = some operand) ∧
      Polymorphism.Inferred p inst.ins inst.outs operand := by
  obtain ⟨operand, origin, declared, free, controls, others⟩ :=
    Polymorphism.inferred_of_infer (h ▸ defined.inferred)
  rw [InstructionFormat.valueInputs_eq_filter defined.names] at controls others
  rw [otherRoots_filter_isValue] at others
  exact ⟨operand, origin, declared, free, controls_filter_isValue.1 controls, others⟩

theorem governs (defined : inst.WellDefined) (h : inst.polymorphism = some p) :
    p.Governs inst := by
  obtain ⟨operand, origin, inferred⟩ := defined.exists_inferred h
  exact inferred.governs origin

theorem nodup_typeVars (defined : inst.WellDefined) : inst.typeVars.Nodup := by
  cases h : inst.polymorphism with
  | none => simp [typeVars, h]
  | some p =>
    rw [typeVars, h]
    exact (defined.governs h).distinct

theorem mem_typeVars_iff (defined : inst.WellDefined) {root : TypeVar} :
    root ∈ inst.typeVars ↔
      ∃ operand ∈ inst.ins ++ inst.outs, operand.type.root? = some root := by
  cases h : inst.polymorphism with
  | none =>
    refine iff_of_false (by simp [typeVars, h]) fun ⟨operand, mem, hroot⟩ => ?_
    obtain ⟨v, hv, -⟩ := OperandType.root?_eq_some_iff.1 hroot
    have polymorphic := defined.isPolymorphic_iff.2 ⟨operand, mem, v, hv⟩
    simp [isPolymorphic, h] at polymorphic
  | some p =>
    obtain ⟨operand, origin, inferred⟩ := defined.exists_inferred h
    rw [typeVars, h]
    refine inferred.mem_typeVars_iff ?_
    rcases origin with hinput | houtput
    · rw [InstructionFormat.typevarInput?, Option.bind_eq_some_iff] at hinput
      obtain ⟨index, -, hindex⟩ := hinput
      exact List.mem_append_left _ (List.mem_of_getElem? hindex)
    · exact List.mem_append_right _ (List.mem_of_head? houtput)

end WellDefined

end Instruction

/-- **Every instruction that can be defined is governed by its type variables.** It is polymorphic
just if a type variable occurs in it; then one free variable controls it, and the other free
variables belong to one input each. Together they are the roots of all types of the signature, each
listed once. -/
theorem define_governs (catalog : Catalog) (group : OpenInstructionGroup)
    (declaration : InstructionDeclaration) (inst : Instruction)
    (h : (catalog.define group declaration).result = .ok inst) :
    (inst.isPolymorphic = true ↔
        ∃ operand ∈ inst.ins ++ inst.outs, ∃ v, operand.type = .typeVar v) ∧
      (∀ p, inst.polymorphism = some p → p.Governs inst) ∧
      inst.typeVars.length = inst.numTypeVars ∧ inst.typeVars.Nodup ∧
      ∀ root, root ∈ inst.typeVars ↔
        ∃ operand ∈ inst.ins ++ inst.outs, operand.type.root? = some root := by
  have defined := Instruction.wellDefined_of_define h
  exact ⟨defined.isPolymorphic_iff, fun p => defined.governs, inst.length_typeVars,
    defined.nodup_typeVars, fun root => defined.mem_typeVars_iff⟩

/-- A catalog with the format of unary instructions, in which a group of instructions is open. -/
def unaryCatalog : Catalog :=
  { Catalog.empty ⟨0⟩ with
    formats :=
      (FormatRegistry.insert { origin := ⟨0⟩ } { name := "Unary", parts := [.values 1] }).state
    current := some ⟨.instructions, "base"⟩ }

/-- A conversion between two types that have nothing to do with each other. -/
def conversion : InstructionDeclaration :=
  { name := "convert"
    ins := [⟨"x", .typeVar (.free ⟨1⟩ "From" ""), ""⟩]
    outs := [⟨"a", .typeVar (.free ⟨2⟩ "To" ""), ""⟩] }

theorem define_governs_conversion :
    ∃ inst, (unaryCatalog.define ⟨"base", "", []⟩ conversion).result = .ok inst ∧
      inst.isPolymorphic = true ∧ inst.numTypeVars = 2 ∧ inst.typeVars.Nodup := by
  have h : ∃ inst, (unaryCatalog.define ⟨"base", "", []⟩ conversion).result = .ok inst ∧
      inst.numTypeVars = 2 ∧ inst.ins = conversion.ins := ⟨_, rfl, rfl, rfl⟩
  obtain ⟨inst, h, number, ins⟩ := h
  obtain ⟨polymorphic, -, -, distinct, -⟩ := define_governs _ _ _ inst h
  refine ⟨inst, h, polymorphic.2 ⟨⟨"x", .typeVar (.free ⟨1⟩ "From" ""), ""⟩, ?_, _, rfl⟩, number,
    distinct⟩
  rw [ins]
  exact List.mem_cons_self

end TargetDescription
