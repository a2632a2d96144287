import TargetDescription.Format.Registry
import TargetDescription.Instruction.Polymorphism

/-!
# Formats and the inputs they are found for

The format of an instruction has the kinds of its inputs at the same positions, as far as their
names go. The built-in kind of values has its name for itself, so the format's values are the inputs
that are values.

* `FormatRegistry.signature_of_lookup` is what a successful lookup guarantees.
* `InstructionFormat.valueInputs_eq_filter` gives the inputs at the positions of values.
-/

namespace TargetDescription

namespace FormatRegistry

variable {registry : FormatRegistry} {ins outs : List Operand} {format : InstructionFormat}

theorem bySignature?_of_lookup (h : registry.lookup ins outs = .ok format) :
    registry.bySignature? (signatureOf ins outs) = some format := by
  rw [lookup] at h
  cases hformat : registry.bySignature? (signatureOf ins outs) with
  | none => simp [hformat] at h
  | some found =>
    rw [hformat, Except.ok.injEq] at h
    rw [h]

theorem signature_of_lookup (h : registry.lookup ins outs = .ok format) :
    format.signature = signatureOf ins outs :=
  (registry.keyed.get?_eq_some_iff.1 (bySignature?_of_lookup h)).2

theorem kindNames_of_lookup (h : registry.lookup ins outs = .ok format) :
    format.operands.map (·.kind.name) = ins.map (·.kind.name) := by
  have names := congrArg FormatSignature.kindNames (signature_of_lookup h)
  rw [InstructionFormat.signature, InstructionFormat.kinds, List.map_map] at names
  exact names

end FormatRegistry

namespace InstructionFormat

/-- The positions of values among places pick the values among operands of the same kinds. -/
theorem filterMap_valuePositions (before ins : List Operand) (places : List FormatOperand)
    (names : places.map (·.kind.name) = ins.map (·.kind.name)) :
    ((valuePositions before.length places).filterMap fun index => (before ++ ins)[index]?) =
      ins.filter Operand.isValue := by
  induction places generalizing before ins with
  | nil =>
    rw [List.map_nil, eq_comm, List.map_eq_nil_iff] at names
    rw [names]
    rfl
  | cons place rest ih =>
    cases ins with
    | nil => cases names
    | cons operand ins =>
      obtain ⟨name, names⟩ := List.cons.inj names
      have value : place.kind.isValue = operand.isValue := by
        rw [Operand.isValue, Bool.eq_iff_iff, OperandKind.isValue_iff_name,
          OperandKind.isValue_iff_name]
        exact Iff.of_eq (congrArg (· = "value") name)
      have here : (before ++ operand :: ins)[before.length]? = some operand := by
        rw [List.getElem?_append_right (Nat.le_refl _), Nat.sub_self, List.getElem?_cons_zero]
      have later := ih (before ++ [operand]) ins names
      rw [List.length_append, List.length_singleton, List.append_assoc, List.singleton_append]
        at later
      rw [valuePositions, value]
      by_cases h : operand.isValue = true
      · rw [if_pos h, List.filterMap_cons_some here, later, List.filter_cons_of_pos h]
      · rw [if_neg h, later, List.filter_cons_of_neg h]

theorem valueInputs_eq_filter {format : InstructionFormat} {ins : List Operand}
    (names : format.operands.map (·.kind.name) = ins.map (·.kind.name)) :
    format.valueInputs ins = ins.filter Operand.isValue :=
  filterMap_valuePositions [] ins format.operands names

end InstructionFormat

end TargetDescription
