import TargetDescription.Instruction.Basic

/-!
# Instructions that cannot be made

If no instruction is made of a declaration, then the reason lies in its operands: no format fits
them, or their type variables do not determine each other.

* `Error.IsAboutOperands` are these reasons.
* `InstructionDeclaration.isAboutOperands_of_build` shows that there are no others.
-/

namespace TargetDescription

/-- The reason lies in the operands of an instruction. -/
def Error.IsAboutOperands : Error → Prop
  | .noMatchingFormat _ => True
  | .ambiguousControllingTypevar _ _ => True
  | .typevarReuseViolation _ _ => True
  | .underivedTypevar _ _ _ _ => True
  | .outputTypevarMismatch _ _ _ => True
  | _ => False

theorem FormatRegistry.isAboutOperands_of_lookup {formats : FormatRegistry}
    {ins outs : List Operand} {error : Error} (h : formats.lookup ins outs = .error error) :
    error.IsAboutOperands := by
  unfold lookup at h
  split at h
  · cases h
  · cases h
    trivial

namespace Polymorphism

variable {inst : String} {control : TypeVar} {format : InstructionFormat}
  {ins outs values : List Operand} {error : Error}

theorem isAboutOperands_of_collectOthers {found : List TypeVar}
    (h : collectOthers inst control found values = .error error) : error.IsAboutOperands := by
  induction values generalizing found with
  | nil => cases h
  | cons operand rest ih =>
    unfold collectOthers at h
    split at h
    · exact ih h
    split at h
    · exact ih h
    split at h
    · cases h
      trivial
    split at h
    · cases h
      trivial
    · exact ih h

theorem isAboutOperands_of_checkOutputs (h : checkOutputs inst control outs = .error error) :
    error.IsAboutOperands := by
  induction outs with
  | nil => cases h
  | cons operand rest ih =>
    unfold checkOutputs at h
    split at h
    · exact ih h
    split at h
    · exact ih h
    · cases h
      trivial

theorem isAboutOperands_of_attempt {fromOperand : Bool}
    (h : attempt inst fromOperand values outs control = .error error) :
    error.IsAboutOperands := by
  rw [attempt, verify] at h
  cases collect : collectOthers inst control [] values with
  | error reason =>
    simp only [collect, Except.error.injEq] at h
    exact h ▸ isAboutOperands_of_collectOthers collect
  | ok others =>
    cases check : checkOutputs inst control outs with
    | error reason =>
      simp only [collect, check, Except.error.injEq] at h
      exact h ▸ isAboutOperands_of_checkOutputs check
    | ok => simp [collect, check] at h

theorem isAboutOperands_of_attemptOperand?
    (h : attemptOperand? inst format ins outs = some (.error error)) :
    error.IsAboutOperands := by
  rw [attemptOperand?, Option.map_eq_some_iff] at h
  obtain ⟨control, -, h⟩ := h
  exact isAboutOperands_of_attempt h

theorem isAboutOperands_of_attemptOutput {first : Operand}
    (h : attemptOutput inst format ins outs first = .error error) : error.IsAboutOperands := by
  unfold attemptOutput at h
  split at h
  · exact isAboutOperands_of_attempt h
  · cases h
    trivial

theorem isAboutOperands_of_infer (h : infer inst format ins outs = .error error) :
    error.IsAboutOperands := by
  unfold infer at h
  split at h
  case isFalse => cases h
  case isTrue =>
    split at h
    case h_1 => cases h
    case h_2 first rest _ _ =>
      cases attempt : attemptOutput inst format ins (first :: rest) first with
      | error reason =>
        rw [attempt] at h
        cases h
        exact isAboutOperands_of_attemptOutput attempt
      | ok p =>
        rw [attempt] at h
        cases h
    case h_3 attempt =>
      cases h
      exact isAboutOperands_of_attemptOperand? attempt
    case h_4 =>
      cases h
      trivial

end Polymorphism

namespace InstructionDeclaration

variable {declaration : InstructionDeclaration} {formats : FormatRegistry} {origin : Stamp}

/-- **Only its operands can keep an instruction from being made.** -/
theorem isAboutOperands_of_build {error : Error}
    (h : declaration.build formats origin = .error error) : error.IsAboutOperands := by
  unfold build at h
  split at h
  case h_1 lookup =>
    cases h
    exact FormatRegistry.isAboutOperands_of_lookup lookup
  case h_2 =>
    split at h
    case h_1 infer =>
      cases h
      exact Polymorphism.isAboutOperands_of_infer infer
    case h_2 => cases h

/-- An instruction that is made has the declared name. -/
theorem name_of_build {inst : Instruction} (h : declaration.build formats origin = .ok inst) :
    inst.name = declaration.name := by
  unfold build at h
  split at h
  case h_1 => cases h
  case h_2 =>
    split at h
    case h_1 => cases h
    case h_2 =>
      cases h
      rfl

end InstructionDeclaration

end TargetDescription
