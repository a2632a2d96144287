import TargetDescription.Format.Basic

/-!
# Polymorphism

An instruction is polymorphic if a type variable occurs among its values. One free variable then
*controls* it: every output derives from it, and so does every input, apart from inputs that are
declared with a free variable of their own. Which variable controls is inferred: the one of the
format's designated input if that works out, or else the one of the first output.

* `Polymorphism` is the result, `Polymorphism.infer` the inference.
* `Polymorphism.verify` checks one candidate and lists the other variables.
-/

namespace TargetDescription

/-- The free type variable that the type is, if it is one. -/
def OperandType.freeTypeVar? : OperandType → Option TypeVar
  | typeVar v => if v.isFree then some v else none
  | _ => none

/-- Does a type variable occur in the operand? -/
def Operand.isPolymorphic (operand : Operand) : Bool :=
  operand.type.typeVar?.isSome

/-- The inputs at the positions where the format has values. -/
def InstructionFormat.valueInputs (format : InstructionFormat) (ins : List Operand) :
    List Operand :=
  format.valueOperands.filterMap fun index => ins[index]?

/-- The input that may control the types of an instruction of this format. -/
def InstructionFormat.typevarInput? (format : InstructionFormat) (ins : List Operand) :
    Option Operand :=
  format.typevarOperand.bind fun index => ins[index]?

/-- The type variables of a polymorphic instruction: the controlling one, and the free variables
of single inputs. -/
structure Polymorphism where
  control : TypeVar
  others : List TypeVar
  fromOperand : Bool
  deriving DecidableEq

namespace Polymorphism

/-- All free variables, the controlling one first. -/
def typeVars (p : Polymorphism) : List TypeVar :=
  p.control :: p.others

/-- Adds to `found` the free variables other than `control`, input by input. Such a variable must
be the very type of its input and may occur once. -/
def collectOthers (inst : String) (control : TypeVar) (found : List TypeVar) :
    List Operand → Except Error (List TypeVar)
  | [] => .ok found
  | operand :: rest =>
    match operand.type.root? with
    | none => collectOthers inst control found rest
    | some root =>
      if root = control then
        collectOthers inst control found rest
      else if operand.type.typeVar? ≠ some root then
        .error (.underivedTypevar inst operand.quoted operand.type.name control.name)
      else if root ∈ found then
        .error (.typevarReuseViolation inst root.name)
      else
        collectOthers inst control (found ++ [root]) rest

/-- Every output with a type variable derives from `control`. -/
def checkOutputs (inst : String) (control : TypeVar) : List Operand → Except Error Unit
  | [] => .ok ()
  | operand :: rest =>
    match operand.type.root? with
    | none => checkOutputs inst control rest
    | some root =>
      if root = control then checkOutputs inst control rest
      else .error (.outputTypevarMismatch inst operand.quoted control.name)

/-- Checks that `control` can control an instruction with these values and outputs, and gives the
other free variables in the order of the inputs. -/
def verify (inst : String) (control : TypeVar) (values outs : List Operand) :
    Except Error (List TypeVar) :=
  match collectOthers inst control [] values with
  | .error error => .error error
  | .ok others =>
    match checkOutputs inst control outs with
    | .error error => .error error
    | .ok () => .ok others

/-- The polymorphism with this controlling variable, if it passes the check. -/
def attempt (inst : String) (fromOperand : Bool) (values outs : List Operand)
    (control : TypeVar) : Except Error Polymorphism :=
  match verify inst control values outs with
  | .error error => .error error
  | .ok others => .ok ⟨control, others, fromOperand⟩

/-- The attempt with the designated input, if that is declared with a free variable. -/
def attemptOperand? (inst : String) (format : InstructionFormat) (ins outs : List Operand) :
    Option (Except Error Polymorphism) :=
  ((format.typevarInput? ins).bind fun operand => operand.type.freeTypeVar?).map
    (attempt inst true (format.valueInputs ins) outs)

/-- The attempt with the first output, which must be declared with a free variable. -/
def attemptOutput (inst : String) (format : InstructionFormat) (ins outs : List Operand)
    (first : Operand) : Except Error Polymorphism :=
  match first.type.freeTypeVar? with
  | some control => attempt inst false (format.valueInputs ins) outs control
  | none => .error (.ambiguousControllingTypevar inst "first result must be a free type variable")

/-- The polymorphism of an instruction of this format, `none` without type variables. If both
attempts fail, the error is that of the last one made. -/
def infer (inst : String) (format : InstructionFormat) (ins outs : List Operand) :
    Except Error (Option Polymorphism) :=
  if (format.valueInputs ins).any Operand.isPolymorphic || outs.any Operand.isPolymorphic then
    match attemptOperand? inst format ins outs, outs with
    | some (.ok p), _ => .ok (some p)
    | _, first :: _ => (attemptOutput inst format ins outs first).map some
    | some (.error error), [] => .error error
    | none, [] =>
      .error (.ambiguousControllingTypevar inst "typevar_operand must be a free type variable")
  else
    .ok none

end Polymorphism

end TargetDescription
