import TargetDescription.Instruction.Binding

/-!
# Patterns

A pattern is a list of statements; each applies an instruction to arguments and gives names to the
results. An argument is a variable, an immediate, or again an application.

* `Expr` is an argument, `Application` an instruction with its arguments.
* `Application.make` checks the arguments against the inputs of the instruction.
* `Statement` and `Pattern` are built from applications.
-/

namespace TargetDescription

/-- An argument. -/
inductive Expr
  /-- A variable. -/
  | var (name : String)
  /-- An immediate, as it is written. -/
  | imm (text : String)
  /-- The result of an instruction. -/
  | apply (inst : InstructionRef) (args : List Expr)

mutual

/-- Equality of arguments is decided from the outside in. -/
def Expr.decEq : (a b : Expr) → Decidable (a = b)
  | .var a, .var b => decidable_of_iff (a = b) (by simp)
  | .imm a, .imm b => decidable_of_iff (a = b) (by simp)
  | .apply i as, .apply j bs =>
    have := Expr.decEqAll as bs
    decidable_of_iff (i = j ∧ as = bs) (by simp)
  | .var _, .imm _ => isFalse nofun
  | .var _, .apply .. => isFalse nofun
  | .imm _, .var _ => isFalse nofun
  | .imm _, .apply .. => isFalse nofun
  | .apply .., .var _ => isFalse nofun
  | .apply .., .imm _ => isFalse nofun

/-- Equality of lists of arguments. -/
def Expr.decEqAll : (as bs : List Expr) → Decidable (as = bs)
  | [], [] => isTrue rfl
  | a :: as, b :: bs =>
    have := Expr.decEq a b
    have := Expr.decEqAll as bs
    decidable_of_iff (a = b ∧ as = bs) (by simp)
  | [], _ :: _ => isFalse nofun
  | _ :: _, [] => isFalse nofun

end

instance : DecidableEq Expr := Expr.decEq

namespace Expr

/-- Is the argument an immediate? -/
def isImm : Expr → Bool
  | imm _ => true
  | _ => false

mutual

/-- The argument as it is written. -/
def display : Expr → String
  | var name => name
  | imm text => text
  | apply inst args => inst.display ++ "(" ++ ", ".intercalate (displayAll args) ++ ")"

/-- The arguments as they are written. -/
def displayAll : List Expr → List String
  | [] => []
  | arg :: rest => arg.display :: displayAll rest

end

end Expr

/-- An instruction with its arguments. -/
structure Application where
  inst : InstructionRef
  args : List Expr
  deriving DecidableEq

namespace Application

/-- The first value input whose argument is an immediate. -/
def misplacedImm? : List Operand → List Expr → Option Operand
  | operand :: operands, arg :: args =>
    if operand.isValue && arg.isImm then some operand else misplacedImm? operands args
  | _, _ => none

/-- The instruction applied to one argument per input; immediates cannot stand for values. -/
def make (inst : InstructionRef) (args : List Expr) : Except Error Application :=
  let ins := inst.inst.ins
  if ins.length ≠ args.length then
    .error (.applyArity inst.display ins.length args.length)
  else
    match misplacedImm? ins args with
    | some operand => .error (.invalidApplyArgument inst.display operand.quoted)
    | none => .ok ⟨inst, args⟩

/-- The application as an argument of another. -/
def toExpr (application : Application) : Expr :=
  .apply application.inst application.args

/-- The application as it is written. -/
def display (application : Application) : String :=
  application.toExpr.display

end Application

/-- An application with names for its results, or none if it has no results. -/
structure Statement where
  results : List String
  application : Application
  deriving DecidableEq

/-- The statement as it is written. -/
def Statement.display (statement : Statement) : String :=
  (if statement.results.isEmpty then "" else ", ".intercalate statement.results ++ " << ")
    ++ statement.application.display

/-- Statements in order. -/
structure Pattern where
  statements : List Statement
  deriving DecidableEq

end TargetDescription
