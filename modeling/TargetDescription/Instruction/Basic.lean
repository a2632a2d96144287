import TargetDescription.Format.Registry
import TargetDescription.Instruction.Polymorphism
import TargetDescription.Text.Blank

/-!
# Instructions

An instruction has inputs, outputs, the format that its operands lead to, and the polymorphism that
they imply.

* `InstructionDeclaration` is what an author writes, `InstructionDeclaration.build` makes the
  instruction.
* `Instruction` is the result. Names are unique in a catalog, so its origin and name tell it apart.
-/

namespace TargetDescription

/-- The declaration of an instruction. -/
structure InstructionDeclaration where
  name : String
  doc : String := ""
  ins : List Operand := []
  outs : List Operand := []
  isTerminator : Bool := false
  isBranch : Bool := false

/-- An instruction, as defined in the catalog `origin`. -/
structure Instruction where
  origin : Stamp
  name : String
  doc : String
  ins : List Operand
  outs : List Operand
  format : InstructionFormat
  polymorphism : Option Polymorphism
  isTerminator : Bool
  isBranch : Bool
  deriving DecidableEq

/-- Finds the format and infers the polymorphism. -/
def InstructionDeclaration.build (declaration : InstructionDeclaration)
    (formats : FormatRegistry) (origin : Stamp) : Except Error Instruction :=
  match formats.lookup declaration.ins declaration.outs with
  | .error error => .error error
  | .ok format =>
    match Polymorphism.infer declaration.name format declaration.ins declaration.outs with
    | .error error => .error error
    | .ok polymorphism =>
      .ok
        { origin
          name := declaration.name
          doc := declaration.doc
          ins := declaration.ins
          outs := declaration.outs
          format
          polymorphism
          isTerminator := declaration.isTerminator
          isBranch := declaration.isBranch }

namespace Instruction

/-- The name in camel case. -/
def camelName (inst : Instruction) : String :=
  camelCase inst.name

/-- The first line of the description that is not blank. -/
def blurb (inst : Instruction) : String :=
  Text.blurb inst.doc

/-- The positions of the outputs that are single values. -/
def valueResults (inst : Instruction) : List Nat :=
  (List.range inst.outs.length).filter fun index => inst.outs[index]?.any Operand.isValue

/-- Does a type variable occur in the instruction? -/
def isPolymorphic (inst : Instruction) : Bool :=
  inst.polymorphism.isSome

/-- The variable that determines the instance. -/
def control? (inst : Instruction) : Option TypeVar :=
  inst.polymorphism.map (·.control)

/-- The other free variables. -/
def otherTypeVars (inst : Instruction) : List TypeVar :=
  match inst.polymorphism with
  | some p => p.others
  | none => []

/-- All free variables, the controlling one first. -/
def typeVars (inst : Instruction) : List TypeVar :=
  match inst.polymorphism with
  | some p => p.typeVars
  | none => []

/-- The number of types that fix the instance. -/
def numTypeVars (inst : Instruction) : Nat :=
  match inst.polymorphism with
  | some p => 1 + p.others.length
  | none => 0

@[simp] theorem length_typeVars (inst : Instruction) : inst.typeVars.length = inst.numTypeVars := by
  unfold typeVars numTypeVars
  cases inst.polymorphism with
  | none => rfl
  | some p => simp only [Polymorphism.typeVars, List.length_cons]; omega

/-- The instruction with the names of its operands. -/
def display (inst : Instruction) : String :=
  let names (operands : List Operand) : String :=
    ", ".intercalate (operands.map (·.name))
  (if inst.outs.isEmpty then "" else names inst.outs ++ " = ")
    ++ inst.name ++ " " ++ names inst.ins

end Instruction

end TargetDescription
