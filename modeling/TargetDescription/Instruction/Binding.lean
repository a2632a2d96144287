import TargetDescription.Instruction.Basic
import TargetDescription.ValueType.Registry

/-!
# Binding types

The free variables of a polymorphic instruction are bound to types in order, the controlling one
first, one after the other or several at once.

* `BoundInstruction` is an instruction with the types given so far.
* `InstructionRef` is an instruction as patterns and encodings refer to it, bound or not.
* `InstructionRef.fullyBound` demands that no variable is left.
-/

namespace TargetDescription

/-- An instruction with types for some of its variables. -/
structure BoundInstruction where
  inst : Instruction
  types : List ValueType
  deriving DecidableEq

/-- A list of type variables in a message. -/
def TypeVar.displayList (typeVars : List TypeVar) : String :=
  ", ".intercalate (typeVars.map TypeVar.name)

namespace BoundInstruction

/-- The instruction with these types, which must not be more than its variables. -/
def ofTypes (inst : Instruction) (types : List ValueType) : Except Error BoundInstruction :=
  if inst.numTypeVars < types.length then
    .error (.tooManyTypeArguments inst.name types.length inst.numTypeVars)
  else
    .ok ⟨inst, types⟩

/-- Binds the next variable. -/
def bind (bound : BoundInstruction) (type : ValueType) : Except Error BoundInstruction :=
  ofTypes bound.inst (bound.types ++ [type])

/-- The name, followed by the types. -/
def display (bound : BoundInstruction) : String :=
  bound.inst.name ++ String.join (bound.types.map fun type => "." ++ type.name)

/-- The instruction and its types, if every variable has one. -/
def fullyBound (bound : BoundInstruction) : Except Error (Instruction × List ValueType) :=
  if bound.types.length < bound.inst.typeVars.length then
    .error (.unboundTypevar bound.display
      (TypeVar.displayList (bound.inst.typeVars.drop bound.types.length)))
  else
    .ok (bound.inst, bound.types)

end BoundInstruction

namespace Instruction

/-- Binds the variables in order; only a polymorphic instruction has any. -/
def bindAll (inst : Instruction) (types : List ValueType) : Except Error BoundInstruction :=
  if inst.isPolymorphic then BoundInstruction.ofTypes inst types
  else .error (.notPolymorphic inst.name)

/-- Binds the controlling variable. -/
def bind (inst : Instruction) (type : ValueType) : Except Error BoundInstruction :=
  inst.bindAll [type]

/-- An instruction without variables needs no types. -/
def fullyBound (inst : Instruction) : Except Error (Instruction × List ValueType) :=
  if inst.isPolymorphic then
    .error (.unboundTypevar inst.name (TypeVar.displayList inst.typeVars))
  else
    .ok (inst, [])

end Instruction

/-- An instruction, with or without types for its variables. -/
inductive InstructionRef
  | plain (inst : Instruction)
  | bound (bound : BoundInstruction)
  deriving DecidableEq

namespace InstructionRef

/-- The instruction itself. -/
def inst : InstructionRef → Instruction
  | plain inst => inst
  | bound b => b.inst

/-- The types given. -/
def types : InstructionRef → List ValueType
  | plain _ => []
  | bound b => b.types

/-- The name, followed by the types. -/
def display : InstructionRef → String
  | plain inst => inst.name
  | bound b => b.display

/-- Binds the next variable. -/
def bind (ref : InstructionRef) (type : ValueType) : Except Error BoundInstruction :=
  match ref with
  | plain inst => inst.bind type
  | bound b => b.bind type

/-- Binds the next variable to the type of this name. -/
def bindNamed (ref : InstructionRef) (types : TypeRegistry) (name : String) :
    Except Error BoundInstruction :=
  match types.byName name with
  | .error error => .error error
  | .ok type => ref.bind type

/-- The instruction and its types, if no variable is left. -/
def fullyBound : InstructionRef → Except Error (Instruction × List ValueType)
  | plain inst => inst.fullyBound
  | bound b => b.fullyBound

end InstructionRef

end TargetDescription
