import TargetDescription.Operand.Kind
import TargetDescription.TypeVar
import TargetDescription.ValueType.Basic

/-!
# Operands

The inputs and outputs of instructions. An operand is declared with a value type, with a type
variable, or with an operand kind; in the first two cases it is a value.

* `OperandType` is what an operand is declared with, `Operand` adds a name and a description.
* `OperandType.root?` is the free variable behind a declaration by type variable.
-/

namespace TargetDescription

/-- What an operand is declared with. -/
inductive OperandType
  /-- A value of this type. -/
  | concrete (type : ValueType)
  /-- A value whose type a variable gives. -/
  | typeVar (typeVar : TypeVar)
  /-- Anything of this kind. -/
  | kind (kind : OperandKind)
  deriving DecidableEq

namespace OperandType

/-- The type variable of the declaration. -/
def typeVar? : OperandType → Option TypeVar
  | typeVar v => some v
  | _ => none

/-- The free type variable that determines the type. -/
def root? (type : OperandType) : Option TypeVar :=
  type.typeVar?.map TypeVar.root

/-- Is it declared with a free type variable? -/
def isFreeTypeVar : OperandType → Bool
  | typeVar v => v.isFree
  | _ => false

/-- The kind of an operand declared like this. -/
def operandKind : OperandType → OperandKind
  | concrete _ => .value
  | typeVar _ => .value
  | kind k => k

/-- The name of the type, variable or kind. -/
def name : OperandType → String
  | concrete type => type.name
  | typeVar v => v.name
  | kind k => k.name

/-- The description of the type, variable or kind. -/
def doc : OperandType → String
  | concrete type => type.doc
  | typeVar v => v.doc
  | kind k => k.doc

end OperandType

/-- An input or output of an instruction; `note` is its own description, if any. -/
structure Operand where
  name : String
  type : OperandType
  note : String := ""
  deriving DecidableEq

namespace Operand

/-- The kind of the operand. -/
def kind (operand : Operand) : OperandKind :=
  operand.type.operandKind

/-- The operand's own description, or else that of its type. -/
def doc (operand : Operand) : String :=
  if operand.note = "" then operand.type.doc else operand.note

/-- Is the operand a single value? -/
def isValue (operand : Operand) : Bool :=
  operand.kind.isValue

/-- The name between backquotes, as messages show it. -/
def quoted (operand : Operand) : String :=
  "`" ++ operand.name ++ "`"

end Operand

end TargetDescription
