import TargetDescription.Operand.Basic
import TargetDescription.Table

/-!
# Instruction formats

A format lists the kinds of the inputs of its instructions and the members that store them. Which
format an instruction has follows from its operands alone: a format is known by its *signature*,
the names of the kinds and whether there may be several results.

* `InstructionFormat` is the type, `FormatDeclaration` what it is declared with.
* `FormatDeclaration.build` makes the format; it fixes the input that may control the types.
* `InstructionFormat.memberIndex` leads from names to positions; `InstructionFormat.field` finds a
  member through it and gives a `FormatField`.
-/

namespace TargetDescription

/-- The place of one input: its kind and the member that stores it. -/
structure FormatOperand where
  member : Option String
  kind : OperandKind
  deriving DecidableEq

/-- A part of the declaration of a format. -/
inductive FormatPart
  /-- Several values. -/
  | values (count : Nat)
  /-- An input stored in a member of this name. -/
  | member (name : String) (kind : OperandKind)
  /-- An input stored in the default member of its kind. -/
  | kind (kind : OperandKind)
  deriving DecidableEq

/-- The places that the part adds. -/
def FormatPart.operands : FormatPart → List FormatOperand
  | values count => List.replicate count ⟨none, .value⟩
  | member name k => [⟨some name, k⟩]
  | kind k => [⟨k.defaultMember?, k⟩]

/-- What a format is known by. -/
structure FormatSignature where
  multipleResults : Bool
  kindNames : List String
  deriving DecidableEq

/-- A format, as declared in the registry `origin`. -/
structure InstructionFormat where
  origin : Stamp
  name : String
  operands : List FormatOperand
  multipleResults : Bool
  boxedStorage : Bool
  typevarOperand : Option Nat
  deriving DecidableEq

namespace InstructionFormat

/-- The kinds of the inputs. -/
def kinds (format : InstructionFormat) : List OperandKind :=
  format.operands.map (·.kind)

/-- The members that store the inputs. -/
def members (format : InstructionFormat) : List (Option String) :=
  format.operands.map (·.member)

/-- The names of the kinds, and whether there may be several results. -/
def signature (format : InstructionFormat) : FormatSignature :=
  ⟨format.multipleResults, format.kinds.map OperandKind.name⟩

/-- The positions of the values among operands that start at position `start`. -/
def valuePositions (start : Nat) : List FormatOperand → List Nat
  | [] => []
  | operand :: rest =>
    if operand.kind.isValue then start :: valuePositions (start + 1) rest
    else valuePositions (start + 1) rest

/-- The positions of the values. -/
def valueOperands (format : InstructionFormat) : List Nat :=
  valuePositions 0 format.operands

/-- The format as a signature with member names. -/
def display (format : InstructionFormat) : String :=
  let place (operand : FormatOperand) : String :=
    match operand.member with
    | some member => member ++ ": " ++ operand.kind.name
    | none => operand.kind.name
  format.name ++ "(" ++ ", ".intercalate (format.operands.map place) ++ ")"

end InstructionFormat

/-- The declaration of a format. -/
structure FormatDeclaration where
  name : String
  parts : List FormatPart
  multipleResults : Bool := false
  boxedStorage : Bool := false
  typevarOperand : Option Nat := none

namespace FormatDeclaration

/-- The places of all parts in order. -/
def operands (declaration : FormatDeclaration) : List FormatOperand :=
  declaration.parts.flatMap FormatPart.operands

/-- The format of the declaration, in the registry `origin`. The input that may control the types
is the declared one, which must be a value, or else the first value. -/
def build (declaration : FormatDeclaration) (origin : Stamp) : Except Error InstructionFormat :=
  let operands := declaration.operands
  let format (typevarOperand : Option Nat) : InstructionFormat :=
    { origin
      name := declaration.name
      operands
      multipleResults := declaration.multipleResults
      boxedStorage := declaration.boxedStorage
      typevarOperand }
  match declaration.typevarOperand with
  | some index =>
    if operands[index]?.any (·.kind.isValue) then .ok (format (some index))
    else .error (.invalidTypevarOperand declaration.name index)
  | none => .ok (format (InstructionFormat.valuePositions 0 operands).head?)

end FormatDeclaration

/-- A member of a format, by its position. -/
structure FormatField where
  format : InstructionFormat
  operand : Nat
  deriving DecidableEq

namespace FormatField

/-- The name of the member. -/
def name (field : FormatField) : String :=
  (field.format.members[field.operand]?.join).getD ""

/-- How generated code reaches the member: through the box, if there is one. -/
def accessPath (field : FormatField) : String :=
  if field.format.boxedStorage then "data." ++ field.name else field.name

/-- Format and member. -/
def display (field : FormatField) : String :=
  field.format.name ++ "." ++ field.name

end FormatField

namespace InstructionFormat

/-- Takes the member at a position into an index of names; a name that is there already keeps its
position. -/
def indexMember (index : Table String Nat) : Option String × Nat → Table String Nat
  | (none, _) => index
  | (some name, position) =>
    match index.get? name with
    | some _ => index
    | none => index.insert name position

/-- The names of the members with the positions that they stand for. -/
def memberIndex (format : InstructionFormat) : Table String Nat :=
  format.members.zipIdx.foldl indexMember .empty

/-- The member that this name stands for. -/
def field (format : InstructionFormat) (name : String) : Except Error FormatField :=
  match format.memberIndex.get? name with
  | some operand => .ok ⟨format, operand⟩
  | none => .error (.unknownFormatField format.name name)

end InstructionFormat

end TargetDescription
