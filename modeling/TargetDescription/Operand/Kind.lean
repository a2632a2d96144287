import TargetDescription.Outcome
import TargetDescription.Stamp
import TargetDescription.Table
import TargetDescription.Text.CamelCase

/-!
# Operand kinds

The kind of an operand says what stands in its place in an instruction: a value, a list of values,
an immediate or a reference to an entity. The first two kinds are built in; the others are declared
in a registry under names of their own, none of them the name of a built-in kind.

* `OperandKind` is the type, `DeclaredKind` the part that a declaration gives.
* `KindRegistry.immediate` and `entityRef` declare a kind, `byName?` finds one.
-/

namespace TargetDescription

/-- The names of the kinds that need no declaration. -/
def builtinKindNames : List String := ["value", "variable_args"]

/-- What a declaration says of a kind, in the registry `origin`. -/
structure DeclaredKind where
  origin : Stamp
  name : String
  doc : String
  defaultMember : String
  not_builtin : name ∉ builtinKindNames
  deriving DecidableEq

/-- What stands in the place of an operand. -/
inductive OperandKind
  /-- A value that another instruction computes. -/
  | value
  /-- Any number of values. -/
  | variableArgs
  /-- A constant that is part of the instruction. -/
  | immediate (kind : DeclaredKind)
  /-- A reference to something else in the function. -/
  | entityRef (kind : DeclaredKind)
  deriving DecidableEq

namespace OperandKind

/-- The name of the kind. -/
def name : OperandKind → String
  | value => "value"
  | variableArgs => "variable_args"
  | immediate kind => kind.name
  | entityRef kind => kind.name

/-- The description of the kind. -/
def doc : OperandKind → String
  | value => "An SSA value defined by another instruction."
  | variableArgs => "A variable size list of `value` operands."
  | immediate kind => kind.doc
  | entityRef kind => kind.doc

/-- The member that stores an operand of this kind, where a format names no other; values are not
stored in members. -/
def defaultMember? : OperandKind → Option String
  | value => none
  | variableArgs => some "varargs"
  | immediate kind => some kind.defaultMember
  | entityRef kind => some kind.defaultMember

/-- The name of the type that represents operands of this kind. -/
def typeName (kind : OperandKind) : String :=
  camelCase kind.name

/-- Is it the kind of a single value? -/
def isValue : OperandKind → Bool
  | value => true
  | _ => false

/-- Is it the kind of a list of values? -/
def isVariableArgs : OperandKind → Bool
  | variableArgs => true
  | _ => false

/-- Only the built-in kind of values has its name. -/
theorem isValue_iff_name (kind : OperandKind) : kind.isValue = true ↔ kind.name = "value" := by
  cases kind with
  | value => simp [isValue, name]
  | variableArgs => simp [isValue, name]
  | immediate kind =>
    have := kind.not_builtin
    simp_all [isValue, name, builtinKindNames]
  | entityRef kind =>
    have := kind.not_builtin
    simp_all [isValue, name, builtinKindNames]

end OperandKind

/-- The kinds that need no declaration, by name. -/
def builtinKinds : Table String OperandKind :=
  (Table.empty.insert "value" .value).insert "variable_args" .variableArgs

/-- The kinds of a catalog by name: the built-in ones, and those declared. -/
structure KindRegistry where
  origin : Stamp
  named : Table String OperandKind := builtinKinds
  builtin : ∀ name ∈ builtinKindNames, named.get? name ≠ none := by decide
  deriving DecidableEq

namespace KindRegistry

/-- All kinds, in order of declaration. -/
def kinds (registry : KindRegistry) : List OperandKind :=
  registry.named.values

/-- The number of kinds. -/
def size (registry : KindRegistry) : Nat :=
  registry.named.size

/-- The kind of this name. -/
def byName? (registry : KindRegistry) (name : String) : Option OperandKind :=
  registry.named.get? name

/-- Takes in a kind under its name. -/
def push (registry : KindRegistry) (kind : OperandKind) : KindRegistry :=
  { registry with
    named := registry.named.insert kind.name kind
    builtin := by
      intro name builtin
      rw [Table.get?_insert]
      split
      · exact Option.some_ne_none _
      · exact registry.builtin name builtin }

/-- Declares a kind under a name that no kind has yet. -/
def declare (registry : KindRegistry) (make : DeclaredKind → OperandKind)
    (name doc defaultMember : String) : Outcome KindRegistry OperandKind :=
  match new : registry.named.get? name with
  | some _ => .fail (.duplicateKindName name) registry
  | none =>
    let kind := make ⟨registry.origin, name, doc, defaultMember, fun builtin =>
      registry.builtin name builtin new⟩
    .ok kind (registry.push kind)

/-- Declares a kind of immediates, stored in the member `imm` unless another one is given. -/
def immediate (registry : KindRegistry) (name doc : String) (member : Option String) :
    Outcome KindRegistry OperandKind :=
  registry.declare .immediate name doc (member.getD "imm")

/-- Declares a kind of references, stored in the member of the same name unless another one is
given. -/
def entityRef (registry : KindRegistry) (name doc : String) (member : Option String) :
    Outcome KindRegistry OperandKind :=
  registry.declare .entityRef name doc (member.getD name)

end KindRegistry

end TargetDescription
