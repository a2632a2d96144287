import TargetDescription.Format.Basic
import TargetDescription.Table

/-!
# The format registry

Formats are registered under their signatures, so that the operands of an instruction lead to at
most one format. The registry keeps them in order, beside a table that leads from signatures to
formats.

* `FormatRegistry.insert` declares a format.
* `FormatRegistry.lookup` finds the format of given inputs and outputs, `byName?` one by name.
-/

namespace TargetDescription

/-- The formats of a catalog in order of declaration. -/
structure FormatRegistry where
  origin : Stamp
  formats : List InstructionFormat := []
  signed : Table FormatSignature InstructionFormat := .empty
  keyed : signed.KeyedBy InstructionFormat.signature := by exact Table.keyedBy_empty _
  deriving DecidableEq

namespace FormatRegistry

/-- The number of formats. -/
def size (registry : FormatRegistry) : Nat :=
  registry.formats.length

/-- The format of this signature. -/
def bySignature? (registry : FormatRegistry) (signature : FormatSignature) :
    Option InstructionFormat :=
  registry.signed.get? signature

/-- Takes in a format under its signature. -/
def push (registry : FormatRegistry) (format : InstructionFormat) : FormatRegistry :=
  { registry with
    formats := registry.formats ++ [format]
    signed := registry.signed.insert format.signature format
    keyed := registry.keyed.insert rfl }

/-- Declares a format whose signature no format has yet. -/
def insert (registry : FormatRegistry) (declaration : FormatDeclaration) :
    Outcome FormatRegistry InstructionFormat :=
  match declaration.build registry.origin with
  | .error error => .fail error registry
  | .ok format =>
    match registry.bySignature? format.signature with
    | some existing => .fail (.duplicateFormatSignature format.name existing.name) registry
    | none => .ok format (registry.push format)

/-- May an instruction with these outputs have several results? Either it has several outputs, or
its only output stands for any number of values. -/
def multipleResults (outs : List Operand) : Bool :=
  match outs with
  | [single] => single.kind.isVariableArgs
  | outs => 1 < outs.length

/-- The signature that inputs and outputs ask for. -/
def signatureOf (ins outs : List Operand) : FormatSignature :=
  ⟨multipleResults outs, ins.map fun operand => operand.kind.name⟩

/-- How a message shows a signature. -/
def displaySignature (signature : FormatSignature) : String :=
  "ins = (" ++ ", ".intercalate signature.kindNames ++ ")"
    ++ (if signature.multipleResults then "[multiple results]" else "")

/-- The format of an instruction with these inputs and outputs. -/
def lookup (registry : FormatRegistry) (ins outs : List Operand) :
    Except Error InstructionFormat :=
  match registry.bySignature? (signatureOf ins outs) with
  | some format => .ok format
  | none => .error (.noMatchingFormat (displaySignature (signatureOf ins outs)))

/-- The first format of this name. -/
def byName? (registry : FormatRegistry) (name : String) : Option InstructionFormat :=
  registry.formats.find? fun format => format.name == name

end FormatRegistry

end TargetDescription
