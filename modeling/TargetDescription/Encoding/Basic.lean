import TargetDescription.Instruction.Binding
import TargetDescription.Predicate.Basic
import TargetDescription.Text.Padded

/-!
# Encodings

A recipe says how instructions of one format are encoded, an encoding applies a recipe to one
instruction with all its types given. Both may demand predicates: one on the fields of the
instruction, one on the settings of the target.

* `Recipe` and `Encoding` are the types; `Recipe.declare` and `Encoding.make` check them.
* `CpuMode` is a list of encodings that are active together.
-/

namespace TargetDescription

/-- How to encode instructions of one format. The stamp tells apart recipes declared alike. -/
structure Recipe where
  stamp : Stamp
  name : String
  format : InstructionFormat
  fieldPredicate : Option Predicate
  settingPredicate : Option Predicate
  deriving DecidableEq

/-- A recipe, whose predicate on fields must be about its own format. -/
def Recipe.declare (stamp : Stamp) (name : String) (format : InstructionFormat)
    (fieldPredicate settingPredicate : Option Predicate) : Except Error Recipe :=
  match fieldPredicate with
  | none => .ok ⟨stamp, name, format, none, settingPredicate⟩
  | some p =>
    if p.context = .format format then .ok ⟨stamp, name, format, some p, settingPredicate⟩
    else .error (.predicateContextMismatch p.display format.name)

/-- A recipe applied to an instruction, with the bits that the recipe leaves open. -/
structure Encoding where
  inst : Instruction
  types : List ValueType
  recipe : Recipe
  bits : Nat
  fieldPredicate : Option Predicate
  settingPredicate : Option Predicate
  deriving DecidableEq

namespace Encoding

/-- The encoding of a fully bound instruction of the recipe's format. Its predicates join those of
the recipe and those given here; the stamps mark the conjunctions that this may form. -/
def make (fieldStamp settingStamp : Stamp) (ref : InstructionRef) (recipe : Recipe) (bits : Nat)
    (fieldPredicate settingPredicate : Option Predicate) : Except Error Encoding :=
  match ref.fullyBound with
  | .error error => .error error
  | .ok (inst, types) =>
    if inst.format ≠ recipe.format then
      .error (.formatRecipeMismatch inst.format.name recipe.name recipe.format.name)
    else
      match Predicate.conjoin fieldStamp recipe.fieldPredicate fieldPredicate with
      | .error error => .error error
      | .ok fieldPredicate =>
        match Predicate.conjoin settingStamp recipe.settingPredicate settingPredicate with
        | .error error => .error error
        | .ok settingPredicate =>
          .ok ⟨inst, types, recipe, bits, fieldPredicate, settingPredicate⟩

/-- The type of the controlling variable. -/
def controlType? (encoding : Encoding) : Option ValueType :=
  encoding.types.head?

/-- Recipe and bits. -/
def display (encoding : Encoding) : String :=
  "[" ++ encoding.recipe.name ++ "#" ++ Text.hexByte encoding.bits ++ "]"

end Encoding

/-- The encodings that are active in one mode of the processor. -/
structure CpuMode where
  name : String
  encodings : List Encoding := []
  deriving DecidableEq

/-- Makes an encoding and adds it at the end. -/
def CpuMode.encode (mode : CpuMode) (fieldStamp settingStamp : Stamp) (ref : InstructionRef)
    (recipe : Recipe) (bits : Nat) (fieldPredicate settingPredicate : Option Predicate) :
    Outcome CpuMode Encoding :=
  match Encoding.make fieldStamp settingStamp ref recipe bits fieldPredicate settingPredicate with
  | .error error => .fail error mode
  | .ok encoding => .ok encoding { mode with encodings := mode.encodings ++ [encoding] }

end TargetDescription
