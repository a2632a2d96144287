import TargetDescription.Format.Registry
import TargetDescription.Instruction.Group
import TargetDescription.Operand.Kind
import TargetDescription.Setting.Layout
import TargetDescription.ValueType.Registry

/-!
# The catalog

A catalog holds what a description has declared: types, operand kinds, formats, instruction groups.
At most one group, of settings or of instructions, is open at a time; the catalog remembers its sort
and its name, while the group itself is in the hands of whoever opened it.

* `Catalog` is the type, `Catalog.empty` the start.
* `openInstructions`, `define` and `closeInstructions` lead to an instruction group,
  `openSettings` and `closeSettings` to a settings group.
-/

namespace TargetDescription

/-- The two sorts of groups. -/
inductive GroupSort
  | settings
  | instructions
  deriving DecidableEq

/-- What the catalog remembers of the open group. -/
structure GroupSlot where
  sort : GroupSort
  name : String
  deriving DecidableEq

/-- Everything that was declared so far, with counters for the statistics. -/
structure Catalog where
  origin : Stamp
  types : TypeRegistry
  kinds : KindRegistry
  formats : FormatRegistry
  instructionGroups : List InstructionGroup := []
  instructionNames : List String := []
  current : Option GroupSlot := none
  instructionGroupCount : Nat := 0
  instructionCount : Nat := 0
  settingGroupCount : Nat := 0
  settingCount : Nat := 0
  deriving DecidableEq

namespace Catalog

/-- A catalog without declarations. -/
def empty (origin : Stamp) : Catalog :=
  { origin, types := { origin }, kinds := { origin }, formats := { origin } }

/-- The name of the open group. -/
def openGroup? (catalog : Catalog) : Option String :=
  catalog.current.map (·.name)

/-! ## Opening and closing -/

/-- Makes a group the open one; there must be none. -/
def openSlot (catalog : Catalog) (sort : GroupSort) (name : String) : Outcome Catalog Unit :=
  match catalog.current with
  | some slot => .fail (.groupAlreadyOpen name slot.name) catalog
  | none => .ok () { catalog with current := some ⟨sort, name⟩ }

/-- Checks that the open group has this sort and name. -/
def checkSlot (catalog : Catalog) (sort : GroupSort) (name : String) : Except Error Unit :=
  if catalog.current = some ⟨sort, name⟩ then .ok ()
  else .error (.groupNotOpen name (catalog.openGroup?.getD "none"))

/-- Leaves no group open; the open one must have this sort and name. -/
def closeSlot (catalog : Catalog) (sort : GroupSort) (name : String) : Outcome Catalog Unit :=
  match catalog.checkSlot sort name with
  | .error error => .fail error catalog
  | .ok () => .ok () { catalog with current := none }

/-! ## Instructions -/

/-- Opens a group of instructions. -/
def openInstructions (catalog : Catalog) (name doc : String) :
    Outcome Catalog OpenInstructionGroup :=
  (catalog.openSlot .instructions name).map fun _ => { name, doc }

/-- Defines an instruction in the open group, under a name that no instruction of the catalog
has. -/
def define (catalog : Catalog) (group : OpenInstructionGroup)
    (declaration : InstructionDeclaration) :
    Outcome (Catalog × OpenInstructionGroup) Instruction :=
  match catalog.checkSlot .instructions group.name with
  | .error error => .fail error (catalog, group)
  | .ok () =>
    if declaration.name ∈ catalog.instructionNames then
      .fail (.duplicateInstruction declaration.name) (catalog, group)
    else
      match declaration.build catalog.formats catalog.origin with
      | .error error => .fail error (catalog, group)
      | .ok inst =>
        .ok inst
          ({ catalog with
              instructionNames := catalog.instructionNames ++ [inst.name]
              instructionCount := catalog.instructionCount + 1 },
            group.push inst)

/-- Closes a group of instructions. -/
def closeInstructions (catalog : Catalog) (group : OpenInstructionGroup) :
    Outcome Catalog InstructionGroup :=
  (catalog.closeSlot .instructions group.name).andThen fun _ catalog =>
    .ok group.close
      { catalog with
        instructionGroups := catalog.instructionGroups ++ [group.close]
        instructionGroupCount := catalog.instructionGroupCount + 1 }

/-! ## Settings -/

/-- Opens a group of settings, below a parent if there is one. -/
def openSettings (catalog : Catalog) (stamp : Stamp) (name : String) (parent : Option GroupPath) :
    Outcome Catalog OpenSettingGroup :=
  (catalog.openSlot .settings name).map fun _ => { path := GroupPath.extend parent stamp name }

/-- Closes a group of settings. If it cannot be laid out, it is lost, and no group is open any
more. -/
def closeSettings (catalog : Catalog) (group : OpenSettingGroup) : Outcome Catalog SettingGroup :=
  (catalog.closeSlot .settings group.name).andThen fun _ catalog =>
    match group.close with
    | .error error => .fail error catalog
    | .ok closed =>
      .ok closed
        { catalog with
          settingGroupCount := catalog.settingGroupCount + 1
          settingCount := catalog.settingCount + closed.settings.length }

end Catalog

end TargetDescription
