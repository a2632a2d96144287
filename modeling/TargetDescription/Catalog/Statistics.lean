import TargetDescription.Catalog.Basic

/-!
# Statistics of a catalog

* `Catalog.statistics` counts the declarations of a catalog.
* `Statistics.report` is the text that shows the counts.
-/

namespace TargetDescription

/-- How much was declared. Groups count once they are closed, instructions at once. -/
structure Statistics where
  types : Nat
  operandKinds : Nat
  formats : Nat
  instructionGroups : Nat
  instructions : Nat
  settingGroups : Nat
  settings : Nat
  deriving DecidableEq

/-- The counts of a catalog. -/
def Catalog.statistics (catalog : Catalog) : Statistics where
  types := catalog.types.size
  operandKinds := catalog.kinds.size
  formats := catalog.formats.size
  instructionGroups := catalog.instructionGroupCount
  instructions := catalog.instructionCount
  settingGroups := catalog.settingGroupCount
  settings := catalog.settingCount

/-- The counts as text, a line each. -/
def Statistics.report (statistics : Statistics) : String :=
  "Catalog Statistics:\n"
    ++ "  Value types: " ++ toString statistics.types ++ "\n"
    ++ "  Operand kinds: " ++ toString statistics.operandKinds ++ "\n"
    ++ "  Instruction formats: " ++ toString statistics.formats ++ "\n"
    ++ "  Instruction groups: " ++ toString statistics.instructionGroups ++ "\n"
    ++ "  Instructions: " ++ toString statistics.instructions ++ "\n"
    ++ "  Setting groups: " ++ toString statistics.settingGroups ++ "\n"
    ++ "  Settings: " ++ toString statistics.settings ++ "\n"

end TargetDescription
