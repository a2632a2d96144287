import TargetDescription.Instruction.Basic

/-!
# Instruction groups

Instructions are defined in groups. A group is *open* while definitions go into it; once closed, it
does not change any more.

* `OpenInstructionGroup` and `InstructionGroup` are the two stages.
-/

namespace TargetDescription

/-- A group that still takes definitions. -/
structure OpenInstructionGroup where
  name : String
  doc : String
  instructions : List Instruction := []
  deriving DecidableEq

/-- A group that takes no more definitions. -/
structure InstructionGroup where
  name : String
  doc : String
  instructions : List Instruction
  deriving DecidableEq

/-- Adds an instruction at the end. -/
def OpenInstructionGroup.push (group : OpenInstructionGroup) (inst : Instruction) :
    OpenInstructionGroup :=
  { group with instructions := group.instructions ++ [inst] }

/-- The group as it stands. -/
def OpenInstructionGroup.close (group : OpenInstructionGroup) : InstructionGroup :=
  ⟨group.name, group.doc, group.instructions⟩

/-- The first instruction of this name. -/
def InstructionGroup.byName? (group : InstructionGroup) (name : String) : Option Instruction :=
  group.instructions.find? fun inst => inst.name == name

end TargetDescription
