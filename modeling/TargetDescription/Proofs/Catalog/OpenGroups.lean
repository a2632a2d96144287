import TargetDescription.Catalog.Basic
import TargetDescription.Proofs.Instruction.Refusals
import TargetDescription.Proofs.Setting.Growth

/-!
# The open group of a catalog

A catalog knows its open group by sort and name only. Defining into a group and closing it start
with a check of these two, so each either stops there and changes nothing, or goes through as if the
group were the one that was opened.

* `OpenGroup` is a group of either sort, `OpenGroup.slot` what a catalog remembers of it.
* `Catalog.define_cases`, `Catalog.closeInstructions_cases` and `Catalog.closeSettings_cases` say
  what the operations can do.
* `Catalog.accepts_iff` and `Catalog.refuses_iff` are the conditions for passing the check and for
  failing it.
-/

namespace TargetDescription

/-- A group of either sort while it is open. -/
inductive OpenGroup
  | instructions (group : OpenInstructionGroup)
  | settings (group : OpenSettingGroup)

namespace OpenGroup

/-- The name of the group. -/
def name : OpenGroup → String
  | instructions group => group.name
  | settings group => group.name

/-- The sort of the group. -/
def sort : OpenGroup → GroupSort
  | instructions _ => .instructions
  | settings _ => .settings

/-- The sort and the name. -/
def slot (group : OpenGroup) : GroupSlot :=
  ⟨group.sort, group.name⟩

/-- The instructions in the group. -/
def contents : OpenGroup → List Instruction
  | instructions group => group.instructions
  | settings _ => []

end OpenGroup

/-- The result is not that the group is not the open one. -/
def PassesSlotCheck {α : Type} : Except Error α → Bool
  | .error (.groupNotOpen _ _) => false
  | _ => true

theorem Error.IsAboutOperands.passesSlotCheck {error : Error} (h : error.IsAboutOperands)
    (α : Type) : PassesSlotCheck (.error error : Except Error α) = true := by
  cases error with
  | groupNotOpen group current => exact h.elim
  | _ => rfl

namespace Catalog

variable (catalog : Catalog)

/-- The complaint that a group of this name is not the open one. -/
def notOpen (name : String) : Error :=
  .groupNotOpen name (catalog.openGroup?.getD "none")

theorem checkSlot_of_eq {sort : GroupSort} {name : String}
    (h : catalog.current = some ⟨sort, name⟩) : catalog.checkSlot sort name = .ok () :=
  if_pos h

theorem checkSlot_of_ne {sort : GroupSort} {name : String}
    (h : catalog.current ≠ some ⟨sort, name⟩) :
    catalog.checkSlot sort name = .error (catalog.notOpen name) :=
  if_neg h

/-! ## Opening -/

section Opening

variable {catalog}

theorem openSlot_of_none (h : catalog.current = none) (sort : GroupSort) (name : String) :
    catalog.openSlot sort name = .ok () { catalog with current := some ⟨sort, name⟩ } := by
  rw [openSlot, h]

theorem openSlot_of_some {slot : GroupSlot} (h : catalog.current = some slot) (sort : GroupSort)
    (name : String) :
    catalog.openSlot sort name = .fail (.groupAlreadyOpen name slot.name) catalog := by
  rw [openSlot, h]

end Opening

/-! ## Defining and closing -/

/-- Defining an instruction stops at the check, or at a name that is taken, or for a reason that
lies in the operands; or else it takes the name and puts the instruction into the group. -/
theorem define_cases (group : OpenInstructionGroup) (declaration : InstructionDeclaration) :
    (catalog.current ≠ some ⟨.instructions, group.name⟩ ∧
        catalog.define group declaration =
          .fail (catalog.notOpen group.name) (catalog, group)) ∨
      (catalog.current = some ⟨.instructions, group.name⟩ ∧
        ((declaration.name ∈ catalog.instructionNames ∧
            catalog.define group declaration =
              .fail (.duplicateInstruction declaration.name) (catalog, group)) ∨
          (declaration.name ∉ catalog.instructionNames ∧
            ((∃ error, error.IsAboutOperands ∧
                catalog.define group declaration = .fail error (catalog, group)) ∨
              ∃ inst, inst.name = declaration.name ∧
                catalog.define group declaration =
                  .ok inst
                    ({ catalog with
                        instructionNames := catalog.instructionNames ++ [inst.name]
                        instructionCount := catalog.instructionCount + 1 },
                      group.push inst))))) := by
  unfold define
  by_cases isOpen : catalog.current = some ⟨.instructions, group.name⟩
  · rw [catalog.checkSlot_of_eq isOpen]
    refine Or.inr ⟨isOpen, ?_⟩
    dsimp only
    by_cases taken : declaration.name ∈ catalog.instructionNames
    · exact Or.inl ⟨taken, if_pos taken⟩
    · rw [if_neg taken]
      refine Or.inr ⟨taken, ?_⟩
      cases built : declaration.build catalog.formats catalog.origin with
      | error error =>
        exact Or.inl ⟨error, InstructionDeclaration.isAboutOperands_of_build built, rfl⟩
      | ok inst => exact Or.inr ⟨inst, InstructionDeclaration.name_of_build built, rfl⟩
  · rw [catalog.checkSlot_of_ne isOpen]
    exact Or.inl ⟨isOpen, rfl⟩

theorem closeSlot_of_eq {sort : GroupSort} {name : String}
    (h : catalog.current = some ⟨sort, name⟩) :
    catalog.closeSlot sort name = .ok () { catalog with current := none } := by
  rw [closeSlot, catalog.checkSlot_of_eq h]

theorem closeSlot_of_ne {sort : GroupSort} {name : String}
    (h : catalog.current ≠ some ⟨sort, name⟩) :
    catalog.closeSlot sort name = .fail (catalog.notOpen name) catalog := by
  rw [closeSlot, catalog.checkSlot_of_ne h]

/-- Once past the check, a group of instructions closes. -/
theorem closeInstructions_cases (group : OpenInstructionGroup) :
    (catalog.current ≠ some ⟨.instructions, group.name⟩ ∧
        catalog.closeInstructions group = .fail (catalog.notOpen group.name) catalog) ∨
      (catalog.current = some ⟨.instructions, group.name⟩ ∧
        catalog.closeInstructions group =
          .ok group.close
            { catalog with
              current := none
              instructionGroups := catalog.instructionGroups ++ [group.close]
              instructionGroupCount := catalog.instructionGroupCount + 1 }) := by
  unfold closeInstructions
  by_cases isOpen : catalog.current = some ⟨.instructions, group.name⟩
  · rw [catalog.closeSlot_of_eq isOpen]
    exact Or.inr ⟨isOpen, rfl⟩
  · rw [catalog.closeSlot_of_ne isOpen]
    exact Or.inl ⟨isOpen, rfl⟩

/-- Once past the check, a group of settings is laid out; if that fails, because of a named
predicate that the group cannot evaluate, the catalog forgets the group and is otherwise
unchanged. -/
theorem closeSettings_cases (group : OpenSettingGroup) :
    (catalog.current ≠ some ⟨.settings, group.name⟩ ∧
        catalog.closeSettings group = .fail (catalog.notOpen group.name) catalog) ∨
      (catalog.current = some ⟨.settings, group.name⟩ ∧
        ((∃ named ∈ group.namedPredicates,
            ¬ named.2.context.EvaluableIn (.settings group.path) ∧
              catalog.closeSettings group =
                .fail (.foreignPredicate named.2.display group.name)
                  { catalog with current := none }) ∨
          ∃ closed, catalog.closeSettings group =
            .ok closed
              { catalog with
                current := none
                settingGroupCount := catalog.settingGroupCount + 1
                settingCount := catalog.settingCount + closed.settings.length })) := by
  unfold closeSettings
  by_cases isOpen : catalog.current = some ⟨.settings, group.name⟩
  · rw [catalog.closeSlot_of_eq isOpen, Outcome.ok_andThen]
    refine Or.inr ⟨isOpen, ?_⟩
    cases result : group.close with
    | error error =>
      obtain ⟨named, mem, foreign, rfl⟩ := OpenSettingGroup.foreignPredicate_of_close result
      exact Or.inl ⟨named, mem, foreign, rfl⟩
    | ok closed => exact Or.inr ⟨closed, rfl⟩
  · rw [catalog.closeSlot_of_ne isOpen]
    exact Or.inl ⟨isOpen, rfl⟩

/-! ## Passing the check -/

/-- Whatever is done with the group passes the check. -/
def Accepts : OpenGroup → Prop
  | .instructions group =>
    (∀ declaration, PassesSlotCheck (catalog.define group declaration).result) ∧
      PassesSlotCheck (catalog.closeInstructions group).result
  | .settings group => PassesSlotCheck (catalog.closeSettings group).result

/-- Whatever is done with the group fails the check and changes nothing. -/
def Refuses : OpenGroup → Prop
  | .instructions group =>
    (∀ declaration, catalog.define group declaration =
        .fail (catalog.notOpen group.name) (catalog, group)) ∧
      catalog.closeInstructions group = .fail (catalog.notOpen group.name) catalog
  | .settings group =>
    catalog.closeSettings group = .fail (catalog.notOpen group.name) catalog

variable {catalog}

theorem accepts_of_eq {group : OpenGroup} (h : catalog.current = some group.slot) :
    catalog.Accepts group := by
  cases group with
  | instructions group =>
    refine ⟨fun declaration => ?_, ?_⟩
    · obtain ⟨other, -⟩ | ⟨-, ⟨-, fail⟩ | ⟨-, ⟨error, reason, fail⟩ | ⟨inst, -, ok⟩⟩⟩ :=
        catalog.define_cases group declaration
      · exact absurd h other
      · rw [fail]
        rfl
      · rw [fail]
        exact reason.passesSlotCheck _
      · rw [ok]
        rfl
    · obtain ⟨other, -⟩ | ⟨-, ok⟩ := catalog.closeInstructions_cases group
      · exact absurd h other
      · rw [ok]
        rfl
  | settings group =>
    change PassesSlotCheck _
    obtain ⟨other, -⟩ | ⟨-, ⟨_, -, -, fail⟩ | ⟨_, ok⟩⟩ := catalog.closeSettings_cases group
    · exact absurd h other
    · rw [fail]
      rfl
    · rw [ok]
      rfl

theorem refuses_of_ne {group : OpenGroup} (h : catalog.current ≠ some group.slot) :
    catalog.Refuses group := by
  cases group with
  | instructions group =>
    refine ⟨fun declaration => ?_, ?_⟩
    · obtain ⟨-, fail⟩ | ⟨same, -⟩ := catalog.define_cases group declaration
      · exact fail
      · exact absurd same h
    · obtain ⟨-, fail⟩ | ⟨same, -⟩ := catalog.closeInstructions_cases group
      · exact fail
      · exact absurd same h
  | settings group =>
    obtain ⟨-, fail⟩ | ⟨same, -⟩ := catalog.closeSettings_cases group
    · exact fail
    · exact absurd same h

theorem not_accepts_and_refuses (group : OpenGroup) :
    ¬ (catalog.Accepts group ∧ catalog.Refuses group) := by
  rintro ⟨accepts, refuses⟩
  cases group with
  | instructions group =>
    have passes := accepts.2
    rw [refuses.2] at passes
    cases passes
  | settings group =>
    change PassesSlotCheck _ at accepts
    rw [refuses] at accepts
    cases accepts

/-- A group passes the check just if the catalog's open group has the same sort and name. -/
theorem accepts_iff {group : OpenGroup} :
    catalog.Accepts group ↔ catalog.current = some group.slot := by
  refine ⟨fun accepts => ?_, accepts_of_eq⟩
  by_contra other
  exact not_accepts_and_refuses group ⟨accepts, refuses_of_ne other⟩

theorem refuses_iff {group : OpenGroup} :
    catalog.Refuses group ↔ catalog.current ≠ some group.slot := by
  refine ⟨fun refuses same => ?_, refuses_of_ne⟩
  exact not_accepts_and_refuses group ⟨accepts_of_eq same, refuses⟩

end Catalog

end TargetDescription
