import TargetDescription.Encoding.Basic
import TargetDescription.Instruction.Group
import TargetDescription.Setting.Group

/-!
# Targets

A target brings together instruction groups, a settings group and the modes with their encodings.
Finishing it numbers the recipes and field predicates in use, each by first use, and gives every
settings predicate in use, and every leaf of one, a bit in the settings group.

* `Target` is the type, `Target.addMode` and `Target.finish` the operations.
* `Target.settingPredicates` are the predicates that finishing must number.
-/

namespace TargetDescription

/-- The numbers that finishing gives. -/
structure TargetNumbering where
  recipes : Numbering Recipe
  fieldPredicates : Numbering Predicate
  deriving DecidableEq

/-- The description of a target. -/
structure Target where
  name : String
  groups : List InstructionGroup
  settings : SettingGroup
  modes : List CpuMode := []
  numbering : Option TargetNumbering := none
  deriving DecidableEq

namespace Target

/-- Is the target finished? -/
def isFinished (target : Target) : Bool :=
  target.numbering.isSome

/-- The encodings of all modes, mode by mode. -/
def encodings (target : Target) : List Encoding :=
  target.modes.flatMap (·.encodings)

/-- The settings predicates in use, each followed by its leaves. -/
def settingPredicates (target : Target) : List Predicate :=
  (target.encodings.filterMap (·.settingPredicate)).flatMap fun p => p :: p.leafs.map .leaf

/-- The recipes in use, by first use; none before the target is finished. -/
def recipes (target : Target) : List Recipe :=
  match target.numbering with
  | some numbering => numbering.recipes.items
  | none => []

/-- The field predicates in use, by first use; none before the target is finished. -/
def fieldPredicates (target : Target) : List Predicate :=
  match target.numbering with
  | some numbering => numbering.fieldPredicates.items
  | none => []

/-- The number of a recipe. -/
def recipeNumber? (target : Target) (recipe : Recipe) : Option Nat :=
  target.numbering.bind fun numbering => numbering.recipes.number? recipe

/-- The number of a field predicate. -/
def fieldPredicateNumber? (target : Target) (predicate : Predicate) : Option Nat :=
  target.numbering.bind fun numbering => numbering.fieldPredicates.number? predicate

/-- Adds a mode to an unfinished target. -/
def addMode (target : Target) (mode : CpuMode) : Outcome Target Unit :=
  match target.numbering with
  | some _ => .fail (.isaAlreadyFinished target.name) target
  | none => .ok () { target with modes := target.modes ++ [mode] }

/-- Finishes an unfinished target. All settings predicates are checked before any is numbered. -/
def finish (target : Target) : Outcome Target Unit :=
  match target.numbering with
  | some _ => .fail (.isaAlreadyFinished target.name) target
  | none =>
    match target.settings.checkPredicates target.settingPredicates with
    | .error error => .fail error target
    | .ok () =>
      let numbered := target.settings.numberPredicates target.settingPredicates
      (numbered.inside fun settings => { target with settings }).andThen fun _ target =>
        .ok ()
          { target with
            numbering := some
              { recipes := Numbering.ofList (target.encodings.map (·.recipe))
                fieldPredicates :=
                  Numbering.ofList (target.encodings.filterMap (·.fieldPredicate)) } }

end Target

end TargetDescription
