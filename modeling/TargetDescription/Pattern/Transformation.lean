import TargetDescription.Pattern.Symbols

/-!
# Transformations

A transformation is a source pattern, a destination pattern and the symbols of their variables. It
is a *legalization* if the source is one statement whose results the destination defines.

* `Transformation.make` resolves the variables of two patterns.
* `Transformation.verifyLegalization` checks that a transformation is a legalization.
* `TransformationGroup.legalize` collects legalizations.
-/

namespace TargetDescription

/-- A source pattern and what replaces it. -/
structure Transformation where
  source : Pattern
  destination : Pattern
  table : SymbolTable
  deriving DecidableEq

namespace Transformation

/-- The transformation between two patterns. Inputs must stay inputs to the end, and the source
must read all of them. -/
def make (source destination : Pattern) : Except Error Transformation :=
  match SymbolTable.resolve {} .source source.mentions with
  | .error error => .error error
  | .ok afterSource =>
    match afterSource.resolve .destination destination.mentions with
    | .error error => .error error
    | .ok table =>
      match (table.inputs.filterMap table.find?).find? fun symbol => !symbol.isInput with
      | some symbol => .error (.variableRoleConflict symbol.name)
      | none =>
        match table.inputs.drop afterSource.inputs.length with
        | [] => .ok ⟨source, destination, table⟩
        | extra => .error (.extraDestinationInput (", ".intercalate extra))

/-- The symbol of a variable. -/
def symbol? (transformation : Transformation) (name : String) : Option PatternSymbol :=
  transformation.table.find? name

/-- The variables that are only read, by first read. -/
def inputs (transformation : Transformation) : List PatternSymbol :=
  transformation.table.inputs.filterMap transformation.symbol?

/-- The variables that are defined, by first definition. -/
def defs (transformation : Transformation) : List PatternSymbol :=
  transformation.table.defs.filterMap transformation.symbol?

/-- The first of these variables that the destination does not define. -/
def undefinedOutput? (transformation : Transformation) (names : List String) : Option String :=
  names.find? fun name => !(transformation.symbol? name).any PatternSymbol.isOutput

/-- Checks that the source is one statement and that the destination defines its results. -/
def verifyLegalization (transformation : Transformation) : Except Error Unit :=
  match transformation.source.statements with
  | [statement] =>
    match transformation.undefinedOutput? statement.results with
    | some name => .error (.undefinedLegalizationOutput name)
    | none => .ok ()
  | statements => .error (.legalizationArityViolation statements.length)

/-- Variables and patterns as text. -/
def display (transformation : Transformation) : String :=
  let symbols (list : List PatternSymbol) : String :=
    "[" ++ ", ".intercalate (list.map PatternSymbol.display) ++ "]"
  let lines (pattern : Pattern) : String :=
    String.join (pattern.statements.map fun statement => "\n  " ++ statement.display)
  "XForm(inputs=" ++ symbols transformation.inputs ++ ", defs=" ++ symbols transformation.defs
    ++ "," ++ lines transformation.source ++ "\n=>" ++ lines transformation.destination ++ "\n)"

end Transformation

/-- Legalizations in the order in which they were added. -/
structure TransformationGroup where
  name : String
  doc : String
  transformations : List Transformation := []
  deriving DecidableEq

/-- Adds the legalization that replaces one statement by a pattern. -/
def TransformationGroup.legalize (group : TransformationGroup) (source : Statement)
    (destination : Pattern) : Outcome TransformationGroup Transformation :=
  match Transformation.make ⟨[source]⟩ destination with
  | .error error => .fail error group
  | .ok transformation =>
    match transformation.verifyLegalization with
    | .error error => .fail error group
    | .ok () =>
      .ok transformation { group with transformations := group.transformations ++ [transformation] }

end TargetDescription
