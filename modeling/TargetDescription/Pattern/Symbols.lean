import TargetDescription.Outcome
import TargetDescription.Pattern.Mention
import TargetDescription.Text.Padded

/-!
# Symbols of a transformation

A transformation replaces a source pattern by a destination pattern. The variables of both are
resolved to symbols; a symbol records which of the two patterns define it. Variables that are never
defined are the inputs.

* `Side` names the two patterns, `PatternSymbol` is a resolved variable.
* `SymbolTable.define` and `SymbolTable.read` take up one mention, `SymbolTable.resolve` a list.
-/

namespace TargetDescription

/-- The two patterns of a transformation. -/
inductive Side
  | source
  | destination
  deriving DecidableEq

/-- A variable with the patterns that define it. -/
structure PatternSymbol where
  name : String
  inSource : Bool := false
  inDestination : Bool := false
  deriving DecidableEq

namespace PatternSymbol

/-- Does this pattern define the variable? -/
def definedIn (symbol : PatternSymbol) : Side → Bool
  | .source => symbol.inSource
  | .destination => symbol.inDestination

/-- The variable, now also defined in this pattern. -/
def define (symbol : PatternSymbol) : Side → PatternSymbol
  | .source => { symbol with inSource := true }
  | .destination => { symbol with inDestination := true }

/-- Is the variable only read? -/
def isInput (symbol : PatternSymbol) : Bool :=
  !symbol.inSource && !symbol.inDestination

/-- Does the destination define the variable? -/
def isOutput (symbol : PatternSymbol) : Bool :=
  symbol.inDestination

/-- The defining patterns as a number: one for the source plus two for the destination. -/
def mask (symbol : PatternSymbol) : Nat :=
  symbol.inSource.toNat + 2 * symbol.inDestination.toNat

/-- The variable, with its mask unless it is an input. -/
def display (symbol : PatternSymbol) : String :=
  if symbol.isInput then "Var(" ++ symbol.name ++ ")"
  else "Var(" ++ symbol.name ++ ", d=" ++ Text.binaryPair symbol.mask ++ ")"

end PatternSymbol

/-- The symbols met so far; `inputs` are those first met as reads and `defs` the others, each in
the order of their first mentions. -/
structure SymbolTable where
  symbols : List PatternSymbol := []
  inputs : List String := []
  defs : List String := []
  deriving DecidableEq

namespace SymbolTable

/-- The symbol of a variable. -/
def find? (table : SymbolTable) (name : String) : Option PatternSymbol :=
  table.symbols.find? fun symbol => symbol.name == name

/-- The symbols with the one of this name defined on a side as well. -/
def markDefined (side : Side) (name : String) (symbols : List PatternSymbol) :
    List PatternSymbol :=
  symbols.map fun symbol => if symbol.name == name then symbol.define side else symbol

/-- Takes up a definition; each pattern may define a variable once. -/
def define (table : SymbolTable) (side : Side) (name : String) : Except Error SymbolTable :=
  match table.find? name with
  | some symbol =>
    if symbol.definedIn side then .error (.multiplyDefinedVariable name)
    else .ok { table with symbols := markDefined side name table.symbols }
  | none =>
    .ok
      { table with
        symbols := table.symbols ++ [PatternSymbol.define { name } side]
        defs := table.defs ++ [name] }

/-- Takes up a read; a variable that has a definition must have one in this pattern. -/
def read (table : SymbolTable) (side : Side) (name : String) : Except Error SymbolTable :=
  match table.find? name with
  | some symbol =>
    if !symbol.isInput && !symbol.definedIn side then .error (.variableRoleConflict name)
    else .ok table
  | none =>
    .ok { table with symbols := table.symbols ++ [{ name }], inputs := table.inputs ++ [name] }

/-- Takes up a mention. -/
def mention (table : SymbolTable) (side : Side) : Mention → Except Error SymbolTable
  | .defines name => table.define side name
  | .reads name => table.read side name

/-- Takes up mentions in order. -/
def resolve (table : SymbolTable) (side : Side) : List Mention → Except Error SymbolTable
  | [] => .ok table
  | first :: rest =>
    match table.mention side first with
    | .error error => .error error
    | .ok table => table.resolve side rest

end SymbolTable

end TargetDescription
