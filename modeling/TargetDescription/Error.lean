/-!
# Errors

Every reason for which a declaration is refused, with its wording.

* `Error` has one constructor per reason.
* `Error.category` is the name of the reason, `Error.message` the sentence shown to the author of
  the description.
-/

namespace TargetDescription

/-- Why an operation is refused. -/
inductive Error
  /-- A type of this name exists. -/
  | duplicateTypeName (name : String)
  /-- No type has this name. -/
  | unknownTypeName (name : String)
  /-- The scalar would get a number beyond the last one. -/
  | tooManyScalarTypes (name : String) (number : Nat)
  /-- No vector type has so many lanes. -/
  | invalidLaneCount (base : String) (lanes : Nat) (reason : String)
  /-- The type makes no sense. -/
  | invalidType (reason : String)
  /-- An operand kind of this name exists. -/
  | duplicateKindName (name : String)
  /-- Another format has the same signature. -/
  | duplicateFormatSignature (format existing : String)
  /-- No format fits these operands. -/
  | noMatchingFormat (signature : String)
  /-- The format has no such member. -/
  | unknownFormatField (format field : String)
  /-- The position that shall control the types holds no value. -/
  | invalidTypevarOperand (format : String) (index : Nat)
  /-- No variable can control the types of the instruction. -/
  | ambiguousControllingTypevar (inst reason : String)
  /-- An independent variable occurs on two inputs. -/
  | typevarReuseViolation (inst typevar : String)
  /-- A derived variable comes from another root than the controlling variable. -/
  | underivedTypevar (inst operand typevar ctrl : String)
  /-- The type of an output does not follow from the controlling variable. -/
  | outputTypevarMismatch (inst operand ctrl : String)
  /-- Type variables are left without a type. -/
  | unboundTypevar (inst missing : String)
  /-- The instruction has no type variables. -/
  | notPolymorphic (inst : String)
  /-- More types than type variables. -/
  | tooManyTypeArguments (inst : String) (given expected : Nat)
  /-- An instruction of this name exists. -/
  | duplicateInstruction (name : String)
  /-- An application has the wrong number of arguments. -/
  | applyArity (inst : String) (expected given : Nat)
  /-- An immediate stands where a value belongs. -/
  | invalidApplyArgument (inst operand : String)
  /-- The recipe is for instructions of another format. -/
  | formatRecipeMismatch (instFormat recipe recipeFormat : String)
  /-- The predicate is about something else than the expected format. -/
  | predicateContextMismatch (predicate expected : String)
  /-- No context serves both predicates. -/
  | incompatiblePredicates (left right : String)
  /-- The settings group cannot evaluate the predicate. -/
  | foreignPredicate (predicate group : String)
  /-- Another group is open. -/
  | groupAlreadyOpen (group current : String)
  /-- The group is not the open one. -/
  | groupNotOpen (group current : String)
  /-- The settings group has used this name. -/
  | duplicateSettingName (group name : String)
  /-- An enumerated setting without values. -/
  | emptyEnumSetting (group name : String)
  /-- The settings group has its layout. -/
  | layoutAlreadyPerformed (group : String)
  /-- The target is finished. -/
  | isaAlreadyFinished (isa : String)
  /-- A variable is read as an input and defined as well. -/
  | variableRoleConflict (name : String)
  /-- A variable is defined twice in one pattern. -/
  | multiplyDefinedVariable (name : String)
  /-- The destination reads variables that the source does not know. -/
  | extraDestinationInput (names : String)
  /-- A legalization needs exactly one source statement. -/
  | legalizationArityViolation (count : Nat)
  /-- The destination leaves a result of the source undefined. -/
  | undefinedLegalizationOutput (name : String)
  deriving DecidableEq

namespace Error

/-- The name of the reason. -/
def category : Error → String
  | duplicateTypeName .. => "DuplicateTypeName"
  | unknownTypeName .. => "UnknownTypeName"
  | tooManyScalarTypes .. => "TooManyScalarTypes"
  | invalidLaneCount .. => "InvalidLaneCount"
  | invalidType .. => "InvalidType"
  | duplicateKindName .. => "DuplicateKindName"
  | duplicateFormatSignature .. => "DuplicateFormatSignature"
  | noMatchingFormat .. => "NoMatchingFormat"
  | unknownFormatField .. => "UnknownFormatField"
  | invalidTypevarOperand .. => "InvalidTypevarOperand"
  | ambiguousControllingTypevar .. => "AmbiguousControllingTypevar"
  | typevarReuseViolation .. => "TypevarReuseViolation"
  | underivedTypevar .. => "UnderivedTypevar"
  | outputTypevarMismatch .. => "OutputTypevarMismatch"
  | unboundTypevar .. => "UnboundTypevar"
  | notPolymorphic .. => "NotPolymorphic"
  | tooManyTypeArguments .. => "TooManyTypeArguments"
  | duplicateInstruction .. => "DuplicateInstruction"
  | applyArity .. => "ApplyArity"
  | invalidApplyArgument .. => "InvalidApplyArgument"
  | formatRecipeMismatch .. => "FormatRecipeMismatch"
  | predicateContextMismatch .. => "PredicateContextMismatch"
  | incompatiblePredicates .. => "IncompatiblePredicates"
  | foreignPredicate .. => "ForeignPredicate"
  | groupAlreadyOpen .. => "GroupAlreadyOpen"
  | groupNotOpen .. => "GroupNotOpen"
  | duplicateSettingName .. => "DuplicateSettingName"
  | emptyEnumSetting .. => "EmptyEnumSetting"
  | layoutAlreadyPerformed .. => "LayoutAlreadyPerformed"
  | isaAlreadyFinished .. => "IsaAlreadyFinished"
  | variableRoleConflict .. => "VariableRoleConflict"
  | multiplyDefinedVariable .. => "MultiplyDefinedVariable"
  | extraDestinationInput .. => "ExtraDestinationInput"
  | legalizationArityViolation .. => "LegalizationArityViolation"
  | undefinedLegalizationOutput .. => "UndefinedLegalizationOutput"

/-- The sentence shown to the author of the description. -/
def message : Error → String
  | duplicateTypeName name => s!"Duplicate type name: {name}"
  | unknownTypeName name => s!"No type named '{name}'"
  | tooManyScalarTypes name number =>
    s!"Too many scalar types: '{name}' would be number {number}"
  | invalidLaneCount base lanes reason => s!"Invalid vector type {base}x{lanes}: {reason}"
  | invalidType reason => s!"Invalid type: {reason}"
  | duplicateKindName name => s!"Duplicate operand kind name: {name}"
  | duplicateFormatSignature format existing =>
    s!"Format '{format}' has the same signature as existing format '{existing}'"
  | noMatchingFormat signature => s!"No instruction format matches {signature}"
  | unknownFormatField format field => s!"{field} is not a member of format {format}"
  | invalidTypevarOperand format index =>
    s!"Format {format}: typevar_operand {index} must indicate a 'value' operand"
  | ambiguousControllingTypevar inst reason => s!"{inst}: {reason}"
  | typevarReuseViolation inst typevar =>
    s!"{inst}: type variable {typevar} can't be used more than once"
  | underivedTypevar inst operand typevar ctrl =>
    s!"{inst}: {operand}: type variable {typevar} must be derived from {ctrl}"
  | outputTypevarMismatch inst operand ctrl =>
    s!"{inst}: type variable in output {operand} not derived from {ctrl}"
  | unboundTypevar inst missing => s!"Unbound typevar {missing} in {inst}"
  | notPolymorphic inst => s!"{inst} is not polymorphic and can't be bound"
  | tooManyTypeArguments inst given expected =>
    s!"Too many type arguments for {inst}: {given} given, {expected} expected"
  | duplicateInstruction name => s!"Duplicate instruction: {name}"
  | applyArity inst expected given => s!"{inst} takes {expected} arguments, {given} given"
  | invalidApplyArgument inst operand =>
    s!"{inst}: value argument {operand} must be a variable or an instruction"
  | formatRecipeMismatch instFormat recipe recipeFormat =>
    s!"Format {instFormat} must match recipe {recipe}: {recipeFormat}"
  | predicateContextMismatch predicate expected =>
    s!"Predicate {predicate} is not evaluable in {expected}"
  | incompatiblePredicates left right =>
    s!"Can't combine predicates {left} and {right}: incompatible contexts"
  | foreignPredicate predicate group =>
    s!"Predicate {predicate} does not belong to settings group {group}"
  | groupAlreadyOpen group current => s!"Can't open {group} since {current} is already open"
  | groupNotOpen group current =>
    s!"{group} is not the open group, the open group is {current}"
  | duplicateSettingName group name => s!"Duplicate setting {group}.{name}"
  | emptyEnumSetting group name => s!"Enum setting {group}.{name} must have at least one value"
  | layoutAlreadyPerformed group => s!"Settings group {group} has already been laid out"
  | isaAlreadyFinished isa => s!"Target ISA {isa} has already been finished"
  | variableRoleConflict name => s!"'{name}' used as both input and def"
  | multiplyDefinedVariable name => s!"'{name}' multiply defined"
  | extraDestinationInput names => s!"extra inputs in dst RTL: {names}"
  | legalizationArityViolation count =>
    s!"Legalize needs single instruction, source pattern has {count}"
  | undefinedLegalizationOutput name => s!"{name} not defined in dest pattern"

end Error

end TargetDescription
