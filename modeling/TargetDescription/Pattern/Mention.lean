import TargetDescription.Pattern.Basic

/-!
# Mentions of variables

A pattern mentions variables by defining or reading them. What a pattern means for its variables
depends on the order of the mentions alone: statement by statement, in each the results first, and
then the reads from left to right through all nested applications.

* `Mention` is one occurrence, `Pattern.mentions` all of them in order.
-/

namespace TargetDescription

/-- One occurrence of a variable in a pattern. -/
inductive Mention
  | defines (name : String)
  | reads (name : String)
  deriving DecidableEq

/-- The variable that is mentioned. -/
def Mention.name : Mention → String
  | defines name => name
  | reads name => name

mutual

/-- The variables that an argument reads, from left to right. -/
def Expr.reads : Expr → List String
  | .var name => [name]
  | .imm _ => []
  | .apply _ args => Expr.readsAll args

/-- The variables that a list of arguments reads. -/
def Expr.readsAll : List Expr → List String
  | [] => []
  | arg :: rest => arg.reads ++ Expr.readsAll rest

end

/-- The variables that a statement reads. -/
def Statement.reads (statement : Statement) : List String :=
  Expr.readsAll statement.application.args

/-- The mentions of a statement. -/
def Statement.mentions (statement : Statement) : List Mention :=
  statement.results.map .defines ++ statement.reads.map .reads

/-- The mentions of a pattern. -/
def Pattern.mentions (pattern : Pattern) : List Mention :=
  pattern.statements.flatMap Statement.mentions

end TargetDescription
