import TargetDescription.Stamp

/-!
# Type variables

A type variable stands for a type that is fixed when an instruction is used. It is *free*, or it is
*derived* from another variable by a function on types, such as the type of the lanes. Each
variable derives in the end from one free variable, its root.

* `TypeVar` is the type, `TypeFunction` the functions.
* `TypeVar.root` is the free variable behind a variable.
-/

namespace TargetDescription

/-- The functions that derive one type from another. -/
inductive TypeFunction
  | laneOf
  | asBool
  | halfWidth
  | doubleWidth
  deriving DecidableEq

/-- The name of the function. -/
def TypeFunction.name : TypeFunction → String
  | laneOf => "lane_of"
  | asBool => "as_bool"
  | halfWidth => "half_width"
  | doubleWidth => "double_width"

/-- A type variable. The stamp tells apart variables that are declared or derived twice alike. -/
inductive TypeVar
  | free (stamp : Stamp) (name doc : String)
  | derived (stamp : Stamp) (base : TypeVar) (function : TypeFunction)
  deriving DecidableEq

namespace TypeVar

/-- The declared name, or the function applied to the name of the base. -/
def name : TypeVar → String
  | free _ name _ => name
  | derived _ base function => function.name ++ "(" ++ base.name ++ ")"

/-- The description; derived variables have none of their own. -/
def doc : TypeVar → String
  | free _ _ doc => doc
  | derived .. => ""

/-- The variable and the function that this one comes from. -/
def derivedFrom? : TypeVar → Option (TypeVar × TypeFunction)
  | free .. => none
  | derived _ base function => some (base, function)

/-- Is the variable free? -/
def isFree : TypeVar → Bool
  | free .. => true
  | derived .. => false

/-- The free variable that determines this one. -/
def root : TypeVar → TypeVar
  | free stamp name doc => free stamp name doc
  | derived _ base _ => base.root

@[simp] theorem isFree_root (v : TypeVar) : v.root.isFree = true := by
  induction v with
  | free stamp name doc => rfl
  | derived stamp base function ih => exact ih

@[simp] theorem root_eq_self_iff (v : TypeVar) : v.root = v ↔ v.isFree = true := by
  cases v with
  | free stamp name doc => simp [root, isFree]
  | derived stamp base function =>
    simp only [isFree, Bool.false_eq_true, iff_false]
    intro h
    have : (derived stamp base function).root.isFree = true := isFree_root _
    rw [h] at this
    exact Bool.noConfusion this

end TypeVar

end TargetDescription
