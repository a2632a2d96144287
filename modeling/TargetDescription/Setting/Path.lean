import TargetDescription.Stamp

/-!
# Paths of settings groups

A settings group may extend a parent. Its path lists the labels from its own up to that of the
outermost ancestor; so one group is an ancestor of another, or that group itself, just if its path
is the end of the other's path.

* `GroupPath` is the path, `GroupPath.isAncestorOf` the relation.
* `BoolSetting` is the handle of a boolean setting: its group and its position there.
-/

namespace TargetDescription

/-- What marks one settings group; groups may share a name. -/
structure GroupLabel where
  stamp : Stamp
  name : String
  deriving DecidableEq

/-- The label of a group and those of its ancestors, the parent first. -/
structure GroupPath where
  label : GroupLabel
  ancestors : List GroupLabel
  deriving DecidableEq

namespace GroupPath

/-- The name of the group. -/
def name (path : GroupPath) : String :=
  path.label.name

/-- All labels from the group upwards. -/
def labels (path : GroupPath) : List GroupLabel :=
  path.label :: path.ancestors

/-- The name of the parent. -/
def parentName? (path : GroupPath) : Option String :=
  path.ancestors.head?.map (·.name)

/-- The path of a new group, below a parent if there is one. -/
def extend (parent : Option GroupPath) (stamp : Stamp) (name : String) : GroupPath :=
  ⟨⟨stamp, name⟩, match parent with
    | some parent => parent.labels
    | none => []⟩

/-- Is the first group the second one or an ancestor of it? -/
def isAncestorOf (a b : GroupPath) : Bool :=
  a.labels.isSuffixOf b.labels

theorem isAncestorOf_iff (a b : GroupPath) : a.isAncestorOf b = true ↔ a.labels <:+ b.labels :=
  List.isSuffixOf_iff_suffix

theorem isAncestorOf_refl (a : GroupPath) : a.isAncestorOf a = true :=
  (isAncestorOf_iff a a).2 (List.suffix_refl _)

theorem isAncestorOf_trans {a b c : GroupPath} (hab : a.isAncestorOf b = true)
    (hbc : b.isAncestorOf c = true) : a.isAncestorOf c = true :=
  (isAncestorOf_iff a c).2 (((isAncestorOf_iff a b).1 hab).trans ((isAncestorOf_iff b c).1 hbc))

end GroupPath

/-- The handle of a boolean setting: the `index`-th setting of its group. -/
structure BoolSetting where
  group : GroupPath
  index : Nat
  name : String
  deriving DecidableEq

end TargetDescription
