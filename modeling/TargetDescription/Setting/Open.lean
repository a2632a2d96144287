import TargetDescription.Predicate.Basic
import TargetDescription.Setting.Basic

/-!
# Open settings groups

While a settings group is open it takes settings and named predicates. Each of them first claims its
name, and a name can be claimed once.

* `OpenSettingGroup` is the group, `OpenSettingGroup.claimName` claims a name.
* `boolSetting`, `numSetting`, `enumSetting` and `namedPredicate` are the declarations.
-/

namespace TargetDescription

/-- A settings group that still takes declarations. -/
structure OpenSettingGroup where
  path : GroupPath
  declarations : List SettingDeclaration := []
  namedPredicates : List (String × Predicate) := []
  claimed : List String := []
  deriving DecidableEq

namespace OpenSettingGroup

/-- The name of the group. -/
def name (group : OpenSettingGroup) : String :=
  group.path.name

/-- Claims a name that nothing in the group has claimed yet. -/
def claimName (group : OpenSettingGroup) (name : String) : Outcome OpenSettingGroup Unit :=
  if name ∈ group.claimed then
    .fail (.duplicateSettingName group.name name) group
  else
    .ok () { group with claimed := group.claimed ++ [name] }

/-- Declares a setting and gives its position. -/
def declare (group : OpenSettingGroup) (name doc : String) (kind : SettingKind) :
    Outcome OpenSettingGroup Nat :=
  (group.claimName name).andThen fun _ group =>
    .ok group.declarations.length
      { group with declarations := group.declarations ++ [⟨name, doc, kind⟩] }

/-- Declares a boolean setting and gives its handle. -/
def boolSetting (group : OpenSettingGroup) (name doc : String) (default : Bool) :
    Outcome OpenSettingGroup BoolSetting :=
  (group.declare name doc (.bool default)).map fun index => ⟨group.path, index, name⟩

/-- Declares a numeric setting. -/
def numSetting (group : OpenSettingGroup) (name doc : String) (default : UInt8) :
    Outcome OpenSettingGroup Unit :=
  (group.declare name doc (.num default)).map fun _ => ()

/-- Declares an enumerated setting, which needs at least one value. -/
def enumSetting (group : OpenSettingGroup) (name doc : String) (values : List String) :
    Outcome OpenSettingGroup Unit :=
  if values.isEmpty then
    .fail (.emptyEnumSetting group.name name) group
  else
    (group.declare name doc (.enum values)).map fun _ => ()

/-- Declares a name for a predicate over the settings of the group and its ancestors. -/
def namedPredicate (group : OpenSettingGroup) (name : String) (predicate : Predicate) :
    Outcome OpenSettingGroup Unit :=
  (group.claimName name).andThen fun _ group =>
    .ok () { group with namedPredicates := group.namedPredicates ++ [(name, predicate)] }

end OpenSettingGroup

end TargetDescription
