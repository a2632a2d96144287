import TargetDescription.Numbering
import TargetDescription.Predicate.Basic
import TargetDescription.Setting.Basic

/-!
# Settings groups

A closed settings group is laid out as a vector of bytes: first the numeric and enumerated settings,
a byte each, then one bit for every numbered predicate. The boolean settings are the first of these
predicates; others follow as they are needed, so the vector may grow beyond the configured part.

* `SettingGroup` is the group with its layout.
* `SettingGroup.numberPredicate` makes sure that a predicate has a bit.
* `SettingGroup.defaultBytes` is the configured part of the vector by default.
-/

namespace TargetDescription

/-- A settings group with its layout. -/
structure SettingGroup where
  path : GroupPath
  settings : List Setting
  namedPredicates : List (String × Predicate)
  numbering : Numbering Predicate
  booleanOffset : Nat
  settingsSize : Nat
  deriving DecidableEq

namespace SettingGroup

/-- The name of the group. -/
def name (group : SettingGroup) : String :=
  group.path.name

/-- The setting of this name. -/
def setting? (group : SettingGroup) (name : String) : Option Setting :=
  group.settings.find? fun setting => setting.name == name

/-- The handle of the boolean setting of this name. -/
def boolSetting? (group : SettingGroup) (name : String) : Option BoolSetting :=
  (group.settings.findIdx? fun setting => setting.name == name && setting.isBool).map
    fun index => ⟨group.path, index, name⟩

/-- The bytes that hold all settings and all numbered predicates. -/
def byteSize (group : SettingGroup) : Nat :=
  group.booleanOffset + (group.numbering.size + 7) / 8

/-- Can the group evaluate predicates of this context? It can if they are about its own settings or
those of an ancestor. -/
def serves (group : SettingGroup) : PredicateContext → Bool
  | .settings path => path.isAncestorOf group.path
  | .format _ => false

/-- Checks that the group can evaluate a predicate. -/
def checkPredicate (group : SettingGroup) (predicate : Predicate) : Except Error Unit :=
  if group.serves predicate.context then .ok ()
  else .error (.foreignPredicate predicate.display group.name)

/-- Checks predicates in order. -/
def checkPredicates (group : SettingGroup) : List Predicate → Except Error Unit
  | [] => .ok ()
  | predicate :: rest =>
    match group.checkPredicate predicate with
    | .error error => .error error
    | .ok () => group.checkPredicates rest

/-- The number of a predicate, which is that of its bit from the first boolean setting on. -/
def predicateNumber? (group : SettingGroup) (predicate : Predicate) : Option Nat :=
  group.numbering.number? predicate

/-- The number of a predicate, a new one if it has none. -/
def numberPredicate (group : SettingGroup) (predicate : Predicate) : Outcome SettingGroup Nat :=
  match group.predicateNumber? predicate with
  | some number => .ok number group
  | none =>
    match group.checkPredicate predicate with
    | .error error => .fail error group
    | .ok () => .ok group.numbering.size { group with numbering := group.numbering.add predicate }

/-- Numbers predicates in order, up to the first that the group cannot evaluate. -/
def numberPredicates (group : SettingGroup) : List Predicate → Outcome SettingGroup Unit
  | [] => .ok () group
  | predicate :: rest =>
    (group.numberPredicate predicate).andThen fun _ group => group.numberPredicates rest

/-- A group is laid out once, when it is closed; asking for it again is an error. -/
def layOut (group : SettingGroup) : Outcome SettingGroup Unit :=
  .fail (.layoutAlreadyPerformed group.name) group

/-- Writes the default of a setting: a boolean joins its byte, any other setting owns it. -/
def writeDefault (bytes : List UInt8) (setting : Setting) : List UInt8 :=
  bytes.modify setting.byteOffset fun byte =>
    if setting.isBool then byte ||| setting.defaultByte else setting.defaultByte

/-- The configured part of the vector, by default. -/
def defaultBytes (group : SettingGroup) : List UInt8 :=
  group.settings.foldl writeDefault (List.replicate group.settingsSize 0)

end SettingGroup

end TargetDescription
