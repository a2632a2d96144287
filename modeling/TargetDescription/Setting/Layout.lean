import TargetDescription.Setting.Group
import TargetDescription.Setting.Open

/-!
# Layout of settings groups

Closing a settings group fixes the place of every setting and numbers its predicates. The numeric
and enumerated settings get their bytes first. Then the boolean settings are numbered as predicates,
and the number decides which bit a setting gets. The named predicates are numbered last.

* `placeBytes` gives bytes to the settings that are not boolean.
* `SettingGroup.placeBits` numbers the boolean settings and gives them their bits.
* `OpenSettingGroup.close` does all of it; it fails if the group cannot evaluate a named predicate.
-/

namespace TargetDescription

/-- Places the settings that are not boolean in order of declaration, from byte `byte` on, and gives
the byte behind them. The boolean settings get no place yet. -/
def placeBytes (byte : Nat) : List SettingDeclaration → List Setting × Nat
  | [] => ([], byte)
  | declaration :: rest =>
    if declaration.isBool then
      let (settings, booleanOffset) := placeBytes byte rest
      (⟨declaration, 0, none⟩ :: settings, booleanOffset)
    else
      let (settings, booleanOffset) := placeBytes (byte + 1) rest
      (⟨declaration, byte, none⟩ :: settings, booleanOffset)

/-- Numbers the boolean ones of settings that start at position `index`, and places each at the bit
of its number. -/
def SettingGroup.placeBits (group : SettingGroup) (index : Nat) :
    List Setting → Outcome SettingGroup (List Setting)
  | [] => .ok [] group
  | setting :: rest =>
    if setting.isBool then
      (group.numberPredicate (.ofSetting ⟨group.path, index, setting.name⟩)).andThen
        fun number group =>
          (group.placeBits (index + 1) rest).map fun settings =>
            { setting with
              byteOffset := group.booleanOffset + number / 8
              bitOffset := some (bitOfNumber number) } :: settings
    else
      (group.placeBits (index + 1) rest).map fun settings => setting :: settings

namespace OpenSettingGroup

/-- The group with all its settings placed and its predicates numbered. The configured part ends
with the byte of the last boolean setting; the bits of the named predicates may lie behind it. -/
def layOut (group : OpenSettingGroup) : Outcome SettingGroup Unit :=
  let (settings, booleanOffset) := placeBytes 0 group.declarations
  let unnumbered : SettingGroup :=
    { path := group.path
      settings
      namedPredicates := group.namedPredicates
      numbering := Numbering.empty
      booleanOffset
      settingsSize := 0 }
  (unnumbered.placeBits 0 settings).andThen fun settings placed =>
    SettingGroup.numberPredicates { placed with settings, settingsSize := placed.byteSize }
      (group.namedPredicates.map (·.2))

/-- The closed group. -/
def close (group : OpenSettingGroup) : Except Error SettingGroup :=
  match group.layOut.result with
  | .error error => .error error
  | .ok () => .ok group.layOut.state

end OpenSettingGroup

end TargetDescription
