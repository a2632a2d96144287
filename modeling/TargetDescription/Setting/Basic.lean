import TargetDescription.Setting.Path

/-!
# Settings

A setting is boolean, numeric or enumerated. In the byte vector that holds the settings of a group,
a boolean takes one bit and the others one byte each.

* `SettingDeclaration` is a setting as declared, `Setting` one with its place in the vector.
* `Setting.defaultByte` is what the default adds to the byte at that place.
-/

namespace TargetDescription

/-- The values of a setting and its default. -/
inductive SettingKind
  | bool (default : Bool)
  | num (default : UInt8)
  /-- The first value is the default. -/
  | enum (values : List String)
  deriving DecidableEq

/-- A setting as declared. -/
structure SettingDeclaration where
  name : String
  doc : String
  kind : SettingKind
  deriving DecidableEq

/-- Is the setting boolean? -/
def SettingDeclaration.isBool (declaration : SettingDeclaration) : Bool :=
  match declaration.kind with
  | .bool _ => true
  | _ => false

/-- A setting with its place: a byte, and a bit of it if the setting is boolean. -/
structure Setting extends SettingDeclaration where
  byteOffset : Nat
  bitOffset : Option (Fin 8)
  deriving DecidableEq

/-- The bit that belongs to a predicate of this number, within its byte. -/
def bitOfNumber (number : Nat) : Fin 8 :=
  Fin.ofNat 8 number

@[simp] theorem val_bitOfNumber (number : Nat) : (bitOfNumber number).val = number % 8 := rfl

/-- The byte in which only this bit is set. -/
def bitMask (bit : Fin 8) : UInt8 :=
  UInt8.ofBitVec (BitVec.twoPow 8 bit)

/-- The default in the setting's byte, with zeros in the bits of others. -/
def Setting.defaultByte (setting : Setting) : UInt8 :=
  match setting.kind, setting.bitOffset with
  | .bool true, some bit => bitMask bit
  | .bool _, _ => 0
  | .num default, _ => default
  | .enum _, _ => 0

end TargetDescription
