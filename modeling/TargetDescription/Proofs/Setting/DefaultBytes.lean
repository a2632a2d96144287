import Mathlib.Data.List.Basic
import Mathlib.Data.List.Induction
import TargetDescription.Setting.Group

/-!
# The default vector

If no two settings of a group share a bit, then writing the defaults one after the other leaves the
default of each in its place, and zeros elsewhere.

* `Setting.Occupies` says which bits belong to a setting.
* `SettingGroup.WellPlaced` says that the settings lie apart, inside the configured part.
* `SettingGroup.WellPlaced.bitAt_defaultBytes` reads the bits that belong to settings, and
  `SettingGroup.WellPlaced.bitAt_defaultBytes_eq_false` the others.
* `SettingGroup.HoldsDefaults` says that the vector can be read back, and
  `SettingGroup.WellPlaced.holdsDefaults` that it can if the settings lie apart.
-/

namespace TargetDescription

/-- A bit of a vector of bytes. -/
def bitAt (bytes : List UInt8) (byte : Nat) (bit : Fin 8) : Bool :=
  (bytes.getD byte 0).toBitVec.getLsbD bit

/-- Does the bit belong to the setting? A setting without a bit of its own has its whole byte. -/
def Setting.Occupies (setting : Setting) (byte : Nat) (bit : Fin 8) : Prop :=
  setting.byteOffset = byte ∧ (setting.bitOffset = none ∨ setting.bitOffset = some bit)

theorem Setting.Occupies.bit_eq {setting : Setting} {byte : Nat} {bit own : Fin 8}
    (h : setting.Occupies byte bit) (hown : setting.bitOffset = some own) : own = bit := by
  rcases h.2 with none | some
  · exact absurd (hown.symm.trans none) (Option.some_ne_none own)
  · exact Option.some.inj (hown.symm.trans some)

/-- The settings lie apart from each other, inside the configured part of the vector. Just the
boolean ones have a bit of their own. -/
structure SettingGroup.WellPlaced (group : SettingGroup) : Prop where
  bits : ∀ setting ∈ group.settings, setting.bitOffset.isSome = setting.isBool
  inside : ∀ setting ∈ group.settings, setting.byteOffset < group.settingsSize
  apart : ∀ (i j : Nat) (first second : Setting) (byte : Nat) (bit : Fin 8),
    group.settings[i]? = some first → group.settings[j]? = some second →
      first.Occupies byte bit → second.Occupies byte bit → i = j

/-- Each setting finds its default at its place in the default vector, and nothing else is set. The
vector reaches far enough whenever a setting is written. -/
structure SettingGroup.HoldsDefaults (group : SettingGroup) : Prop where
  length : group.defaultBytes.length = group.settingsSize
  inside : ∀ (before : List Setting) (setting : Setting) (after : List Setting),
    group.settings = before ++ setting :: after → setting.byteOffset <
      (before.foldl writeDefault (List.replicate group.settingsSize 0)).length
  num : ∀ setting ∈ group.settings, ∀ default, setting.kind = .num default →
    group.defaultBytes[setting.byteOffset]? = some default
  enum : ∀ setting ∈ group.settings, ∀ values, setting.kind = .enum values →
    group.defaultBytes[setting.byteOffset]? = some 0
  bool : ∀ setting ∈ group.settings, ∀ default, setting.kind = .bool default →
    ∃ bit, setting.bitOffset = some bit ∧
      bitAt group.defaultBytes setting.byteOffset bit = default
  others : ∀ byte bit, (∀ setting ∈ group.settings, ¬ setting.Occupies byte bit) →
    bitAt group.defaultBytes byte bit = false

/-! ## Writing one default -/

theorem getLsbD_bitMask (bit other : Fin 8) :
    (bitMask bit).toBitVec.getLsbD other = decide (bit = other) := by
  rw [bitMask, UInt8.toBitVec_ofBitVec, BitVec.getLsbD_twoPow]
  simp [Fin.ext_iff]

/-- A default only sets bits that belong to its setting. -/
theorem Setting.occupies_of_getLsbD_defaultByte {setting : Setting}
    (bits : setting.bitOffset.isSome = setting.isBool) {bit : Fin 8}
    (h : setting.defaultByte.toBitVec.getLsbD bit = true) :
    setting.Occupies setting.byteOffset bit := by
  refine ⟨rfl, ?_⟩
  cases hbit : setting.bitOffset with
  | none => exact Or.inl rfl
  | some own =>
    rw [hbit, Option.isSome_some, SettingDeclaration.isBool] at bits
    rw [Setting.defaultByte, hbit] at h
    cases hkind : setting.kind with
    | bool default =>
      cases default with
      | false => simp [hkind] at h
      | true =>
        simp only [hkind, getLsbD_bitMask, decide_eq_true_eq] at h
        exact Or.inr (congrArg some h)
    | num default => simp [hkind] at bits
    | enum values => simp [hkind] at bits

namespace SettingGroup

@[simp] theorem length_writeDefault (bytes : List UInt8) (setting : Setting) :
    (writeDefault bytes setting).length = bytes.length := by
  rw [writeDefault, List.length_modify]

@[simp] theorem length_foldl_writeDefault (settings : List Setting) (bytes : List UInt8) :
    (settings.foldl writeDefault bytes).length = bytes.length := by
  induction settings generalizing bytes with
  | nil => rfl
  | cons setting rest ih => rw [List.foldl_cons, ih, length_writeDefault]

theorem length_defaultBytes (group : SettingGroup) :
    group.defaultBytes.length = group.settingsSize := by
  rw [defaultBytes, length_foldl_writeDefault, List.length_replicate]

theorem bitAt_writeDefault_of_ne {bytes : List UInt8} {setting : Setting} {byte : Nat}
    (h : setting.byteOffset ≠ byte) (bit : Fin 8) :
    bitAt (writeDefault bytes setting) byte bit = bitAt bytes byte bit := by
  rw [bitAt, bitAt, List.getD_eq_getElem?_getD, List.getD_eq_getElem?_getD, writeDefault,
    List.getElem?_modify]
  simp [h]

theorem bitAt_writeDefault {bytes : List UInt8} {setting : Setting}
    (inside : setting.byteOffset < bytes.length) (bit : Fin 8) :
    bitAt (writeDefault bytes setting) setting.byteOffset bit =
      (setting.isBool && bitAt bytes setting.byteOffset bit ||
        setting.defaultByte.toBitVec.getLsbD bit) := by
  rw [bitAt, bitAt, List.getD_eq_getElem?_getD, List.getD_eq_getElem?_getD, writeDefault,
    List.getElem?_modify, List.getElem?_eq_getElem inside]
  cases bool : setting.isBool with
  | true => simp
  | false => simp

/-- A default that overwrites nothing adds its bits to those that are set. -/
theorem bitAt_writeDefault_eq_true_iff {bytes : List UInt8} {setting : Setting} {byte : Nat}
    {bit : Fin 8} (inside : setting.byteOffset < bytes.length)
    (kept : setting.byteOffset = byte → bitAt bytes byte bit = true → setting.isBool = true) :
    bitAt (writeDefault bytes setting) byte bit = true ↔
      bitAt bytes byte bit = true ∨
        setting.byteOffset = byte ∧ setting.defaultByte.toBitVec.getLsbD bit = true := by
  by_cases h : setting.byteOffset = byte
  · subst h
    rw [bitAt_writeDefault inside, Bool.or_eq_true, Bool.and_eq_true]
    constructor
    · rintro (⟨-, set⟩ | default)
      · exact Or.inl set
      · exact Or.inr ⟨rfl, default⟩
    · rintro (set | ⟨-, default⟩)
      · exact Or.inl ⟨kept rfl set, set⟩
      · exact Or.inr default
  · rw [bitAt_writeDefault_of_ne h]
    exact (or_iff_left fun here => h here.1).symm

/-! ## Writing all defaults -/

theorem bitAt_replicate_zero (size byte : Nat) (bit : Fin 8) :
    bitAt (List.replicate size 0) byte bit = false := by
  rw [bitAt, List.getD_eq_getElem?_getD, List.getElem?_replicate]
  split <;> simp

/-- If a setting that owns its byte is written before any other in this byte, then after the run
just those bits are set that some default sets. -/
theorem bitAt_foldl_writeDefault {settings : List Setting} {size : Nat}
    (inside : ∀ setting ∈ settings, setting.byteOffset < size)
    (apart : settings.Pairwise fun first second =>
      first.byteOffset = second.byteOffset → second.isBool = true) (byte : Nat) (bit : Fin 8) :
    bitAt (settings.foldl writeDefault (List.replicate size 0)) byte bit = true ↔
      ∃ setting ∈ settings, setting.byteOffset = byte ∧
        setting.defaultByte.toBitVec.getLsbD bit = true := by
  induction settings using List.reverseRecOn with
  | nil => simp [bitAt_replicate_zero]
  | append_singleton before setting ih =>
    obtain ⟨inside, last⟩ := List.forall_mem_append.1 inside
    obtain ⟨pairwise, -, behind⟩ := List.pairwise_append.1 apart
    have here : setting.byteOffset <
        (before.foldl writeDefault (List.replicate size 0)).length := by
      rw [length_foldl_writeDefault, List.length_replicate]
      exact last setting (List.mem_singleton_self setting)
    have ih := ih inside pairwise
    rw [List.foldl_append, List.foldl_cons, List.foldl_nil,
      bitAt_writeDefault_eq_true_iff here fun same set => ?kept, ih]
    case kept =>
      -- The bit was set for an earlier setting in the same byte, so this one is boolean.
      obtain ⟨other, mem, hother, -⟩ := ih.1 set
      exact behind other mem setting (List.mem_singleton_self setting) (hother.trans same.symm)
    simp [or_and_right, exists_or]

namespace WellPlaced

variable {group : SettingGroup}

/-- A setting that is not boolean finds its byte as it was. -/
theorem pairwise (placed : group.WellPlaced) :
    group.settings.Pairwise fun first second =>
      first.byteOffset = second.byteOffset → second.isBool = true := by
  rw [List.pairwise_iff_getElem]
  intro i j hi hj lt same
  by_contra other
  have whole : (group.settings[j]).bitOffset = none := by
    rw [← Option.not_isSome_iff_eq_none, placed.bits _ (List.getElem_mem hj)]
    exact other
  have shared : ∃ bit, (group.settings[i]).Occupies (group.settings[j]).byteOffset bit := by
    cases hbit : (group.settings[i]).bitOffset with
    | none => exact ⟨0, same, Or.inl hbit⟩
    | some bit => exact ⟨bit, same, Or.inr hbit⟩
  obtain ⟨bit, first⟩ := shared
  exact Nat.ne_of_lt lt (placed.apart i j _ _ _ bit (List.getElem?_eq_getElem hi)
    (List.getElem?_eq_getElem hj) first ⟨rfl, Or.inl whole⟩)

/-- In every bit that belongs to a setting stands the default of this setting. -/
theorem bitAt_defaultBytes (placed : group.WellPlaced) {setting : Setting}
    (mem : setting ∈ group.settings) {byte : Nat} {bit : Fin 8}
    (h : setting.Occupies byte bit) :
    bitAt group.defaultBytes byte bit = setting.defaultByte.toBitVec.getLsbD bit := by
  rw [Bool.eq_iff_iff, defaultBytes,
    bitAt_foldl_writeDefault placed.inside placed.pairwise byte bit]
  constructor
  · rintro ⟨other, hother, same, on⟩
    obtain ⟨i, hi⟩ := List.mem_iff_getElem?.1 mem
    obtain ⟨j, hj⟩ := List.mem_iff_getElem?.1 hother
    have own : other.Occupies byte bit :=
      same ▸ Setting.occupies_of_getLsbD_defaultByte (placed.bits other hother) on
    obtain rfl := placed.apart i j _ _ _ _ hi hj h own
    obtain rfl := Option.some.inj (hi.symm.trans hj)
    exact on
  · exact fun on => ⟨setting, mem, h.1, on⟩

/-- All other bits are zero. -/
theorem bitAt_defaultBytes_eq_false (placed : group.WellPlaced) {byte : Nat} {bit : Fin 8}
    (h : ∀ setting ∈ group.settings, ¬ setting.Occupies byte bit) :
    bitAt group.defaultBytes byte bit = false := by
  rw [← Bool.not_eq_true, defaultBytes,
    bitAt_foldl_writeDefault placed.inside placed.pairwise byte bit]
  rintro ⟨setting, mem, rfl, on⟩
  exact h setting mem (Setting.occupies_of_getLsbD_defaultByte (placed.bits setting mem) on)

/-- The byte of a setting that owns its byte is the default. -/
theorem getElem?_defaultBytes (placed : group.WellPlaced) {setting : Setting}
    (mem : setting ∈ group.settings) (whole : setting.bitOffset = none) :
    group.defaultBytes[setting.byteOffset]? = some setting.defaultByte := by
  have inside : setting.byteOffset < group.defaultBytes.length := by
    rw [length_defaultBytes]
    exact placed.inside setting mem
  rw [List.getElem?_eq_getElem inside, Option.some_inj, ← UInt8.toBitVec_inj]
  refine BitVec.eq_of_getLsbD_eq fun i hi => ?_
  have bit : bitAt group.defaultBytes setting.byteOffset ⟨i, hi⟩ =
      setting.defaultByte.toBitVec.getLsbD i :=
    placed.bitAt_defaultBytes mem ⟨rfl, Or.inl whole⟩
  rw [bitAt, List.getD_eq_getElem?_getD, List.getElem?_eq_getElem inside] at bit
  exact bit

theorem holdsDefaults (placed : group.WellPlaced) : group.HoldsDefaults where
  length := group.length_defaultBytes
  inside := by
    intro before setting after split
    rw [length_foldl_writeDefault, List.length_replicate]
    refine placed.inside setting ?_
    rw [split]
    exact List.mem_append_right before List.mem_cons_self
  num := by
    intro setting mem default kind
    have whole : setting.bitOffset = none := by
      rw [← Option.not_isSome_iff_eq_none, placed.bits setting mem]
      simp [SettingDeclaration.isBool, kind]
    rw [placed.getElem?_defaultBytes mem whole, Setting.defaultByte, kind]
  enum := by
    intro setting mem values kind
    have whole : setting.bitOffset = none := by
      rw [← Option.not_isSome_iff_eq_none, placed.bits setting mem]
      simp [SettingDeclaration.isBool, kind]
    rw [placed.getElem?_defaultBytes mem whole, Setting.defaultByte, kind]
  bool := by
    intro setting mem default kind
    have some : setting.bitOffset.isSome = true := by
      rw [placed.bits setting mem, SettingDeclaration.isBool, kind]
    obtain ⟨bit, hbit⟩ := Option.isSome_iff_exists.1 some
    refine ⟨bit, hbit, ?_⟩
    rw [placed.bitAt_defaultBytes mem ⟨rfl, Or.inr hbit⟩, Setting.defaultByte, kind, hbit]
    cases default with
    | true => simp [getLsbD_bitMask]
    | false => simp
  others := fun _ _ free => placed.bitAt_defaultBytes_eq_false free

end WellPlaced

end SettingGroup

end TargetDescription
