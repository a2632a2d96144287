import TargetDescription.Proofs.Setting.DefaultBytes
import TargetDescription.Proofs.Setting.Placement

/-!
# The layout of closed groups

The settings of a closed group lie one behind the other: a byte for each numeric and enumerated
setting, then a bit for each boolean one, at the place of its predicate number. So they lie apart,
and the default vector can be read back.

* `OpenSettingGroup.wellPlaced_placed` shows that the settings lie apart and inside the vector.
* `close_lays_out` is the main result.
-/

namespace TargetDescription

/-! ## The order of places -/

section Count

variable {declarations : List SettingDeclaration} {p : SettingDeclaration → Bool} {i j : Nat}
  {first second : SettingDeclaration}

/-- What is counted before a position grows at every position that counts. -/
theorem countP_take_lt (h : declarations[i]? = some first) (counts : p first = true) (lt : i < j) :
    (declarations.take i).countP p < (declarations.take j).countP p := by
  have next : (declarations.take (i + 1)).countP p = (declarations.take i).countP p + 1 := by
    rw [List.take_add_one, h, List.countP_append]
    simp [counts]
  calc (declarations.take i).countP p
      < (declarations.take (i + 1)).countP p := next ▸ Nat.lt_succ_self _
    _ ≤ (declarations.take j).countP p := (List.take_sublist_take_left lt).countP_le

theorem countP_take_lt_countP (h : declarations[i]? = some first) (counts : p first = true) :
    (declarations.take i).countP p < declarations.countP p := by
  obtain ⟨lt, -⟩ := List.getElem?_eq_some_iff.1 h
  have before := countP_take_lt h counts lt
  rwa [List.take_length] at before

/-- Different positions that count have different counts. -/
theorem eq_of_countP_take_eq (hi : declarations[i]? = some first) (ci : p first = true)
    (hj : declarations[j]? = some second) (cj : p second = true)
    (h : (declarations.take i).countP p = (declarations.take j).countP p) : i = j := by
  rcases Nat.lt_trichotomy i j with lt | eq | gt
  · exact absurd h (Nat.ne_of_lt (countP_take_lt hi ci lt))
  · exact eq
  · exact absurd h.symm (Nat.ne_of_lt (countP_take_lt hj cj gt))

end Count

namespace SettingDeclaration

variable {declaration : SettingDeclaration} {booleanOffset byte bit : Nat}

@[simp] theorem toSettingDeclaration_placedAt :
    (declaration.placedAt booleanOffset byte bit).toSettingDeclaration = declaration := by
  rw [placedAt]
  split <;> rfl

theorem placedAt_of_bool (bool : declaration.isBool = true) :
    declaration.placedAt booleanOffset byte bit =
      ⟨declaration, booleanOffset + bit / 8, some (bitOfNumber bit)⟩ :=
  if_pos bool

theorem placedAt_of_not_bool (other : ¬ declaration.isBool = true) :
    declaration.placedAt booleanOffset byte bit = ⟨declaration, byte, none⟩ :=
  if_neg other

end SettingDeclaration

namespace OpenSettingGroup

variable (group : OpenSettingGroup)

theorem getElem?_settings_placed (i : Nat) :
    group.placed.settings[i]? = group.declarations[i]?.map fun declaration =>
      declaration.placedAt group.placed.booleanOffset (bytesBefore group.declarations i)
        (boolsBefore group.declarations i) :=
  List.getElem?_mapIdx

theorem exists_of_getElem?_settings_placed {i : Nat} {setting : Setting}
    (h : group.placed.settings[i]? = some setting) :
    group.declarations[i]? = some setting.toSettingDeclaration ∧
      setting = setting.placedAt group.placed.booleanOffset (bytesBefore group.declarations i)
        (boolsBefore group.declarations i) := by
  rw [getElem?_settings_placed, Option.map_eq_some_iff] at h
  obtain ⟨declaration, h, rfl⟩ := h
  rw [SettingDeclaration.toSettingDeclaration_placedAt]
  exact ⟨h, rfl⟩

/-- A boolean setting lies behind the bytes, at its number. -/
theorem place_of_bool {i : Nat} {setting : Setting}
    (h : group.placed.settings[i]? = some setting) (bool : setting.isBool = true) :
    setting.byteOffset =
        group.placed.booleanOffset + boolsBefore group.declarations i / 8 ∧
      setting.bitOffset = some (bitOfNumber (boolsBefore group.declarations i)) ∧
      boolsBefore group.declarations i < group.declarations.countP (·.isBool) := by
  obtain ⟨hdeclaration, heq⟩ := group.exists_of_getElem?_settings_placed h
  rw [SettingDeclaration.placedAt_of_bool bool] at heq
  exact ⟨congrArg Setting.byteOffset heq, congrArg Setting.bitOffset heq,
    countP_take_lt_countP hdeclaration bool⟩

theorem place_of_not_bool {i : Nat} {setting : Setting}
    (h : group.placed.settings[i]? = some setting) (other : ¬ setting.isBool = true) :
    setting.byteOffset = bytesBefore group.declarations i ∧ setting.bitOffset = none ∧
      bytesBefore group.declarations i < group.placed.booleanOffset := by
  obtain ⟨hdeclaration, heq⟩ := group.exists_of_getElem?_settings_placed h
  rw [SettingDeclaration.placedAt_of_not_bool other] at heq
  exact ⟨congrArg Setting.byteOffset heq, congrArg Setting.bitOffset heq,
    countP_take_lt_countP hdeclaration (by simpa using other)⟩

theorem wellPlaced_placed : group.placed.WellPlaced where
  bits := by
    intro setting mem
    obtain ⟨i, h⟩ := List.mem_iff_getElem?.1 mem
    by_cases bool : setting.isBool = true
    · rw [(group.place_of_bool h bool).2.1, bool, Option.isSome_some]
    · rw [(group.place_of_not_bool h bool).2.1, Option.isSome_none]
      exact (Bool.not_eq_true _ ▸ bool).symm
  inside := by
    intro setting mem
    obtain ⟨i, h⟩ := List.mem_iff_getElem?.1 mem
    have size : group.placed.settingsSize =
      group.placed.booleanOffset + (group.declarations.countP (·.isBool) + 7) / 8 := rfl
    by_cases bool : setting.isBool = true
    · obtain ⟨offset, -, lt⟩ := group.place_of_bool h bool
      omega
    · obtain ⟨offset, -, lt⟩ := group.place_of_not_bool h bool
      omega
  apart := by
    intro i j first second byte bit hi hj ofFirst ofSecond
    obtain ⟨di, -⟩ := group.exists_of_getElem?_settings_placed hi
    obtain ⟨dj, -⟩ := group.exists_of_getElem?_settings_placed hj
    have bytes := ofFirst.1.trans ofSecond.1.symm
    by_cases bi : first.isBool = true
    · obtain ⟨oi, ti, -⟩ := group.place_of_bool hi bi
      by_cases bj : second.isBool = true
      · obtain ⟨oj, tj, -⟩ := group.place_of_bool hj bj
        -- The byte is the quotient and the bit the remainder of the number.
        have bits := Fin.val_eq_of_eq ((ofFirst.bit_eq ti).trans (ofSecond.bit_eq tj).symm)
        rw [val_bitOfNumber, val_bitOfNumber] at bits
        have numbers : boolsBefore group.declarations i = boolsBefore group.declarations j := by
          omega
        exact eq_of_countP_take_eq di bi dj bj numbers
      · obtain ⟨oj, -, lt⟩ := group.place_of_not_bool hj bj
        omega
    · obtain ⟨oi, -, lt⟩ := group.place_of_not_bool hi bi
      by_cases bj : second.isBool = true
      · obtain ⟨oj, -⟩ := group.place_of_bool hj bj
        omega
      · obtain ⟨oj, -⟩ := group.place_of_not_bool hj bj
        exact eq_of_countP_take_eq di (by simpa using bi) dj (by simpa using bj)
          (oi.symm.trans (bytes.trans oj))

theorem map_settings_placed :
    group.placed.settings.map (·.toSettingDeclaration) = group.declarations := by
  refine List.ext_getElem? fun i => ?_
  rw [List.getElem?_map, getElem?_settings_placed, Option.map_map]
  simp [Function.comp_def]

/-- The handle of a boolean setting has the number of boolean settings before it. -/
theorem predicateNumber?_placed {i : Nat} {setting : Setting}
    (h : group.placed.settings[i]? = some setting) (bool : setting.isBool = true) :
    group.placed.predicateNumber? (.ofSetting ⟨group.path, i, setting.name⟩) =
      some (boolsBefore group.declarations i) := by
  obtain ⟨hdeclaration, -⟩ := group.exists_of_getElem?_settings_placed h
  rw [SettingGroup.predicateNumber?, Numbering.number?_eq_some_iff, items_placed,
    List.getElem?_map, getElem?_boolHandles hdeclaration bool, Option.map_some, Nat.zero_add]

end OpenSettingGroup

/-! ## Closed groups -/

/-- The settings are those declared. One that is not boolean lies behind those of its sort before
it; a boolean one has as its number how many boolean ones are before it, and lies at the bit of this
number behind all bytes. -/
structure SettingGroup.Places (group : SettingGroup) (declarations : List SettingDeclaration) :
    Prop where
  declared : group.settings.map (·.toSettingDeclaration) = declarations
  booleanOffset : group.booleanOffset = declarations.countP (!·.isBool)
  settingsSize : group.settingsSize =
    group.booleanOffset + (declarations.countP (·.isBool) + 7) / 8
  bytes : ∀ (i : Nat) (setting : Setting), group.settings[i]? = some setting →
    setting.isBool = false →
      setting.byteOffset = bytesBefore declarations i ∧ setting.bitOffset = none
  bits : ∀ (i : Nat) (setting : Setting), group.settings[i]? = some setting →
    setting.isBool = true →
      group.predicateNumber? (.ofSetting ⟨group.path, i, setting.name⟩) =
          some (boolsBefore declarations i) ∧
        setting.byteOffset = group.booleanOffset + boolsBefore declarations i / 8 ∧
        setting.bitOffset.map Fin.val = some (boolsBefore declarations i % 8)

/-- **Closing a group lays it out.** However the group was built, its settings have the places that
their order of declaration determines; they share no bit, they lie inside the configured part of the
vector, and the default vector holds their defaults and nothing else. -/
theorem close_lays_out (group : OpenSettingGroup) (closed : SettingGroup)
    (h : group.close = .ok closed) :
    closed.Places group.declarations ∧ closed.WellPlaced ∧ closed.HoldsDefaults := by
  obtain rfl := group.eq_of_close h
  have wellPlaced : SettingGroup.WellPlaced { group.placed with
      numbering := group.placed.numbering.addAll (group.namedPredicates.map (·.2)) } :=
    ⟨group.wellPlaced_placed.bits, group.wellPlaced_placed.inside, group.wellPlaced_placed.apart⟩
  refine ⟨?_, wellPlaced, wellPlaced.holdsDefaults⟩
  constructor
  case declared => exact group.map_settings_placed
  case booleanOffset => rfl
  case settingsSize => rfl
  case bytes =>
    intro i setting hsetting other
    obtain ⟨byte, bit, -⟩ := group.place_of_not_bool hsetting (by simp [other])
    exact ⟨byte, bit⟩
  case bits =>
    intro i setting hsetting bool
    obtain ⟨byte, bit, -⟩ := group.place_of_bool hsetting bool
    refine ⟨Numbering.number?_addAll (group.predicateNumber?_placed hsetting bool) _, byte, ?_⟩
    rw [bit, Option.map_some, val_bitOfNumber]

/-- Settings of all sorts, the boolean ones first and last. -/
def mixedGroup : OpenSettingGroup :=
  { path := ⟨⟨⟨0⟩, "mixed"⟩, []⟩
    declarations :=
      [⟨"fast", "", .bool true⟩, ⟨"level", "", .num 5⟩, ⟨"mode", "", .enum ["off", "on"]⟩,
        ⟨"safe", "", .bool false⟩]
    claimed := ["fast", "level", "mode", "safe"] }

theorem close_lays_out_mixedGroup :
    ∃ closed, mixedGroup.close = .ok closed ∧ closed.booleanOffset = 2 ∧
      closed.settingsSize = 3 ∧ closed.defaultBytes.length = 3 := by
  have h : ∃ closed, mixedGroup.close = .ok closed := ⟨_, rfl⟩
  obtain ⟨closed, h⟩ := h
  obtain ⟨places, -, defaults⟩ := close_lays_out mixedGroup closed h
  have offset : closed.booleanOffset = 2 := places.booleanOffset
  have size : closed.settingsSize = 3 := by
    rw [places.settingsSize, offset]
    rfl
  exact ⟨closed, h, offset, size, defaults.length.trans size⟩

end TargetDescription
