import TargetDescription.Proofs.Setting.Evaluation
import TargetDescription.Setting.Layout

/-!
# The places of settings

Where a setting lies depends only on how many settings of either sort are declared before it. The
numbers that the boolean settings get while they are placed are the numbers of those before them.

* `boolsBefore` and `bytesBefore` are the two counts, `SettingDeclaration.placedAt` is the place.
* `boolHandles` are the handles of the boolean settings, in the order of their numbers.
* `OpenSettingGroup.placed` is the group before its named predicates are numbered;
  `OpenSettingGroup.layOut_eq` and `OpenSettingGroup.eq_of_close` show that it is what the two loops
  make.
-/

namespace TargetDescription

/-! ## Counting settings -/

/-- How many boolean settings are declared before position `i`. -/
def boolsBefore (declarations : List SettingDeclaration) (i : Nat) : Nat :=
  (declarations.take i).countP (·.isBool)

/-- How many settings of another kind are declared before position `i`. -/
def bytesBefore (declarations : List SettingDeclaration) (i : Nat) : Nat :=
  (declarations.take i).countP (!·.isBool)

@[simp] theorem boolsBefore_zero (declarations : List SettingDeclaration) :
    boolsBefore declarations 0 = 0 := rfl

@[simp] theorem bytesBefore_zero (declarations : List SettingDeclaration) :
    bytesBefore declarations 0 = 0 := rfl

@[simp] theorem boolsBefore_cons_succ (declaration : SettingDeclaration)
    (rest : List SettingDeclaration) (i : Nat) :
    boolsBefore (declaration :: rest) (i + 1) =
      boolsBefore rest i + if declaration.isBool then 1 else 0 := by
  rw [boolsBefore, List.take_succ_cons, List.countP_cons]
  rfl

@[simp] theorem bytesBefore_cons_succ (declaration : SettingDeclaration)
    (rest : List SettingDeclaration) (i : Nat) :
    bytesBefore (declaration :: rest) (i + 1) =
      bytesBefore rest i + if declaration.isBool then 0 else 1 := by
  rw [bytesBefore, List.take_succ_cons, List.countP_cons]
  cases declaration.isBool <;> rfl

/-! ## The handles of boolean settings -/

/-- The handles of the boolean settings among declarations that start at position `index`. -/
def boolHandles (path : GroupPath) (index : Nat) : List SettingDeclaration → List BoolSetting
  | [] => []
  | declaration :: rest =>
    if declaration.isBool then
      ⟨path, index, declaration.name⟩ :: boolHandles path (index + 1) rest
    else
      boolHandles path (index + 1) rest

theorem group_of_mem_boolHandles {path : GroupPath} {index : Nat}
    {declarations : List SettingDeclaration} {handle : BoolSetting}
    (h : handle ∈ boolHandles path index declarations) :
    handle.group = path ∧ index ≤ handle.index := by
  induction declarations generalizing index with
  | nil => cases h
  | cons declaration rest ih =>
    rw [boolHandles] at h
    split at h
    · rcases List.mem_cons.1 h with rfl | h
      · exact ⟨rfl, Nat.le_refl _⟩
      · exact ⟨(ih h).1, Nat.le_of_succ_le (ih h).2⟩
    · exact ⟨(ih h).1, Nat.le_of_succ_le (ih h).2⟩

theorem notMem_boolHandles {path : GroupPath} {index : Nat}
    {declarations : List SettingDeclaration} {name : String} :
    ⟨path, index, name⟩ ∉ boolHandles path (index + 1) declarations := by
  intro mem
  exact Nat.not_succ_le_self index (group_of_mem_boolHandles mem).2

theorem nodup_boolHandles (path : GroupPath) (index : Nat)
    (declarations : List SettingDeclaration) : (boolHandles path index declarations).Nodup := by
  induction declarations generalizing index with
  | nil => exact List.nodup_nil
  | cons declaration rest ih =>
    rw [boolHandles]
    split
    · exact List.nodup_cons.2 ⟨notMem_boolHandles, ih (index + 1)⟩
    · exact ih (index + 1)

theorem length_boolHandles (path : GroupPath) (index : Nat)
    (declarations : List SettingDeclaration) :
    (boolHandles path index declarations).length = declarations.countP (·.isBool) := by
  induction declarations generalizing index with
  | nil => rfl
  | cons declaration rest ih =>
    rw [boolHandles, List.countP_cons]
    split <;> simp [ih]

/-- The handle of a boolean setting stands where the boolean settings before it end. -/
theorem getElem?_boolHandles {path : GroupPath} {index i : Nat}
    {declarations : List SettingDeclaration} {declaration : SettingDeclaration}
    (h : declarations[i]? = some declaration) (bool : declaration.isBool = true) :
    (boolHandles path index declarations)[boolsBefore declarations i]? =
      some ⟨path, index + i, declaration.name⟩ := by
  induction declarations generalizing index i with
  | nil => cases h
  | cons first rest ih =>
    rw [boolHandles]
    cases i with
    | zero =>
      obtain rfl := Option.some.inj h
      rw [if_pos bool]
      rfl
    | succ i =>
      have later : (boolHandles path (index + 1) rest)[boolsBefore rest i]? =
          some ⟨path, index + (i + 1), declaration.name⟩ := by
        rw [ih h, Nat.add_assoc, Nat.add_comm 1]
      by_cases hfirst : first.isBool = true
      · simpa [hfirst] using later
      · simpa [hfirst] using later

/-! ## Placing -/

/-- The setting at byte `byte`, or at bit `bit` behind `booleanOffset` if it is boolean. -/
def SettingDeclaration.placedAt (declaration : SettingDeclaration) (booleanOffset byte bit : Nat) :
    Setting :=
  if declaration.isBool then ⟨declaration, booleanOffset + bit / 8, some (bitOfNumber bit)⟩
  else ⟨declaration, byte, none⟩

/-- The settings while only those that are not boolean have their places, from byte `byte` on. -/
def withBytes (byte : Nat) (declarations : List SettingDeclaration) : List Setting :=
  declarations.mapIdx fun i declaration =>
    ⟨declaration, if declaration.isBool then 0 else byte + bytesBefore declarations i, none⟩

theorem map_withBytes (byte : Nat) (declarations : List SettingDeclaration) :
    (withBytes byte declarations).map (·.toSettingDeclaration) = declarations := by
  rw [withBytes]
  exact List.ext_getElem (by simp) fun i _ _ => by simp

theorem placeBytes_eq (byte : Nat) (declarations : List SettingDeclaration) :
    placeBytes byte declarations =
      (withBytes byte declarations, byte + declarations.countP (!·.isBool)) := by
  induction declarations generalizing byte with
  | nil => rfl
  | cons declaration rest ih =>
    rw [placeBytes, withBytes, List.mapIdx_cons, List.countP_cons]
    by_cases bool : declaration.isBool = true
    · simp [bool, ih, withBytes]
    · simp [bool, ih, withBytes, Nat.add_assoc, Nat.add_comm 1]

/-- The setting at bit `bit` behind `booleanOffset` if it is boolean, and where it is otherwise. -/
def Setting.placeBit (setting : Setting) (booleanOffset bit : Nat) : Setting :=
  if setting.isBool then
    { setting with
      byteOffset := booleanOffset + bit / 8
      bitOffset := some (bitOfNumber bit) }
  else
    setting

theorem mapIdx_placeBit_withBytes (booleanOffset : Nat) (declarations : List SettingDeclaration) :
    ((withBytes 0 declarations).mapIdx fun i setting =>
        setting.placeBit booleanOffset (boolsBefore declarations i)) =
      declarations.mapIdx fun i declaration =>
        declaration.placedAt booleanOffset (bytesBefore declarations i)
          (boolsBefore declarations i) := by
  rw [withBytes, List.mapIdx_mapIdx]
  congr 1
  funext i declaration
  by_cases bool : declaration.isBool = true
  · simp [Setting.placeBit, SettingDeclaration.placedAt, bool]
  · simp [Setting.placeBit, SettingDeclaration.placedAt, bool]

/-- While the boolean settings are placed, each gets the next number. -/
theorem SettingGroup.placeBits_eq (group : SettingGroup) (index : Nat) (settings : List Setting)
    (fresh : ∀ handle ∈ boolHandles group.path index (settings.map (·.toSettingDeclaration)),
      .ofSetting handle ∉ group.numbering.items) :
    group.placeBits index settings =
      .ok (settings.mapIdx fun i setting => setting.placeBit group.booleanOffset
          (group.numbering.size + boolsBefore (settings.map (·.toSettingDeclaration)) i))
        { group with
          numbering := group.numbering.addAll
            ((boolHandles group.path index (settings.map (·.toSettingDeclaration))).map
              Predicate.ofSetting) } := by
  induction settings generalizing group index with
  | nil => rfl
  | cons setting rest ih =>
    rw [placeBits, List.mapIdx_cons, List.map_cons, boolHandles]
    rw [List.map_cons, boolHandles] at fresh
    by_cases bool : setting.isBool = true
    · rw [if_pos bool] at fresh
      obtain ⟨new, later⟩ := List.forall_mem_cons.1 fresh
      have own : group.serves (.settings group.path) = true := group.path.isAncestorOf_refl
      rw [if_pos bool, if_pos bool, numberPredicate_of_notMem own new, Outcome.ok_andThen, ih]
      · have size := Numbering.size_add_of_notMem new
        simp [Setting.placeBit, bool, size, Nat.add_assoc, Nat.add_comm 1]
      · intro handle mem numbered
        rcases (Numbering.mem_items_add _ _ _).1 numbered with numbered | same
        · exact later handle mem numbered
        · obtain rfl := Predicate.ofSetting_injective same
          exact notMem_boolHandles mem
    · rw [if_neg bool] at fresh
      rw [if_neg bool, if_neg bool, ih group (index + 1) fresh]
      simp [Setting.placeBit, bool]

/-! ## The laid out group -/

namespace OpenSettingGroup

/-- The group with its settings placed and only the boolean ones numbered. -/
def placed (group : OpenSettingGroup) : SettingGroup :=
  let booleanOffset := group.declarations.countP (!·.isBool)
  { path := group.path
    settings := group.declarations.mapIdx fun i declaration =>
      declaration.placedAt booleanOffset (bytesBefore group.declarations i)
        (boolsBefore group.declarations i)
    namedPredicates := group.namedPredicates
    numbering := Numbering.ofList
      ((boolHandles group.path 0 group.declarations).map Predicate.ofSetting)
    booleanOffset
    settingsSize := booleanOffset + (group.declarations.countP (·.isBool) + 7) / 8 }

theorem items_placed (group : OpenSettingGroup) :
    group.placed.numbering.items =
      (boolHandles group.path 0 group.declarations).map Predicate.ofSetting :=
  Numbering.items_ofList_of_nodup
    ((nodup_boolHandles _ _ _).map fun _ _ => Predicate.ofSetting_injective)

theorem size_placed (group : OpenSettingGroup) :
    group.placed.numbering.size = group.declarations.countP (·.isBool) := by
  rw [Numbering.size, items_placed, List.length_map, length_boolHandles]

/-- The two loops place the settings and number the boolean ones. -/
theorem layOut_eq (group : OpenSettingGroup) :
    group.layOut = group.placed.numberPredicates (group.namedPredicates.map (·.2)) := by
  have size : (Numbering.empty.addAll ((boolHandles group.path 0 group.declarations).map
      Predicate.ofSetting)).size = group.declarations.countP (·.isBool) := size_placed group
  have none : (Numbering.empty : Numbering Predicate).size = 0 := rfl
  rw [layOut, placeBytes_eq]
  dsimp only
  rw [SettingGroup.placeBits_eq _ _ _ fun _ _ mem => List.not_mem_nil mem, Outcome.ok_andThen]
  simp only [map_withBytes, Nat.zero_add, none, mapIdx_placeBit_withBytes, SettingGroup.byteSize,
    size]
  rfl

/-- A group that closes is laid out like this, and numbers its named predicates besides. -/
theorem eq_of_close {group : OpenSettingGroup} {closed : SettingGroup}
    (h : group.close = .ok closed) :
    closed = { group.placed with
      numbering := group.placed.numbering.addAll (group.namedPredicates.map (·.2)) } := by
  rw [close, layOut_eq] at h
  cases result : (group.placed.numberPredicates (group.namedPredicates.map (·.2))).result with
  | error error => simp [result] at h
  | ok =>
    rw [result, Except.ok.injEq, SettingGroup.state_numberPredicates_of_ok result] at h
    exact h.symm

end OpenSettingGroup

end TargetDescription
