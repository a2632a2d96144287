import TargetDescription.Proofs.Occurrence
import TargetDescription.Proofs.Setting.Layout
import TargetDescription.Proofs.Setting.Requests

/-!
# Handles of boolean settings

A boolean setting is known by the handle that declaring it has given, by its name, and by the number
of the predicate that it is on. The names of a group are distinct and positions never shift while it
is open; so in the closed group all three lead to the same bit.

* `OpenSettingGroup.Claims` is the invariant of names; `OpenSettingGroup.Claims.request` is the step
  and `OpenSettingGroup.claims_requestAll` the run.
* `OpenSettingGroup.handles` are the handles given, and `OpenSettingGroup.boolHandles_requestAll`
  says that they are those of the boolean settings in order.
* `OpenSettingGroup.Gives` says that a declaration among several gives a handle.
* `SettingGroup.Denotes` says that a handle, a name and a bit belong together.
* `handles_denote_bits` is the main result.
-/

namespace TargetDescription

theorem boolHandles_append_singleton (path : GroupPath) (index : Nat)
    (declarations : List SettingDeclaration) (declaration : SettingDeclaration) :
    boolHandles path index (declarations ++ [declaration]) =
      boolHandles path index declarations ++
        if declaration.isBool then [⟨path, index + declarations.length, declaration.name⟩]
        else [] := by
  induction declarations generalizing index with
  | nil => rfl
  | cons first rest ih =>
    rw [List.cons_append, boolHandles, boolHandles, ih, List.length_cons, Nat.add_assoc,
      Nat.add_comm 1]
    split <;> rfl

theorem mem_boolHandles_iff {path : GroupPath} {index : Nat}
    {declarations : List SettingDeclaration} {handle : BoolSetting} :
    handle ∈ boolHandles path index declarations ↔
      ∃ i declaration, declarations[i]? = some declaration ∧ declaration.isBool = true ∧
        handle = ⟨path, index + i, declaration.name⟩ := by
  constructor
  · intro mem
    induction declarations generalizing index with
    | nil => cases mem
    | cons first rest ih =>
      have later (h : handle ∈ boolHandles path (index + 1) rest) :
          ∃ i declaration, (first :: rest)[i]? = some declaration ∧ declaration.isBool = true ∧
            handle = ⟨path, index + i, declaration.name⟩ := by
        obtain ⟨i, declaration, hi, bool, rfl⟩ := ih h
        exact ⟨i + 1, declaration, hi, bool, by rw [Nat.add_assoc, Nat.add_comm 1]⟩
      rw [boolHandles] at mem
      split at mem
      case isTrue bool =>
        rcases List.mem_cons.1 mem with rfl | mem
        · exact ⟨0, first, rfl, bool, rfl⟩
        · exact later mem
      case isFalse => exact later mem
  · rintro ⟨i, declaration, hi, bool, rfl⟩
    exact List.mem_of_getElem? (getElem?_boolHandles hi bool)

namespace OpenSettingGroup

/-! ## Declarations in sequence -/

/-- What several declarations leave, whether they succeed or fail. -/
def requestAll (group : OpenSettingGroup) (calls : List Request) : OpenSettingGroup :=
  calls.foldl (fun group call => (group.request call).state) group

/-- The handles that several declarations give, in order. -/
def handles (group : OpenSettingGroup) : List Request → List BoolSetting
  | [] => []
  | call :: rest =>
    (group.request call).result.toOption.join.toList ++ (group.request call).state.handles rest

/-- One of the declarations, of a boolean setting of this name, gives the handle. -/
def Gives (group : OpenSettingGroup) (calls : List Request) (name : String)
    (handle : BoolSetting) : Prop :=
  ∃ before doc default after, calls = before ++ .bool name doc default :: after ∧
    ((group.requestAll before).request (.bool name doc default)).result = .ok (some handle)

variable {group : OpenSettingGroup} {name : String} {handle : BoolSetting}

/-- The names of settings and predicates. -/
def usedNames (group : OpenSettingGroup) : List String :=
  group.declarations.map (·.name) ++ group.namedPredicates.map (·.1)

/-- The names in use are those that were claimed, and none was claimed twice. -/
structure Claims (group : OpenSettingGroup) : Prop where
  used : group.usedNames.Perm group.claimed
  once : group.claimed.Nodup

theorem claims_start (path : GroupPath) : Claims { path } where
  used := .nil
  once := .nil

namespace Claims

theorem newSetting (claims : group.Claims) {declaration : SettingDeclaration}
    (new : declaration.name ∉ group.claimed) :
    Claims
      { group with
        declarations := group.declarations ++ [declaration]
        claimed := group.claimed ++ [declaration.name] } where
  used := by
    -- The name of a setting stands before the names of the predicates.
    have last : ((group.declarations ++ [declaration]).map (·.name) ++
        group.namedPredicates.map (·.1)).Perm (group.usedNames ++ [declaration.name]) := by
      simp only [usedNames, List.map_append, List.append_assoc]
      exact List.perm_append_comm.append_left _
    exact last.trans (claims.used.append_right _)
  once := List.nodup_append_singleton claims.once new

theorem newPredicate (claims : group.Claims) {name : String} (new : name ∉ group.claimed)
    (predicate : Predicate) :
    Claims
      { group with
        namedPredicates := group.namedPredicates ++ [(name, predicate)]
        claimed := group.claimed ++ [name] } where
  used := by
    have more := claims.used.append_right [name]
    simpa [usedNames] using more
  once := List.nodup_append_singleton claims.once new

theorem request (claims : group.Claims) (call : Request) : (group.request call).state.Claims := by
  obtain ⟨declaration, _, new, h⟩ | ⟨name, predicate, new, h⟩ | ⟨error, h⟩ :=
    group.request_cases call
  · rw [h]
    exact claims.newSetting new
  · rw [h]
    exact claims.newPredicate new predicate
  · rw [h]
    exact claims

theorem nodup_usedNames (claims : group.Claims) : group.usedNames.Nodup :=
  claims.used.nodup_iff.2 claims.once

end Claims

theorem claims_requestAll (claims : group.Claims) (calls : List Request) :
    (group.requestAll calls).Claims := by
  induction calls generalizing group with
  | nil => exact claims
  | cons call rest ih => exact ih (claims.request call)

theorem path_requestAll (group : OpenSettingGroup) (calls : List Request) :
    (group.requestAll calls).path = group.path := by
  induction calls generalizing group with
  | nil => rfl
  | cons call rest ih => exact (ih _).trans (group.path_request call)

/-! ## The handles given -/

/-- A declaration gives a handle just if it adds a boolean setting, and then the handle of that. -/
theorem boolHandles_request (group : OpenSettingGroup) (call : Request) :
    boolHandles group.path 0 (group.request call).state.declarations =
      boolHandles group.path 0 group.declarations ++
        (group.request call).result.toOption.join.toList := by
  cases call with
  | bool name doc default =>
    rw [request, boolSetting]
    obtain ⟨-, h⟩ | ⟨error, h⟩ := group.declare_cases name doc (.bool default)
    · have added := boolHandles_append_singleton group.path 0 group.declarations
        ⟨name, doc, .bool default⟩
      rw [Nat.zero_add] at added
      rw [h]
      exact added
    · rw [h]
      exact (List.append_nil _).symm
  | num name doc default =>
    rw [request, numSetting]
    obtain ⟨-, h⟩ | ⟨error, h⟩ := group.declare_cases name doc (.num default)
    · rw [h]
      exact boolHandles_append_singleton group.path 0 group.declarations ⟨name, doc, .num default⟩
    · rw [h]
      exact (List.append_nil _).symm
  | enum name doc values =>
    rw [request, enumSetting]
    split
    case isTrue => exact (List.append_nil _).symm
    case isFalse =>
      obtain ⟨-, h⟩ | ⟨error, h⟩ := group.declare_cases name doc (.enum values)
      · rw [h]
        exact boolHandles_append_singleton group.path 0 group.declarations ⟨name, doc, .enum values⟩
      · rw [h]
        exact (List.append_nil _).symm
  | named name predicate =>
    rw [request]
    obtain ⟨-, h⟩ | ⟨error, h⟩ := group.namedPredicate_cases name predicate
    · rw [h]
      exact (List.append_nil _).symm
    · rw [h]
      exact (List.append_nil _).symm

theorem boolHandles_requestAll (group : OpenSettingGroup) (calls : List Request) :
    boolHandles group.path 0 (group.requestAll calls).declarations =
      boolHandles group.path 0 group.declarations ++ group.handles calls := by
  induction calls generalizing group with
  | nil => exact (List.append_nil _).symm
  | cons call rest ih =>
    have later := ih (group.request call).state
    rw [path_request, boolHandles_request, List.append_assoc] at later
    exact later

theorem gives_cons_iff {call : Request} {rest : List Request} :
    group.Gives (call :: rest) name handle ↔
      (∃ doc default, call = .bool name doc default ∧
          (group.request call).result = .ok (some handle)) ∨
        (group.request call).state.Gives rest name handle := by
  constructor
  · rintro ⟨_ | ⟨first, before⟩, doc, default, after, split, given⟩
    · obtain ⟨rfl, rfl⟩ := List.cons.inj split
      exact .inl ⟨doc, default, rfl, given⟩
    · obtain ⟨rfl, rfl⟩ := List.cons.inj split
      exact .inr ⟨before, doc, default, after, rfl, given⟩
  · rintro (⟨doc, default, rfl, given⟩ | ⟨before, doc, default, after, rfl, given⟩)
    · exact ⟨[], doc, default, rest, rfl, given⟩
    · exact ⟨call :: before, doc, default, after, rfl, given⟩

/-- Only the declaration of a boolean setting gives a handle, which carries its name. -/
theorem exists_bool_of_request {call : Request}
    (given : (group.request call).result = .ok (some handle)) :
    ∃ doc default, call = .bool handle.name doc default := by
  have none {α : Type} (o : Outcome OpenSettingGroup α) :
      (o.map fun _ => (none : Option BoolSetting)).result ≠ .ok (some handle) := by
    cases h : o.result <;> simp [Outcome.map, Except.map, h]
  cases call with
  | bool name doc default =>
    rw [request, boolSetting] at given
    obtain ⟨-, h⟩ | ⟨error, h⟩ := group.declare_cases name doc (.bool default)
    · rw [h] at given
      obtain rfl := Option.some.inj (Except.ok.inj given)
      exact ⟨doc, default, rfl⟩
    · rw [h] at given
      cases given
  | num => exact absurd given (none _)
  | enum => exact absurd given (none _)
  | named => exact absurd given (none _)

theorem request_eq_ok_some_iff {call : Request} :
    (group.request call).result.toOption.join = some handle ↔
      ∃ doc default, call = .bool handle.name doc default ∧
        (group.request call).result = .ok (some handle) := by
  constructor
  · intro h
    have given : (group.request call).result = .ok (some handle) := by
      rcases result : (group.request call).result with _ | _ | _ <;>
        simp [result, Except.toOption] at h ⊢
      exact h
    obtain ⟨doc, default, same⟩ := exists_bool_of_request given
    exact ⟨doc, default, same, given⟩
  · rintro ⟨_, _, -, given⟩
    rw [given]
    rfl

theorem mem_handles_iff {calls : List Request} :
    handle ∈ group.handles calls ↔ group.Gives calls handle.name handle := by
  induction calls generalizing group with
  | nil => simp [Gives, handles]
  | cons call rest ih =>
    rw [gives_cons_iff, handles, List.mem_append, ih, Option.mem_toList, request_eq_ok_some_iff]

theorem name_of_gives {calls : List Request} (given : group.Gives calls name handle) :
    handle.name = name := by
  obtain ⟨before, doc, default, after, -, given⟩ := given
  obtain ⟨_, _, same⟩ := exists_bool_of_request given
  cases same
  rfl

/-- The handles that were given since the group was opened are those of its boolean settings. -/
theorem gives_start_iff {path : GroupPath} {calls : List Request} :
    Gives { path } calls name handle ↔
      ∃ i declaration, (requestAll { path } calls).declarations[i]? = some declaration ∧
        declaration.isBool = true ∧ declaration.name = name ∧ handle = ⟨path, i, name⟩ := by
  have all : boolHandles path 0 (requestAll { path } calls).declarations =
      handles { path } calls := by
    have run := boolHandles_requestAll { path } calls
    exact run
  constructor
  · intro given
    obtain rfl := name_of_gives given
    rw [← mem_handles_iff, ← all, mem_boolHandles_iff] at given
    obtain ⟨i, declaration, hi, bool, rfl⟩ := given
    exact ⟨i, declaration, hi, bool, rfl, by rw [Nat.zero_add]⟩
  · rintro ⟨i, declaration, hi, bool, rfl, rfl⟩
    have given : (⟨path, i, declaration.name⟩ : BoolSetting) ∈ handles { path } calls := by
      rw [← all, mem_boolHandles_iff]
      exact ⟨i, declaration, hi, bool, by rw [Nat.zero_add]⟩
    exact mem_handles_iff.1 given

end OpenSettingGroup

/-! ## The closed group -/

namespace SettingGroup

variable {group : SettingGroup} {name : String} {handle : BoolSetting}

/-- The handle stands for the setting of this name: the setting is at the index of the handle, and
the bit at which it lies is that of the predicate that the handle is on. -/
structure Denotes (group : SettingGroup) (handle : BoolSetting) (name : String)
    (setting : Setting) (bit : Fin 8) : Prop where
  named : group.setting? name = some setting
  placed : group.settings[handle.index]? = some setting
  owns : setting.bitOffset = some bit
  behind : group.booleanOffset ≤ setting.byteOffset
  number : group.predicateNumber? (.ofSetting handle) =
    some (8 * (setting.byteOffset - group.booleanOffset) + bit.val)

theorem setting?_of_mem (distinct : (group.settings.map (·.name)).Nodup) {setting : Setting}
    (mem : setting ∈ group.settings) : group.setting? setting.name = some setting :=
  List.find?_beq_of_nodup_map distinct mem

/-- A handle is found by the name of a boolean setting, and by no other name. -/
theorem boolSetting?_eq_some_iff (distinct : (group.settings.map (·.name)).Nodup) :
    group.boolSetting? name = some handle ↔
      ∃ i setting, group.settings[i]? = some setting ∧ setting.isBool = true ∧
        setting.name = name ∧ handle = ⟨group.path, i, name⟩ := by
  rw [boolSetting?, Option.map_eq_some_iff]
  constructor
  · rintro ⟨i, found, rfl⟩
    obtain ⟨lt, here, -⟩ := List.findIdx?_eq_some_iff_getElem.1 found
    rw [Bool.and_eq_true, beq_iff_eq] at here
    exact ⟨i, group.settings[i], List.getElem?_eq_getElem lt, here.2, here.1, rfl⟩
  · rintro ⟨i, setting, hi, bool, rfl, rfl⟩
    obtain ⟨lt, rfl⟩ := List.getElem?_eq_some_iff.1 hi
    refine ⟨i, List.findIdx?_eq_some_iff_getElem.2 ⟨lt, by simp [bool], fun j earlier => ?_⟩, rfl⟩
    -- An earlier setting has another name.
    have other : group.settings[j].name ≠ group.settings[i].name := by
      intro same
      have position := List.eq_of_nodup_map distinct (List.getElem?_eq_getElem (by omega)) hi same
      omega
    simp [other]

end SettingGroup

namespace OpenSettingGroup

variable {group : OpenSettingGroup} {closed : SettingGroup}

theorem names_of_close (h : group.close = .ok closed) :
    closed.settings.map (·.name) = group.declarations.map (·.name) ∧
      closed.namedPredicates = group.namedPredicates := by
  obtain rfl := group.eq_of_close h
  refine ⟨?_, rfl⟩
  calc group.placed.settings.map (·.name)
      = (group.placed.settings.map (·.toSettingDeclaration)).map (·.name) := by
        rw [List.map_map]
        rfl
    _ = group.declarations.map (·.name) := by rw [map_settings_placed]

theorem boolSetting?_of_close (distinct : (closed.settings.map (·.name)).Nodup)
    (h : group.close = .ok closed) {name : String} {handle : BoolSetting} :
    closed.boolSetting? name = some handle ↔
      ∃ i declaration, group.declarations[i]? = some declaration ∧ declaration.isBool = true ∧
        declaration.name = name ∧ handle = ⟨group.path, i, name⟩ := by
  rw [SettingGroup.boolSetting?_eq_some_iff distinct]
  obtain rfl := group.eq_of_close h
  constructor
  · rintro ⟨i, setting, hi, bool, named, rfl⟩
    obtain ⟨hdeclaration, -⟩ := group.exists_of_getElem?_settings_placed hi
    exact ⟨i, setting.toSettingDeclaration, hdeclaration, bool, named, rfl⟩
  · rintro ⟨i, declaration, hi, bool, named, rfl⟩
    have hsetting := group.getElem?_settings_placed i
    rw [hi, Option.map_some] at hsetting
    refine ⟨i, _, hsetting, ?_, ?_, rfl⟩
    · rwa [SettingDeclaration.toSettingDeclaration_placedAt]
    · rwa [SettingDeclaration.toSettingDeclaration_placedAt]

/-- The handle of a boolean setting denotes the bit at which closing places it. -/
theorem exists_denotes_of_close (distinct : (closed.settings.map (·.name)).Nodup)
    (h : group.close = .ok closed) {name : String} {handle : BoolSetting}
    (found : closed.boolSetting? name = some handle) :
    ∃ setting bit, closed.Denotes handle name setting bit := by
  obtain ⟨i, setting, hi, bool, rfl, rfl⟩ :=
    (SettingGroup.boolSetting?_eq_some_iff distinct).1 found
  have named := SettingGroup.setting?_of_mem distinct (List.mem_of_getElem? hi)
  obtain rfl := group.eq_of_close h
  obtain ⟨byte, bit, -⟩ := group.place_of_bool hi bool
  have number := Numbering.number?_addAll (group.predicateNumber?_placed hi bool)
    (group.namedPredicates.map (·.2))
  refine ⟨setting, _, named, hi, bit, ?_, ?_⟩
  · rw [byte]
    exact Nat.le_add_right _ _
  · rw [byte, val_bitOfNumber, Nat.add_sub_cancel_left, Nat.div_add_mod]
    exact number

end OpenSettingGroup

/-- **A handle and a name denote one bit.** However a group was declared, no name is used twice, a
boolean setting is found by its name with the very handle that declaring it has given, and nothing
is found by another name. The setting stands at the index of the handle, and lies at the bit that
belongs to the handle as a predicate. -/
theorem handles_denote_bits (path : GroupPath) (calls : List OpenSettingGroup.Request)
    (closed : SettingGroup) (h : (OpenSettingGroup.requestAll { path } calls).close = .ok closed) :
    (closed.settings.map (·.name) ++ closed.namedPredicates.map (·.1)).Nodup ∧
      (∀ name handle, closed.boolSetting? name = some handle ↔
        OpenSettingGroup.Gives { path } calls name handle) ∧
      ∀ name handle, OpenSettingGroup.Gives { path } calls name handle →
        ∃ setting bit, closed.Denotes handle name setting bit := by
  have names : (closed.settings.map (·.name) ++ closed.namedPredicates.map (·.1)).Nodup := by
    obtain ⟨settings, predicates⟩ := OpenSettingGroup.names_of_close h
    rw [settings, predicates]
    have start := OpenSettingGroup.claims_start path
    exact (OpenSettingGroup.claims_requestAll start calls).nodup_usedNames
  have distinct := (List.nodup_append.1 names).1
  have found (name : String) (handle : BoolSetting) :
      closed.boolSetting? name = some handle ↔
        OpenSettingGroup.Gives { path } calls name handle := by
    rw [OpenSettingGroup.boolSetting?_of_close distinct h, OpenSettingGroup.path_requestAll]
    exact OpenSettingGroup.gives_start_iff.symm
  refine ⟨names, found, fun name handle given => ?_⟩
  exact OpenSettingGroup.exists_denotes_of_close distinct h ((found name handle).2 given)

/-- Declarations of which some are refused: a name is used twice, and an enumeration is empty. -/
def clumsyDeclarations : List OpenSettingGroup.Request :=
  [.bool "fast" "" true, .num "level" "" 5, .bool "level" "" false,
    .named "quick" (.ofSetting ⟨mixedGroup.path, 0, "fast"⟩), .enum "mode" "" [],
    .bool "safe" "" false]

/-- The refusals do not shift the setting that is declared last. -/
theorem handles_denote_bits_clumsy :
    ∃ closed, (OpenSettingGroup.requestAll { path := mixedGroup.path } clumsyDeclarations).close =
        .ok closed ∧
      closed.boolSetting? "safe" = some ⟨mixedGroup.path, 2, "safe"⟩ ∧
      ∃ setting bit, closed.Denotes ⟨mixedGroup.path, 2, "safe"⟩ "safe" setting bit := by
  have h : ∃ closed, (OpenSettingGroup.requestAll { path := mixedGroup.path }
      clumsyDeclarations).close = .ok closed := ⟨_, rfl⟩
  obtain ⟨closed, h⟩ := h
  obtain ⟨-, found, denotes⟩ := handles_denote_bits mixedGroup.path clumsyDeclarations closed h
  have given : OpenSettingGroup.Gives { path := mixedGroup.path } clumsyDeclarations "safe"
      ⟨mixedGroup.path, 2, "safe"⟩ := ⟨clumsyDeclarations.take 5, "", false, [], rfl, rfl⟩
  exact ⟨closed, h, (found _ _).2 given, denotes _ _ given⟩

end TargetDescription
