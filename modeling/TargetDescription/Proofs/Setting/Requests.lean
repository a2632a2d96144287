import TargetDescription.Setting.Open

/-!
# Requests to an open settings group

* `OpenSettingGroup.Request` is a declaration, `OpenSettingGroup.request` what it gives and leaves.
* `OpenSettingGroup.request_cases` says what a declaration can do: it claims a name and adds a
  setting or a named predicate under it, or it is refused.
-/

namespace TargetDescription.OpenSettingGroup

/-- A declaration in a settings group. -/
inductive Request
  | bool (name doc : String) (default : Bool)
  | num (name doc : String) (default : UInt8)
  | enum (name doc : String) (values : List String)
  | named (name : String) (predicate : Predicate)

/-- What a declaration gives and leaves; only boolean settings have a handle. -/
def request (group : OpenSettingGroup) : Request → Outcome OpenSettingGroup (Option BoolSetting)
  | .bool name doc default => (group.boolSetting name doc default).map some
  | .num name doc default => (group.numSetting name doc default).map fun _ => none
  | .enum name doc values => (group.enumSetting name doc values).map fun _ => none
  | .named name predicate => (group.namedPredicate name predicate).map fun _ => none

variable (group : OpenSettingGroup)

theorem claimName_cases (name : String) :
    (name ∉ group.claimed ∧
        group.claimName name = .ok () { group with claimed := group.claimed ++ [name] }) ∨
      ∃ error, group.claimName name = .fail error group := by
  rw [claimName]
  split
  case isTrue => exact Or.inr ⟨_, rfl⟩
  case isFalse new => exact Or.inl ⟨new, rfl⟩

theorem declare_cases (name doc : String) (kind : SettingKind) :
    (name ∉ group.claimed ∧ group.declare name doc kind =
        .ok group.declarations.length
          { group with
            declarations := group.declarations ++ [⟨name, doc, kind⟩]
            claimed := group.claimed ++ [name] }) ∨
      ∃ error, group.declare name doc kind = .fail error group := by
  obtain ⟨new, h⟩ | ⟨error, h⟩ := group.claimName_cases name
  · exact Or.inl ⟨new, by rw [declare, h]; rfl⟩
  · exact Or.inr ⟨error, by rw [declare, h]; rfl⟩

theorem namedPredicate_cases (name : String) (predicate : Predicate) :
    (name ∉ group.claimed ∧ group.namedPredicate name predicate =
        .ok ()
          { group with
            namedPredicates := group.namedPredicates ++ [(name, predicate)]
            claimed := group.claimed ++ [name] }) ∨
      ∃ error, group.namedPredicate name predicate = .fail error group := by
  obtain ⟨new, h⟩ | ⟨error, h⟩ := group.claimName_cases name
  · exact Or.inl ⟨new, by rw [namedPredicate, h]; rfl⟩
  · exact Or.inr ⟨error, by rw [namedPredicate, h]; rfl⟩

theorem request_cases (call : Request) :
    (∃ declaration handle, declaration.name ∉ group.claimed ∧ group.request call =
        .ok handle
          { group with
            declarations := group.declarations ++ [declaration]
            claimed := group.claimed ++ [declaration.name] }) ∨
      (∃ name predicate, name ∉ group.claimed ∧ group.request call =
        .ok none
          { group with
            namedPredicates := group.namedPredicates ++ [(name, predicate)]
            claimed := group.claimed ++ [name] }) ∨
      ∃ error, group.request call = .fail error group := by
  cases call with
  | bool name doc default =>
    obtain ⟨new, h⟩ | ⟨error, h⟩ := group.declare_cases name doc (.bool default)
    · exact Or.inl ⟨⟨name, doc, .bool default⟩, _, new, by rw [request, boolSetting, h]; rfl⟩
    · exact Or.inr (Or.inr ⟨error, by rw [request, boolSetting, h]; rfl⟩)
  | num name doc default =>
    obtain ⟨new, h⟩ | ⟨error, h⟩ := group.declare_cases name doc (.num default)
    · exact Or.inl ⟨⟨name, doc, .num default⟩, _, new, by rw [request, numSetting, h]; rfl⟩
    · exact Or.inr (Or.inr ⟨error, by rw [request, numSetting, h]; rfl⟩)
  | enum name doc values =>
    rw [request, enumSetting]
    split
    case isTrue => exact Or.inr (Or.inr ⟨_, rfl⟩)
    case isFalse =>
      obtain ⟨new, h⟩ | ⟨error, h⟩ := group.declare_cases name doc (.enum values)
      · exact Or.inl ⟨⟨name, doc, .enum values⟩, _, new, by rw [h]; rfl⟩
      · exact Or.inr (Or.inr ⟨error, by rw [h]; rfl⟩)
  | named name predicate =>
    rw [request]
    obtain ⟨new, h⟩ | ⟨error, h⟩ := group.namedPredicate_cases name predicate
    · exact Or.inr (Or.inl ⟨name, predicate, new, by rw [h]; rfl⟩)
    · exact Or.inr (Or.inr ⟨error, by rw [h]; rfl⟩)

/-- A refused declaration leaves the group as it was. -/
theorem state_request_of_error {call : Request} {error : Error}
    (h : (group.request call).result = .error error) : (group.request call).state = group := by
  obtain ⟨_, _, -, same⟩ | ⟨_, _, -, same⟩ | ⟨_, same⟩ := group.request_cases call
  · rw [same] at h
    cases h
  · rw [same] at h
    cases h
  · rw [same]
    rfl

/-- Declarations do not change what group it is. -/
theorem path_request (call : Request) : (group.request call).state.path = group.path := by
  obtain ⟨_, _, -, h⟩ | ⟨_, _, -, h⟩ | ⟨_, h⟩ := group.request_cases call
  · rw [h]
    rfl
  · rw [h]
    rfl
  · rw [h]
    rfl

end TargetDescription.OpenSettingGroup
