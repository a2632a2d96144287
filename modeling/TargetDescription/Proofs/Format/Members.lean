import Mathlib.Order.Bounds.Basic
import TargetDescription.Proofs.Format.Signatures

/-!
# Members are found by name

A format takes the names of its members into an index, in one pass over its places. Places of values
may have no member, and several members may have the same name; the name then stands for the first
of them. So within a format a name and the position that it leads to determine each other, and
fields need not be compared by name.

* `InstructionFormat.get?_indexMember` is the step of the pass and `get?_foldl_indexMember` the
  run: the index leads to the position at which a scan for the name would stop.
* `InstructionFormat.field_eq_ok_iff` and `field_eq_error_iff` say which field a name stands for.
* `InstructionFormat.FindsMembers` says what the fields of a format can be relied on for, and
  `members_found_by_name` is the main result.
-/

namespace TargetDescription

/-! ## The members of the parts -/

/-- The members that the part adds. A value has none unless it is given one. -/
def FormatPart.members : FormatPart → List (Option String)
  | values count => List.replicate count none
  | member name _ => [some name]
  | kind k => [k.defaultMember?]

theorem FormatPart.map_member_operands (part : FormatPart) :
    part.operands.map (·.member) = part.members := by
  cases part with
  | values count => exact List.map_replicate
  | member name kind => rfl
  | kind kind => rfl

namespace InstructionFormat

theorem members_of_build {declaration : FormatDeclaration} {origin : Stamp}
    {format : InstructionFormat} (built : declaration.build origin = .ok format) :
    format.members = declaration.parts.flatMap FormatPart.members := by
  obtain ⟨_, rfl, -⟩ := exists_of_build built
  rw [members, FormatDeclaration.operands, List.map_flatMap]
  exact List.flatMap_congr fun part _ => part.map_member_operands

/-! ## The index -/

/-- A member changes what its own name leads to, and that only if the name led nowhere. -/
theorem get?_indexMember (index : Table String Nat) (member : Option String) (position : Nat)
    (name : String) :
    (indexMember index (member, position)).get? name =
      (index.get? name).or (if member = some name then some position else none) := by
  cases member with
  | none => simp [indexMember]
  | some other =>
    rw [indexMember]
    by_cases same : other = name
    · subst same
      rw [if_pos rfl]
      cases known : index.get? other with
      | some earlier => exact known
      | none => exact index.get?_insert_self other position
    · rw [if_neg (by simpa using same), Option.or_none]
      cases index.get? other with
      | some earlier => rfl
      | none => exact Table.get?_insert_of_ne (Ne.symm same)

/-- The index of members leads each name to where a scan for it would stop. -/
theorem get?_foldl_indexMember (members : List (Option String)) (name : String) :
    (members.zipIdx.foldl indexMember .empty).get? name =
      members.findIdx? fun member => member == some name := by
  -- from the last member: the index of those before it is the one that it is taken into
  induction members using List.reverseRecOn with
  | nil => rfl
  | append_singleton before member ih =>
    rw [List.zipIdx_append, List.foldl_append, List.zipIdx_singleton, List.foldl_cons,
      List.foldl_nil, get?_indexMember, ih, List.findIdx?_append, List.findIdx?_singleton]
    by_cases named : member = some name
    · simp [named]
    · simp [named]

/-- A scan for a name stops at the least position that has it. -/
theorem findIdx?_eq_some_iff_isLeast {members : List (Option String)} {name : String} {i : Nat} :
    (members.findIdx? fun member => member == some name) = some i ↔
      IsLeast {j | members[j]? = some (some name)} i := by
  rw [List.findIdx?_eq_some_iff_getElem]
  constructor
  · rintro ⟨lt, here, before⟩
    refine ⟨List.getElem?_eq_some_iff.2 ⟨lt, by simpa using here⟩, fun j hj => ?_⟩
    obtain ⟨_, there⟩ := List.getElem?_eq_some_iff.1 hj
    by_contra earlier
    exact before j (not_le.1 earlier) (by simpa using there)
  · rintro ⟨here, least⟩
    obtain ⟨lt, here⟩ := List.getElem?_eq_some_iff.1 here
    refine ⟨lt, by simpa using here, fun j earlier there => ?_⟩
    have named : members[j]? = some (some name) :=
      List.getElem?_eq_some_iff.2 ⟨earlier.trans lt, by simpa using there⟩
    exact absurd (least named) (not_le.2 earlier)

/-! ## Fields -/

variable {format : InstructionFormat} {name other : String} {field reached : FormatField}

/-- A name stands for the first member that has it. -/
theorem field_eq_ok_iff :
    format.field name = .ok field ↔ field.format = format ∧
      IsLeast {i | format.members[i]? = some (some name)} field.operand := by
  obtain ⟨owner, operand⟩ := field
  rw [InstructionFormat.field, memberIndex, get?_foldl_indexMember,
    ← findIdx?_eq_some_iff_isLeast]
  cases format.members.findIdx? fun member => member == some name with
  | none => simp
  | some first => simp [eq_comm]

/-- A name that no member has is refused, and no other. -/
theorem field_eq_error_iff {error : Error} :
    format.field name = .error error ↔
      some name ∉ format.members ∧ error = .unknownFormatField format.name name := by
  rw [InstructionFormat.field, memberIndex, get?_foldl_indexMember]
  cases h : format.members.findIdx? fun member => member == some name with
  | none =>
    have absent : some name ∉ format.members := by
      intro mem
      simpa using List.findIdx?_eq_none_iff.1 h _ mem
    simp [absent, eq_comm]
  | some first =>
    have present : some name ∈ format.members :=
      List.mem_of_getElem? (findIdx?_eq_some_iff_isLeast.1 h).1
    simp [present]

theorem exists_field_iff :
    (∃ field, format.field name = .ok field) ↔
      ∃ i : Nat, format.members[i]? = some (some name) := by
  rw [← List.mem_iff_getElem?]
  cases h : format.field name with
  | ok field =>
    have present := List.mem_of_getElem? (field_eq_ok_iff.1 h).2.1
    simp [present]
  | error error =>
    have absent := (field_eq_error_iff.1 h).1
    simp [absent]

theorem getElem?_of_field (h : format.field name = .ok field) :
    format.members[field.operand]? = some (some name) :=
  (field_eq_ok_iff.1 h).2.1

theorem name_of_field (h : format.field name = .ok field) : field.name = name := by
  rw [FormatField.name, (field_eq_ok_iff.1 h).1, getElem?_of_field h]
  rfl

/-- Names that lead to the same position are the same name. -/
theorem eq_of_operand_eq (h : format.field name = .ok field) (h' : format.field other = .ok reached)
    (same : field.operand = reached.operand) : name = other := by
  have named := getElem?_of_field h
  rw [same, getElem?_of_field h'] at named
  exact (Option.some.inj (Option.some.inj named)).symm

/-- The members of the format are found by name. A name leads to a field just if some position has
it as its member, and then to the first such position, which no other name leads to; so two names
lead to the same field just if they are the same name. -/
structure FindsMembers (format : InstructionFormat) : Prop where
  found_iff : ∀ name,
    (∃ field, format.field name = .ok field) ↔ ∃ i : Nat, format.members[i]? = some (some name)
  refused : ∀ name, (¬ ∃ i : Nat, format.members[i]? = some (some name)) →
    format.field name = .error (.unknownFormatField format.name name)
  first : ∀ name field, format.field name = .ok field →
    IsLeast {i | format.members[i]? = some (some name)} field.operand
  inRange : ∀ name field, format.field name = .ok field → field.operand < format.members.length
  own : ∀ name field, format.field name = .ok field → field.format = format ∧ field.name = name
  unshared : ∀ name field other reached, format.field name = .ok field →
    format.field other = .ok reached → other ≠ name → reached.operand ≠ field.operand
  eq_iff : ∀ name field other reached, format.field name = .ok field →
    format.field other = .ok reached → (field = reached ↔ name = other)

end InstructionFormat

/-- **Members are found by name.** The members of a format are those of the parts that it was
declared with, in order, and whatever the parts are, also if names repeat, each name leads to the
first member that has it. -/
theorem members_found_by_name {declaration : FormatDeclaration} {origin : Stamp}
    {format : InstructionFormat} (built : declaration.build origin = .ok format) :
    format.members = declaration.parts.flatMap FormatPart.members ∧ format.FindsMembers := by
  refine ⟨InstructionFormat.members_of_build built, ?_⟩
  constructor
  case found_iff => exact fun name => InstructionFormat.exists_field_iff
  case refused =>
    intro name absent
    rw [← List.mem_iff_getElem?] at absent
    exact InstructionFormat.field_eq_error_iff.2 ⟨absent, rfl⟩
  case first => exact fun name field h => (InstructionFormat.field_eq_ok_iff.1 h).2
  case inRange =>
    intro name field h
    exact (List.getElem?_eq_some_iff.1 (InstructionFormat.getElem?_of_field h)).1
  case own =>
    intro name field h
    exact ⟨(InstructionFormat.field_eq_ok_iff.1 h).1, InstructionFormat.name_of_field h⟩
  case unshared =>
    intro name field other reached h h' apart same
    exact apart (InstructionFormat.eq_of_operand_eq h' h same)
  case eq_iff =>
    intro name field other reached h h'
    constructor
    · rintro rfl
      exact InstructionFormat.eq_of_operand_eq h h' rfl
    · rintro rfl
      exact Except.ok.inj (h.symm.trans h')

/-- A value with an offset and two more immediates, which are both stored in the default member. -/
def offsetStore : FormatDeclaration :=
  { name := "OffsetStore"
    parts := [.values 1, .member "offset" wideImmediate, .kind wideImmediate, .kind wideImmediate]
    boxedStorage := true }

theorem members_found_by_name_offsetStore :
    ∃ format, offsetStore.build ⟨0⟩ = .ok format ∧
      format.members = [none, some "offset", some "imm", some "imm"] ∧ format.FindsMembers ∧
      ∃ offset imm, format.field "offset" = .ok offset ∧ format.field "imm" = .ok imm ∧
        offset.operand = 1 ∧ imm.operand = 2 ∧ offset ≠ imm := by
  have built : ∃ format, offsetStore.build ⟨0⟩ = .ok format ∧
      ∃ offset imm, format.field "offset" = .ok offset ∧ format.field "imm" = .ok imm ∧
        offset.operand = 1 ∧ imm.operand = 2 := ⟨_, rfl, _, _, rfl, rfl, rfl, rfl⟩
  obtain ⟨format, built, offset, imm, hoffset, himm, first, second⟩ := built
  obtain ⟨members, finds⟩ := members_found_by_name built
  refine ⟨format, built, members, finds, offset, imm, hoffset, himm, first, second, ?_⟩
  rw [ne_eq, finds.eq_iff _ _ _ _ hoffset himm]
  decide

end TargetDescription
