import TargetDescription.Instruction.Binding

/-!
# Binding in steps and at once

The variables of an instruction can be bound one after the other or all at once, and with types or
with the names of types. What is bound in the end depends on the types alone, and so does the answer
to whether a variable is left.

* `BindStep` is one step, `InstructionRef.bindChain` takes several.
* `InstructionRef.Built` says that a reference comes about by binding, and
  `InstructionRef.Built.bindAll_eq` that binding at once gives the same.
* `BoundInstruction.Holds` is what is true of an instruction with types, and
  `Instruction.holds_of_bindAll` says that it is true whenever binding at once succeeds.
-/

namespace TargetDescription

/-- The next variable is bound to a type, or to the type of a name. -/
inductive BindStep
  | given (type : ValueType)
  | named (registry : TypeRegistry) (name : String)

/-- The type that the next variable is bound to, unless the name is unknown. -/
def BindStep.chosen : BindStep → Except Error ValueType
  | given type => .ok type
  | named registry name => registry.byName name

namespace InstructionRef

/-- Binds the next variable by a step of either kind. -/
def bindBy (ref : InstructionRef) : BindStep → Except Error BoundInstruction
  | .given type => ref.bind type
  | .named registry name => ref.bindNamed registry name

/-- Takes one step after the other, up to the first that is refused. -/
def bindChain (ref : InstructionRef) : List BindStep → Except Error InstructionRef
  | [] => .ok ref
  | step :: rest =>
    match ref.bindBy step with
    | .error error => .error error
    | .ok next => bindChain (.bound next) rest

/-- The references that come about by binding. -/
inductive Built : InstructionRef → Prop
  | plain (inst : Instruction) : Built (.plain inst)
  | bindAll {inst : Instruction} {types : List ValueType} {bound : BoundInstruction} :
    inst.bindAll types = .ok bound → Built (.bound bound)
  | bindBy {ref : InstructionRef} {step : BindStep} {bound : BoundInstruction} :
    Built ref → ref.bindBy step = .ok bound → Built (.bound bound)

end InstructionRef

/-- What is true of an instruction with these types. Every step from here on gives what binding at
once gives, success or refusal. A chain takes no step after a refusal, hence it sees no more than
one type too many. If types are missing, then for the variables behind those that have one. -/
structure BoundInstruction.Holds (bound : BoundInstruction) (inst : Instruction)
    (p : Polymorphism) (types : List ValueType) : Prop where
  carries : bound = ⟨inst, types⟩
  next : ∀ type, bound.bind type = inst.bindAll (types ++ [type])
  later : ∀ steps more, steps.map BindStep.chosen = more.map .ok →
    ∀ reached, (InstructionRef.bound bound).bindChain steps = .ok reached →
      ∀ step type, step.chosen = .ok type →
        reached.bindBy step = inst.bindAll (types ++ more ++ [type])
  accepted : ∀ steps reached, (InstructionRef.bound bound).bindChain steps = .ok reached ↔
    ∃ more, steps.map BindStep.chosen = more.map .ok ∧
      (inst.bindAll (types ++ more)).map .bound = .ok reached
  chain : ∀ steps more, steps.map BindStep.chosen = more.map .ok →
    (InstructionRef.bound bound).bindChain steps =
      (inst.bindAll ((types ++ more).take (inst.numTypeVars + 1))).map .bound
  complete : types.length = inst.numTypeVars → bound.fullyBound = .ok (inst, types)
  incomplete : types.length ≠ inst.numTypeVars →
    bound.fullyBound = .error (.unboundTypevar bound.display
      (TypeVar.displayList ((p.control :: p.others).drop types.length)))

/-! ## Binding at once -/

namespace Instruction

variable {inst : Instruction} {types : List ValueType} {bound : BoundInstruction}

theorem bindAll_eq_ok_iff :
    inst.bindAll types = .ok bound ↔
      inst.isPolymorphic = true ∧ types.length ≤ inst.numTypeVars ∧ bound = ⟨inst, types⟩ := by
  rw [bindAll]
  split
  case isTrue polymorphic =>
    rw [BoundInstruction.ofTypes]
    split
    case isTrue many => simp [Nat.not_le.2 many]
    case isFalse few => simp [polymorphic, Nat.not_lt.1 few, eq_comm]
  case isFalse monomorphic => simp [monomorphic]

theorem bindAll_of_le (polymorphic : inst.isPolymorphic = true)
    (few : types.length ≤ inst.numTypeVars) : inst.bindAll types = .ok ⟨inst, types⟩ :=
  bindAll_eq_ok_iff.2 ⟨polymorphic, few, rfl⟩

theorem bindAll_of_lt (polymorphic : inst.isPolymorphic = true)
    (many : inst.numTypeVars < types.length) :
    inst.bindAll types =
      .error (.tooManyTypeArguments inst.name types.length inst.numTypeVars) := by
  rw [bindAll, if_pos polymorphic, BoundInstruction.ofTypes, if_pos many]

theorem bindAll_of_monomorphic (monomorphic : inst.isPolymorphic = false) :
    inst.bindAll types = .error (.notPolymorphic inst.name) := by
  rw [bindAll, monomorphic]
  rfl

/-- After binding at once, the next step is as if its type had been given with the others. -/
theorem bind_of_bindAll (h : inst.bindAll types = .ok bound) (type : ValueType) :
    bound.bind type = inst.bindAll (types ++ [type]) := by
  obtain ⟨polymorphic, -, rfl⟩ := bindAll_eq_ok_iff.1 h
  rw [bindAll, if_pos polymorphic]
  rfl

theorem fullyBound_of_bindAll (h : inst.bindAll types = .ok bound) :
    bound.fullyBound =
      if types.length = inst.numTypeVars then .ok (inst, types)
      else .error (.unboundTypevar bound.display
        (TypeVar.displayList (inst.typeVars.drop types.length))) := by
  obtain ⟨-, few, rfl⟩ := bindAll_eq_ok_iff.1 h
  rw [BoundInstruction.fullyBound, length_typeVars]
  rcases Nat.lt_or_eq_of_le few with less | same
  · rw [if_pos less, if_neg (Nat.ne_of_lt less)]
  · rw [if_neg (Nat.not_lt.2 (Nat.le_of_eq same.symm)), if_pos same]

end Instruction

/-! ## Binding in steps -/

namespace InstructionRef

variable {ref : InstructionRef} {bound : BoundInstruction}

theorem bindBy_of_chosen {step : BindStep} {type : ValueType} (h : step.chosen = .ok type) :
    ref.bindBy step = ref.bind type := by
  cases step with
  | given own =>
    cases h
    rfl
  | named registry name =>
    rw [BindStep.chosen] at h
    rw [bindBy, bindNamed, h]

theorem exists_chosen_of_bindBy {step : BindStep} (h : ref.bindBy step = .ok bound) :
    ∃ type, step.chosen = .ok type ∧ ref.bind type = .ok bound := by
  cases step with
  | given type => exact ⟨type, rfl, h⟩
  | named registry name =>
    rw [bindBy, bindNamed] at h
    split at h
    case h_1 => cases h
    case h_2 type found => exact ⟨type, found, h⟩

/-- However an instruction has come by its types, binding them at once gives the same. -/
theorem Built.bindAll_eq (built : Built (.bound bound)) :
    bound.inst.bindAll bound.types = .ok bound := by
  generalize same : InstructionRef.bound bound = ref at built
  induction built generalizing bound with
  | plain => cases same
  | bindAll h =>
    cases same
    obtain ⟨-, -, rfl⟩ := Instruction.bindAll_eq_ok_iff.1 h
    exact h
  | @bindBy ref step after _ h ih =>
    cases same
    obtain ⟨type, -, h⟩ := exists_chosen_of_bindBy h
    -- The step is one of binding at once, from the types that the reference had before.
    obtain ⟨inst, types, all⟩ : ∃ inst types, Instruction.bindAll inst types = .ok after := by
      cases ref with
      | plain inst => exact ⟨inst, [type], h⟩
      | bound before =>
        rw [InstructionRef.bind, Instruction.bind_of_bindAll (ih rfl)] at h
        exact ⟨_, _, h⟩
    obtain ⟨-, -, rfl⟩ := Instruction.bindAll_eq_ok_iff.1 all
    exact all

/-- Steps from a bound instruction on are as if all types had been given at once, where they end at
the first type too many. -/
theorem bindChain_of_bindAll {inst : Instruction} {types : List ValueType}
    (h : inst.bindAll types = .ok bound) {steps : List BindStep} {more : List ValueType}
    (chosen : steps.map BindStep.chosen = more.map .ok) :
    (InstructionRef.bound bound).bindChain steps =
      (inst.bindAll ((types ++ more).take (inst.numTypeVars + 1))).map .bound := by
  obtain ⟨polymorphic, few, -⟩ := Instruction.bindAll_eq_ok_iff.1 h
  induction steps generalizing types bound more with
  | nil =>
    obtain rfl := List.map_eq_nil_iff.1 chosen.symm
    rw [List.append_nil, List.take_of_length_le (by omega), h]
    rfl
  | cons step rest ih =>
    obtain ⟨type, more, rfl, first, later⟩ := List.map_eq_cons_iff.1 chosen.symm
    have next : (InstructionRef.bound bound).bindBy step = inst.bindAll (types ++ [type]) := by
      rw [bindBy_of_chosen first.symm]
      exact Instruction.bind_of_bindAll h type
    have all : types ++ type :: more = types ++ [type] ++ more := by
      rw [List.append_assoc, List.singleton_append]
    rw [bindChain, next, all]
    rcases Nat.lt_or_eq_of_le few with less | last
    · have room : (types ++ [type]).length ≤ inst.numTypeVars := by
        rw [List.length_append]
        exact less
      have added := Instruction.bindAll_of_le polymorphic room
      rw [added]
      exact ih added later.symm room
    · have full : inst.numTypeVars < (types ++ [type]).length := by simp [last]
      have cut : (types ++ [type] ++ more).take (inst.numTypeVars + 1) = types ++ [type] :=
        List.take_left' (by simp [last])
      rw [cut, Instruction.bindAll_of_lt polymorphic full]
      rfl

/-- A chain that is accepted has known names only. -/
theorem exists_chosen_of_bindChain {steps : List BindStep} {last : InstructionRef}
    (h : ref.bindChain steps = .ok last) :
    ∃ more : List ValueType, steps.map BindStep.chosen = more.map .ok := by
  induction steps generalizing ref with
  | nil => exact ⟨[], rfl⟩
  | cons step rest ih =>
    rw [bindChain] at h
    split at h
    case h_1 => cases h
    case h_2 bound next =>
      obtain ⟨type, first, -⟩ := exists_chosen_of_bindBy next
      obtain ⟨more, later⟩ := ih h
      exact ⟨type :: more, by rw [List.map_cons, first, later, List.map_cons]⟩

section

variable {inst : Instruction} {types more : List ValueType} {steps : List BindStep}
  {reached : InstructionRef}

theorem bindChain_eq_ok_iff_of_chosen (h : inst.bindAll types = .ok bound)
    (chosen : steps.map BindStep.chosen = more.map .ok) :
    (InstructionRef.bound bound).bindChain steps = .ok reached ↔
      (inst.bindAll (types ++ more)).map .bound = .ok reached := by
  obtain ⟨polymorphic, -, -⟩ := Instruction.bindAll_eq_ok_iff.1 h
  rw [bindChain_of_bindAll h chosen]
  rcases Nat.lt_or_ge inst.numTypeVars (types ++ more).length with many | few
  · -- With one type too many or more, both are refused.
    have cut : inst.numTypeVars < ((types ++ more).take (inst.numTypeVars + 1)).length := by
      rw [List.length_take]
      omega
    rw [Instruction.bindAll_of_lt polymorphic many, Instruction.bindAll_of_lt polymorphic cut]
    simp [Except.map]
  · rw [List.take_of_length_le (by omega)]

theorem bindChain_eq_ok_iff (h : inst.bindAll types = .ok bound) :
    (InstructionRef.bound bound).bindChain steps = .ok reached ↔
      ∃ more : List ValueType, steps.map BindStep.chosen = more.map .ok ∧
        (inst.bindAll (types ++ more)).map .bound = .ok reached := by
  constructor
  · intro ok
    obtain ⟨more, chosen⟩ := exists_chosen_of_bindChain ok
    exact ⟨more, chosen, (bindChain_eq_ok_iff_of_chosen h chosen).1 ok⟩
  · rintro ⟨more, chosen, ok⟩
    exact (bindChain_eq_ok_iff_of_chosen h chosen).2 ok

/-- The last step of a chain gives what binding at once gives. -/
theorem bindBy_of_bindChain (h : inst.bindAll types = .ok bound)
    (chosen : steps.map BindStep.chosen = more.map .ok)
    (ok : (InstructionRef.bound bound).bindChain steps = .ok reached) {step : BindStep}
    {type : ValueType} (last : step.chosen = .ok type) :
    reached.bindBy step = inst.bindAll (types ++ more ++ [type]) := by
  have all := (bindChain_eq_ok_iff_of_chosen h chosen).1 ok
  rcases before : inst.bindAll (types ++ more) with _ | next
  · rw [before] at all
    cases all
  · rw [before] at all
    cases all
    rw [bindBy_of_chosen last]
    exact Instruction.bind_of_bindAll before type

end

end InstructionRef

/-! ## What is bound in full -/

namespace Instruction

variable {inst : Instruction} {p : Polymorphism}

theorem typeVars_of_polymorphism (h : inst.polymorphism = some p) :
    inst.typeVars = p.control :: p.others := by
  rw [typeVars, h]
  rfl

theorem numTypeVars_of_monomorphic (h : inst.isPolymorphic = false) : inst.numTypeVars = 0 := by
  rw [isPolymorphic, Option.isSome_eq_false_iff, Option.isNone_iff_eq_none] at h
  rw [numTypeVars, h]

theorem numTypeVars_pos (h : inst.isPolymorphic = true) : 0 < inst.numTypeVars := by
  obtain ⟨p, poly⟩ := Option.isSome_iff_exists.1 h
  rw [← length_typeVars, typeVars_of_polymorphism poly]
  exact Nat.succ_pos _

theorem fullyBound_of_monomorphic (h : inst.isPolymorphic = false) :
    inst.fullyBound = .ok (inst, []) := by
  rw [fullyBound, h]
  rfl

/-- Binding at once holds up whatever comes next. -/
theorem holds_of_bindAll {types : List ValueType} {bound : BoundInstruction}
    (h : inst.bindAll types = .ok bound) (poly : inst.polymorphism = some p) :
    bound.Holds inst p types where
  carries := (bindAll_eq_ok_iff.1 h).2.2
  next := bind_of_bindAll h
  later _ _ chosen _ ok _ _ last := InstructionRef.bindBy_of_bindChain h chosen ok last
  accepted _ _ := InstructionRef.bindChain_eq_ok_iff h
  chain _ _ := InstructionRef.bindChain_of_bindAll h
  complete same := by rw [fullyBound_of_bindAll h, if_pos same]
  incomplete other := by
    rw [fullyBound_of_bindAll h, if_neg other, typeVars_of_polymorphism poly]

end Instruction

/-- Without types, the two ways to ask whether a variable is left agree. -/
theorem Instruction.fullyBound_of_polymorphic {inst : Instruction}
    (polymorphic : inst.isPolymorphic = true) :
    inst.fullyBound = BoundInstruction.fullyBound ⟨inst, []⟩ := by
  have start : inst.bindAll [] = .ok ⟨inst, []⟩ := bindAll_of_le polymorphic (Nat.zero_le _)
  have name : BoundInstruction.display ⟨inst, []⟩ = inst.name := String.append_empty
  rw [fullyBound, if_pos polymorphic, fullyBound_of_bindAll start, List.length_nil,
    if_neg (Nat.ne_of_lt (numTypeVars_pos polymorphic)), name]
  rfl

/-- A chain may start with the instruction itself, or with no types bound. -/
theorem InstructionRef.bindChain_plain {inst : Instruction}
    (polymorphic : inst.isPolymorphic = true) (step : BindStep) (steps : List BindStep) :
    (InstructionRef.plain inst).bindChain (step :: steps) =
      (InstructionRef.bound ⟨inst, []⟩).bindChain (step :: steps) := by
  have start : inst.bindAll [] = .ok ⟨inst, []⟩ :=
    Instruction.bindAll_of_le polymorphic (Nat.zero_le _)
  have next : (InstructionRef.plain inst).bindBy step =
      (InstructionRef.bound ⟨inst, []⟩).bindBy step := by
    have same : (InstructionRef.plain inst).bind = (InstructionRef.bound ⟨inst, []⟩).bind :=
      funext fun type => (Instruction.bind_of_bindAll start type).symm
    cases step with
    | given type => exact congrFun same type
    | named registry name => rw [bindBy, bindBy, bindNamed, bindNamed, same]
  rw [bindChain, next, bindChain]

end TargetDescription
