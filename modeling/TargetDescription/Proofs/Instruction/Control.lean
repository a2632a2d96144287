import TargetDescription.Instruction.Polymorphism
import TargetDescription.Proofs.Occurrence

/-!
# Controlling type variables

What the inference of polymorphism guarantees. A candidate passes the check just if it *controls*
the instruction: apart from inputs that are declared with free variables of their own, everything
derives from it.

* `otherRoots` are the variables of single inputs, `Controls` is the condition on the candidate.
* `Polymorphism.verify_eq_ok_iff` relates the check to it.
* `Polymorphism.inferred_of_infer` and `Polymorphism.isSome_of_infer` are what a successful
  inference guarantees.
-/

namespace TargetDescription

/-! ## Roots -/

namespace OperandType

theorem root?_eq_some_iff {type : OperandType} {root : TypeVar} :
    type.root? = some root ↔ ∃ v, type = .typeVar v ∧ v.root = root := by
  cases type with
  | concrete type => simp [root?, typeVar?]
  | typeVar v => simp [root?, typeVar?]
  | kind kind => simp [root?, typeVar?]

theorem typeVar?_eq_some_iff {type : OperandType} {v : TypeVar} :
    type.typeVar? = some v ↔ type = .typeVar v := by
  cases type with
  | concrete type => simp [typeVar?]
  | typeVar v => simp [typeVar?]
  | kind kind => simp [typeVar?]

theorem isFree_of_root? {type : OperandType} {root : TypeVar} (h : type.root? = some root) :
    root.isFree = true := by
  obtain ⟨v, -, rfl⟩ := root?_eq_some_iff.1 h
  exact v.isFree_root

theorem freeTypeVar?_eq_some_iff {type : OperandType} {v : TypeVar} :
    type.freeTypeVar? = some v ↔ type = .typeVar v ∧ v.isFree = true := by
  cases type with
  | concrete type => simp [freeTypeVar?]
  | kind kind => simp [freeTypeVar?]
  | typeVar w =>
    rw [freeTypeVar?]
    constructor
    · intro h
      split at h
      case isTrue free =>
        obtain rfl := Option.some.inj h
        exact ⟨rfl, free⟩
      case isFalse => cases h
    · rintro ⟨h, free⟩
      cases h
      exact if_pos free

end OperandType

theorem Operand.isPolymorphic_iff {operand : Operand} :
    operand.isPolymorphic = true ↔ ∃ v, operand.type = .typeVar v := by
  rw [isPolymorphic, Option.isSome_iff_exists]
  exact exists_congr fun _ => OperandType.typeVar?_eq_some_iff

/-- Operands with a type variable are values. -/
theorem Operand.isValue_of_root? {operand : Operand} {root : TypeVar}
    (h : operand.type.root? = some root) : operand.isValue = true := by
  obtain ⟨v, hv, -⟩ := OperandType.root?_eq_some_iff.1 h
  rw [isValue, kind, hv]
  rfl

/-! ## The condition -/

/-- The roots of the operands' types other than `control`, operand by operand. -/
def otherRoots (control : TypeVar) (operands : List Operand) : List TypeVar :=
  operands.filterMap fun operand => operand.type.root?.filter (· ≠ control)

/-- The variable can control an instruction with these inputs and outputs. -/
structure Controls (control : TypeVar) (ins outs : List Operand) : Prop where
  inputs : ∀ operand ∈ ins, ∀ root, operand.type.root? = some root →
    root = control ∨ operand.type = .typeVar root
  once : (otherRoots control ins).Nodup
  outputs : ∀ operand ∈ outs, ∀ root, operand.type.root? = some root → root = control

theorem otherRoots_cons_of_none {control : TypeVar} {operand : Operand} (rest : List Operand)
    (h : operand.type.root? = none) :
    otherRoots control (operand :: rest) = otherRoots control rest :=
  List.filterMap_cons_none (by rw [h, Option.filter_none])

theorem otherRoots_cons_self {control : TypeVar} {operand : Operand} (rest : List Operand)
    (h : operand.type.root? = some control) :
    otherRoots control (operand :: rest) = otherRoots control rest :=
  List.filterMap_cons_none (by simp [h])

theorem otherRoots_cons_of_ne {control root : TypeVar} {operand : Operand} (rest : List Operand)
    (h : operand.type.root? = some root) (other : root ≠ control) :
    otherRoots control (operand :: rest) = root :: otherRoots control rest :=
  List.filterMap_cons_some (by simp [h, other])

theorem mem_otherRoots {control root : TypeVar} {operands : List Operand} :
    root ∈ otherRoots control operands ↔
      ∃ operand ∈ operands, operand.type.root? = some root ∧ root ≠ control := by
  simp [otherRoots, List.mem_filterMap, Option.filter_eq_some_iff]

/-- The roots other than `control` belong to different operands. -/
theorem eq_of_root?_eq {control root : TypeVar} {operands : List Operand}
    (once : (otherRoots control operands).Nodup) (other : root ≠ control) {i j : Nat}
    {first second : Operand} (hi : operands[i]? = some first) (hj : operands[j]? = some second)
    (hfirst : first.type.root? = some root) (hsecond : second.type.root? = some root) : i = j := by
  rw [otherRoots, List.Nodup, List.pairwise_filterMap] at once
  have kept {operand : Operand} (h : operand.type.root? = some root) :
      operand.type.root?.filter (· ≠ control) = some root := by
    simp [h, other]
  apply List.eq_of_pairwise once hi hj
  · exact fun apart => apart root (kept hfirst) root (kept hsecond) rfl
  · exact fun apart => apart root (kept hsecond) root (kept hfirst) rfl

/-- Only values have a type variable, so the others can be left out. -/
theorem otherRoots_filter_isValue (control : TypeVar) (operands : List Operand) :
    otherRoots control (operands.filter Operand.isValue) = otherRoots control operands := by
  rw [otherRoots, otherRoots, List.filterMap_filter]
  congr 1
  funext operand
  cases h : operand.type.root? with
  | none => simp
  | some root => rw [if_pos (Operand.isValue_of_root? h)]

theorem controls_filter_isValue {control : TypeVar} {ins outs : List Operand} :
    Controls control (ins.filter Operand.isValue) outs ↔ Controls control ins outs := by
  constructor
  · rintro ⟨inputs, once, outputs⟩
    refine ⟨fun operand mem root h => ?_, otherRoots_filter_isValue control ins ▸ once, outputs⟩
    exact inputs operand (List.mem_filter.2 ⟨mem, Operand.isValue_of_root? h⟩) root h
  · rintro ⟨inputs, once, outputs⟩
    refine ⟨fun operand mem => ?_, (otherRoots_filter_isValue control ins).symm ▸ once, outputs⟩
    exact inputs operand (List.mem_filter.1 mem).1

/-! ## The check -/

namespace Polymorphism

/-- The scan collects the roots of the inputs, as long as each is the declared type of its input
and new. -/
theorem collectOthers_eq_ok_iff {inst : String} {control : TypeVar} {found others : List TypeVar}
    (nodup : found.Nodup) (operands : List Operand) :
    collectOthers inst control found operands = .ok others ↔
      others = found ++ otherRoots control operands ∧ others.Nodup ∧
        ∀ operand ∈ operands, ∀ root, operand.type.root? = some root →
          root = control ∨ operand.type = .typeVar root := by
  induction operands generalizing found with
  | nil =>
    rw [collectOthers, otherRoots, List.filterMap_nil, List.append_nil, Except.ok.injEq]
    constructor
    · rintro rfl
      exact ⟨rfl, nodup, List.forall_mem_nil _⟩
    · exact fun h => h.1.symm
  | cons operand rest ih =>
    rw [collectOthers, List.forall_mem_cons]
    cases hroot : operand.type.root? with
    | none => simp [ih nodup, otherRoots_cons_of_none rest hroot]
    | some root =>
      dsimp only
      by_cases same : root = control
      · subst same
        simp [ih nodup, otherRoots_cons_self rest hroot]
      · rw [if_neg same, otherRoots_cons_of_ne rest hroot same]
        by_cases declared : operand.type = .typeVar root
        · have typed := OperandType.typeVar?_eq_some_iff.2 declared
          rw [if_neg fun untyped => untyped typed]
          by_cases seen : root ∈ found
          · rw [if_pos seen]
            refine iff_of_false (by simp) ?_
            rintro ⟨rfl, distinct, -⟩
            exact (List.nodup_append.1 distinct).2.2 root seen root List.mem_cons_self rfl
          · rw [if_neg seen, ih (List.nodup_append_singleton nodup seen), List.append_assoc,
              List.singleton_append]
            simp [declared]
        · have untyped := fun h => declared (OperandType.typeVar?_eq_some_iff.1 h)
          rw [if_pos untyped]
          exact iff_of_false (by simp) fun h => (h.2.2.1 root rfl).elim same declared

theorem checkOutputs_eq_ok_iff {inst : String} {control : TypeVar} (outs : List Operand) :
    checkOutputs inst control outs = .ok () ↔
      ∀ operand ∈ outs, ∀ root, operand.type.root? = some root → root = control := by
  induction outs with
  | nil => simp [checkOutputs]
  | cons operand rest ih =>
    rw [checkOutputs, List.forall_mem_cons]
    cases hroot : operand.type.root? with
    | none => simp [ih]
    | some root =>
      by_cases same : root = control
      · simp [ih, same]
      · simp [same]

/-- **The check accepts exactly the variables that can control the instruction.** -/
theorem verify_eq_ok_iff {inst : String} {control : TypeVar} {values outs : List Operand}
    {others : List TypeVar} :
    verify inst control values outs = .ok others ↔
      Controls control values outs ∧ others = otherRoots control values := by
  have collect (found : List TypeVar) :=
    @collectOthers_eq_ok_iff inst control [] found List.nodup_nil values
  rw [verify]
  constructor
  · intro h
    cases hothers : collectOthers inst control [] values with
    | error error => simp [hothers] at h
    | ok found =>
      obtain ⟨heq, distinct, inputs⟩ := (collect found).1 hothers
      cases hcheck : checkOutputs inst control outs with
      | error error => simp [hothers, hcheck] at h
      | ok =>
        simp only [hothers, hcheck, Except.ok.injEq] at h
        subst h
        rw [List.nil_append] at heq
        exact ⟨⟨inputs, heq ▸ distinct, (checkOutputs_eq_ok_iff outs).1 hcheck⟩, heq⟩
  · rintro ⟨⟨inputs, once, outputs⟩, rfl⟩
    have hothers := (collect (otherRoots control values)).2 ⟨rfl, once, inputs⟩
    simp only [hothers, (checkOutputs_eq_ok_iff outs).2 outputs]

/-! ## The inference -/

variable {inst : String} {format : InstructionFormat} {ins outs : List Operand}

theorem attempt_eq_ok_iff {fromOperand : Bool} {values : List Operand} {control : TypeVar}
    {p : Polymorphism} :
    attempt inst fromOperand values outs control = .ok p ↔
      Controls control values outs ∧ p = ⟨control, otherRoots control values, fromOperand⟩ := by
  rw [attempt]
  cases h : verify inst control values outs with
  | error error =>
    refine iff_of_false (by simp) fun ⟨controls, _⟩ => ?_
    simp [verify_eq_ok_iff.2 ⟨controls, rfl⟩] at h
  | ok others =>
    obtain ⟨controls, rfl⟩ := verify_eq_ok_iff.1 h
    simp [controls, eq_comm]

/-- What stands behind an attempt that worked out: the operand it was made with is declared with the
controlling variable. -/
structure Inferred (p : Polymorphism) (values outs : List Operand) (operand : Operand) : Prop where
  declared : operand.type = .typeVar p.control
  free : p.control.isFree = true
  controls : Controls p.control values outs
  others : p.others = otherRoots p.control values

theorem inferred_of_attemptOperand? {p : Polymorphism}
    (h : attemptOperand? inst format ins outs = some (.ok p)) :
    ∃ operand, format.typevarInput? ins = some operand ∧
      Inferred p (format.valueInputs ins) outs operand := by
  rw [attemptOperand?, Option.map_eq_some_iff] at h
  obtain ⟨control, hcontrol, h⟩ := h
  obtain ⟨operand, hoperand, hfree⟩ := Option.bind_eq_some_iff.1 hcontrol
  obtain ⟨declared, free⟩ := OperandType.freeTypeVar?_eq_some_iff.1 hfree
  obtain ⟨controls, rfl⟩ := attempt_eq_ok_iff.1 h
  exact ⟨operand, hoperand, declared, free, controls, rfl⟩

theorem inferred_of_attemptOutput {first : Operand} {p : Polymorphism}
    (h : attemptOutput inst format ins outs first = .ok p) :
    Inferred p (format.valueInputs ins) outs first := by
  rw [attemptOutput] at h
  cases hfree : first.type.freeTypeVar? with
  | none => simp [hfree] at h
  | some control =>
    rw [hfree] at h
    obtain ⟨declared, free⟩ := OperandType.freeTypeVar?_eq_some_iff.1 hfree
    obtain ⟨controls, rfl⟩ := attempt_eq_ok_iff.1 h
    exact ⟨declared, free, controls, rfl⟩

theorem occurs_iff {values : List Operand} :
    (values.any Operand.isPolymorphic || outs.any Operand.isPolymorphic) = true ↔
      ∃ operand ∈ values ++ outs, ∃ v, operand.type = .typeVar v := by
  rw [← List.any_append, List.any_eq_true]
  simp only [Operand.isPolymorphic_iff]

theorem exists_of_map_some {outcome : Except Error Polymorphism}
    {polymorphism : Option Polymorphism} (h : outcome.map some = .ok polymorphism) :
    ∃ p, polymorphism = some p ∧ outcome = .ok p := by
  cases outcome with
  | error error => cases h
  | ok p => exact ⟨p, (Except.ok.inj h).symm, rfl⟩

/-- An inference that succeeds has either nothing to do or one attempt that worked out. -/
theorem cases_of_infer {polymorphism : Option Polymorphism}
    (h : infer inst format ins outs = .ok polymorphism) :
    (polymorphism = none ∧
        ¬ ∃ operand ∈ format.valueInputs ins ++ outs, ∃ v, operand.type = .typeVar v) ∨
      ∃ p, polymorphism = some p ∧
        (∃ operand ∈ format.valueInputs ins ++ outs, ∃ v, operand.type = .typeVar v) ∧
        (attemptOperand? inst format ins outs = some (.ok p) ∨
          ∃ first, outs.head? = some first ∧
            attemptOutput inst format ins outs first = .ok p) := by
  rw [← occurs_iff]
  unfold infer at h
  split at h
  case isFalse monomorphic => exact Or.inl ⟨(Except.ok.inj h).symm, monomorphic⟩
  case isTrue occurs =>
    refine Or.inr ?_
    cases hoperand : attemptOperand? inst format ins outs with
    | some attempt =>
      cases attempt with
      | ok p =>
        rw [hoperand] at h
        exact ⟨p, (Except.ok.inj h).symm, occurs, Or.inl rfl⟩
      | error error =>
        cases outs with
        | nil => simp [hoperand] at h
        | cons first rest =>
          rw [hoperand] at h
          obtain ⟨p, heq, houtput⟩ := exists_of_map_some h
          exact ⟨p, heq, occurs, Or.inr ⟨first, rfl, houtput⟩⟩
    | none =>
      cases outs with
      | nil => simp [hoperand] at h
      | cons first rest =>
        rw [hoperand] at h
        obtain ⟨p, heq, houtput⟩ := exists_of_map_some h
        exact ⟨p, heq, occurs, Or.inr ⟨first, rfl, houtput⟩⟩

/-- Whichever attempt succeeds, the variable comes from the designated input or the first output. -/
theorem inferred_of_infer {p : Polymorphism}
    (h : infer inst format ins outs = .ok (some p)) :
    ∃ operand, (format.typevarInput? ins = some operand ∨ outs.head? = some operand) ∧
      Inferred p (format.valueInputs ins) outs operand := by
  obtain ⟨⟨⟩, -⟩ | ⟨_, ⟨⟩, -, hoperand | ⟨first, hfirst, houtput⟩⟩ := cases_of_infer h
  · obtain ⟨operand, hoperand, inferred⟩ := inferred_of_attemptOperand? hoperand
    exact ⟨operand, Or.inl hoperand, inferred⟩
  · exact ⟨first, Or.inr hfirst, inferred_of_attemptOutput houtput⟩

/-- An inference that succeeds finds variables just if there are any. -/
theorem isSome_of_infer {polymorphism : Option Polymorphism}
    (h : infer inst format ins outs = .ok polymorphism) :
    polymorphism.isSome = true ↔
      ∃ operand ∈ format.valueInputs ins ++ outs, ∃ v, operand.type = .typeVar v := by
  obtain ⟨rfl, none⟩ | ⟨p, rfl, some, -⟩ := cases_of_infer h
  · exact iff_of_false (by simp) none
  · exact iff_of_true rfl some

end Polymorphism

end TargetDescription
