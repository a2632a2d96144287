import TargetDescription.Proofs.Instruction.Governs

/-!
# Which variable controls an instruction

Two variables may control an instruction: the one that its designated input is declared with, and
the one of its first output. The inference tries them in this order. This module says what it
answers in every case, refusals included.

* `Polymorphism.Violates` is the first thing that keeps a variable from controlling an instruction,
  with the error that reports it; `Polymorphism.verify_eq_error_iff` relates the check to it.
* `Polymorphism.Infers` are the rules of the inference, one for each way in which it can end.
* `Polymorphism.infer_eq_map_some_iff` says that the inference follows these rules.
* `build_infers` is the main result.
-/

namespace TargetDescription

namespace Polymorphism

/-! ## What the check reports -/

/-- Something keeps the variable from controlling an instruction with these values and outputs, and
this is the error: the first value that neither derives from it nor has a new variable to itself,
or else the first output that does not derive from it. -/
inductive Violates (inst : String) (control : TypeVar) (values outs : List Operand) : Error → Prop
  | underived {before after : List Operand} {operand : Operand} {root : TypeVar}
      (here : values = before ++ operand :: after) (fits : Controls control before [])
      (rooted : operand.type.root? = some root) (other : root ≠ control)
      (derived : operand.type ≠ .typeVar root) :
      Violates inst control values outs
        (.underivedTypevar inst operand.quoted operand.type.name control.name)
  | reused {before after : List Operand} {operand : Operand} {root : TypeVar}
      (here : values = before ++ operand :: after) (fits : Controls control before [])
      (rooted : operand.type.root? = some root) (other : root ≠ control)
      (declared : operand.type = .typeVar root)
      (seen : ∃ earlier ∈ before, earlier.type = .typeVar root) :
      Violates inst control values outs (.typevarReuseViolation inst root.name)
  | output {before after : List Operand} {operand : Operand} {root : TypeVar}
      (here : outs = before ++ operand :: after) (fits : Controls control values before)
      (rooted : operand.type.root? = some root) (other : root ≠ control) :
      Violates inst control values outs (.outputTypevarMismatch inst operand.quoted control.name)

variable {inst : String} {control : TypeVar} {values outs : List Operand} {error : Error}

/-- The scan takes up one operand and goes on with the variables found so far. -/
theorem collectOthers_cons (found : List TypeVar) (operand : Operand) (rest : List Operand) :
    collectOthers inst control found (operand :: rest) =
      (collectOthers inst control found [operand]).bind fun others =>
        collectOthers inst control others rest := by
  rw [collectOthers, collectOthers]
  cases operand.type.root? with
  | none => rfl
  | some root =>
    dsimp only
    split_ifs <;> rfl

theorem collectOthers_eq_ok_iff_controls {others : List TypeVar} :
    collectOthers inst control [] values = .ok others ↔
      Controls control values [] ∧ others = otherRoots control values := by
  rw [collectOthers_eq_ok_iff List.nodup_nil, List.nil_append]
  constructor
  · rintro ⟨rfl, once, inputs⟩
    exact ⟨⟨inputs, once, List.forall_mem_nil _⟩, rfl⟩
  · rintro ⟨⟨inputs, once, -⟩, rfl⟩
    exact ⟨rfl, once, inputs⟩

/-- The scan refuses an operand with a root of its own, if it does not declare it or comes after
another one that has it. -/
theorem collectOthers_singleton_eq_error_iff {found : List TypeVar} {operand : Operand} :
    collectOthers inst control found [operand] = .error error ↔
      ∃ root, operand.type.root? = some root ∧ root ≠ control ∧
        (operand.type ≠ .typeVar root ∧
            error = .underivedTypevar inst operand.quoted operand.type.name control.name ∨
          operand.type = .typeVar root ∧ root ∈ found ∧
            error = .typevarReuseViolation inst root.name) := by
  rw [collectOthers]
  cases hroot : operand.type.root? with
  | none => simp [collectOthers]
  | some root =>
    have typed : operand.type.typeVar? ≠ some root ↔ operand.type ≠ .typeVar root :=
      not_congr OperandType.typeVar?_eq_some_iff
    dsimp only
    split_ifs with same untyped seen
    · simp [collectOthers, same]
    · simp [same, typed.1 untyped, @eq_comm _ error]
    · simp [same, not_not.1 (mt typed.2 untyped), seen, @eq_comm _ error]
    · simp [collectOthers, same, not_not.1 (mt typed.2 untyped), seen]

/-- The values are refused at the first one that neither derives from the variable nor has a new
variable to itself. -/
theorem collectOthers_eq_error_iff :
    collectOthers inst control [] values = .error error ↔
      ∃ before operand after, values = before ++ operand :: after ∧ Controls control before [] ∧
        collectOthers inst control (otherRoots control before) [operand] = .error error := by
  refine (List.scan_eq_error_iff (collectOthers inst control) (fun _ => rfl)
    collectOthers_cons []).trans ?_
  refine exists_congr fun before => exists_congr fun operand => exists_congr fun after => ?_
  simp only [collectOthers_eq_ok_iff_controls]
  constructor
  · rintro ⟨_, here, ⟨fits, rfl⟩, refused⟩
    exact ⟨here, fits, refused⟩
  · rintro ⟨here, fits, refused⟩
    exact ⟨_, here, ⟨fits, rfl⟩, refused⟩

theorem checkOutputs_cons (operand : Operand) (rest : List Operand) :
    checkOutputs inst control (operand :: rest) =
      (checkOutputs inst control [operand]).bind fun () => checkOutputs inst control rest := by
  rw [checkOutputs, checkOutputs]
  cases operand.type.root? with
  | none => rfl
  | some root =>
    dsimp only
    split_ifs <;> rfl

theorem checkOutputs_singleton_eq_error_iff {operand : Operand} :
    checkOutputs inst control [operand] = .error error ↔
      ∃ root, operand.type.root? = some root ∧ root ≠ control ∧
        error = .outputTypevarMismatch inst operand.quoted control.name := by
  rw [checkOutputs]
  cases operand.type.root? with
  | none => simp [checkOutputs]
  | some root => by_cases same : root = control <;> simp [checkOutputs, same, @eq_comm _ error]

/-- The outputs are refused at the first one that does not derive from the variable. -/
theorem checkOutputs_eq_error_iff :
    checkOutputs inst control outs = .error error ↔
      ∃ before operand after, outs = before ++ operand :: after ∧
        checkOutputs inst control before = .ok () ∧
        checkOutputs inst control [operand] = .error error := by
  refine (List.scan_eq_error_iff (fun _ => checkOutputs inst control) (fun _ => rfl)
    (fun _ => checkOutputs_cons) ()).trans ?_
  refine exists_congr fun before => exists_congr fun operand => exists_congr fun after => ?_
  exact ⟨fun ⟨_, here, passed, refused⟩ => ⟨here, passed, refused⟩,
    fun ⟨here, passed, refused⟩ => ⟨(), here, passed, refused⟩⟩

/-- **The check fails with the first thing that is in the way of the variable.** -/
theorem verify_eq_error_iff :
    verify inst control values outs = .error error ↔ Violates inst control values outs error := by
  rw [verify]
  constructor
  · intro h
    cases collected : collectOthers inst control [] values with
    | error first =>
      rw [collected, Except.error.injEq] at h
      subst h
      obtain ⟨before, operand, after, here, fits, refused⟩ := collectOthers_eq_error_iff.1 collected
      obtain ⟨root, rooted, other, ⟨derived, rfl⟩ | ⟨declared, seen, rfl⟩⟩ :=
        collectOthers_singleton_eq_error_iff.1 refused
      · exact .underived here fits rooted other derived
      · obtain ⟨earlier, mem, same, -⟩ := mem_otherRoots.1 seen
        exact .reused here fits rooted other declared
          ⟨earlier, mem, (fits.inputs earlier mem root same).resolve_left other⟩
    | ok others =>
      obtain ⟨fits, rfl⟩ := collectOthers_eq_ok_iff_controls.1 collected
      cases checked : checkOutputs inst control outs with
      | ok => simp [collected, checked] at h
      | error first =>
        simp only [collected, checked, Except.error.injEq] at h
        subst h
        obtain ⟨before, operand, after, here, passed, refused⟩ :=
          checkOutputs_eq_error_iff.1 checked
        obtain ⟨root, rooted, other, rfl⟩ := checkOutputs_singleton_eq_error_iff.1 refused
        exact .output here ⟨fits.inputs, fits.once, (checkOutputs_eq_ok_iff before).1 passed⟩ rooted
          other
  · intro violates
    cases violates with
    | underived here fits rooted other derived =>
      have refused : collectOthers inst control [] values = .error _ :=
        collectOthers_eq_error_iff.2 ⟨_, _, _, here, fits,
          collectOthers_singleton_eq_error_iff.2 ⟨_, rooted, other, .inl ⟨derived, rfl⟩⟩⟩
      rw [refused]
    | reused here fits rooted other declared seen =>
      obtain ⟨earlier, mem, same⟩ := seen
      have known := mem_otherRoots.2 ⟨earlier, mem, same ▸ declared ▸ rooted, other⟩
      have refused : collectOthers inst control [] values = .error _ :=
        collectOthers_eq_error_iff.2 ⟨_, _, _, here, fits,
          collectOthers_singleton_eq_error_iff.2 ⟨_, rooted, other, .inr ⟨declared, known, rfl⟩⟩⟩
      rw [refused]
    | output here fits rooted other =>
      have inputs : Controls control values [] := ⟨fits.inputs, fits.once, List.forall_mem_nil _⟩
      have refused : checkOutputs inst control outs = .error _ :=
        checkOutputs_eq_error_iff.2 ⟨_, _, _, here, (checkOutputs_eq_ok_iff _).2 fits.outputs,
          checkOutputs_singleton_eq_error_iff.2 ⟨_, rooted, other, rfl⟩⟩
      rw [collectOthers_eq_ok_iff_controls.2 ⟨inputs, rfl⟩, refused]

theorem exists_violates_of_not_controls (h : ¬ Controls control values outs) :
    ∃ error, Violates inst control values outs error := by
  cases verified : verify inst control values outs with
  | ok others => exact absurd (verify_eq_ok_iff.1 verified).1 h
  | error error => exact ⟨error, verify_eq_error_iff.1 verified⟩

theorem attempt_eq_error_iff {fromOperand : Bool} :
    attempt inst fromOperand values outs control = .error error ↔
      Violates inst control values outs error := by
  rw [attempt, ← verify_eq_error_iff]
  cases verify inst control values outs <;> simp

end Polymorphism

/-! ## The rules -/

/-- The operand is declared with this free type variable. -/
def Operand.DeclaresFree (operand : Operand) (v : TypeVar) : Prop :=
  operand.type = .typeVar v ∧ v.isFree = true

/-- The designated input is declared with this free type variable. -/
def InstructionFormat.Offers (format : InstructionFormat) (ins : List Operand)
    (v : TypeVar) : Prop :=
  ∃ operand, format.typevarInput? ins = some operand ∧ operand.DeclaresFree v

namespace Polymorphism

/-- The rules of the inference for an instruction with type variables. The free variable of the
designated input controls it if it can; the rules `byOutput`, `noOutput` and `outputFails` are for
the case that it cannot, or that there is no such variable. -/
inductive Infers (inst : String) (format : InstructionFormat) (ins : List Operand) :
    List Operand → Except Error Polymorphism → Prop
  | byInput {outs : List Operand} {v : TypeVar} (offered : format.Offers ins v)
      (controls : Controls v (format.valueInputs ins) outs) :
      Infers inst format ins outs (.ok ⟨v, otherRoots v (format.valueInputs ins), true⟩)
  | byOutput {first : Operand} {rest : List Operand} {v : TypeVar}
      (fails : ∀ u, format.Offers ins u →
        ¬ Controls u (format.valueInputs ins) (first :: rest))
      (declared : first.DeclaresFree v)
      (controls : Controls v (format.valueInputs ins) (first :: rest)) :
      Infers inst format ins (first :: rest)
        (.ok ⟨v, otherRoots v (format.valueInputs ins), false⟩)
  | inputFails {v : TypeVar} {error : Error} (offered : format.Offers ins v)
      (violates : Violates inst v (format.valueInputs ins) [] error) :
      Infers inst format ins [] (.error error)
  | noInput (missing : ∀ v, ¬ format.Offers ins v) :
      Infers inst format ins []
        (.error (.ambiguousControllingTypevar inst
          "typevar_operand must be a free type variable"))
  | noOutput {first : Operand} {rest : List Operand}
      (fails : ∀ u, format.Offers ins u →
        ¬ Controls u (format.valueInputs ins) (first :: rest))
      (missing : ∀ v, ¬ first.DeclaresFree v) :
      Infers inst format ins (first :: rest)
        (.error (.ambiguousControllingTypevar inst "first result must be a free type variable"))
  | outputFails {first : Operand} {rest : List Operand} {v : TypeVar} {error : Error}
      (fails : ∀ u, format.Offers ins u →
        ¬ Controls u (format.valueInputs ins) (first :: rest))
      (declared : first.DeclaresFree v)
      (violates : Violates inst v (format.valueInputs ins) (first :: rest) error) :
      Infers inst format ins (first :: rest) (.error error)

variable {format : InstructionFormat} {ins : List Operand}

theorem offers_iff {v : TypeVar} :
    format.Offers ins v ↔
      ((format.typevarInput? ins).bind fun operand => operand.type.freeTypeVar?) = some v := by
  simp only [InstructionFormat.Offers, Operand.DeclaresFree, Option.bind_eq_some_iff,
    OperandType.freeTypeVar?_eq_some_iff]

theorem attemptOperand?_of_offers {v : TypeVar} (offered : format.Offers ins v) :
    attemptOperand? inst format ins outs =
      some (attempt inst true (format.valueInputs ins) outs v) := by
  rw [attemptOperand?, offers_iff.1 offered, Option.map_some]

theorem attemptOperand?_eq_none (missing : ∀ v, ¬ format.Offers ins v) :
    attemptOperand? inst format ins outs = none := by
  rw [attemptOperand?, Option.map_eq_none_iff, Option.eq_none_iff_forall_ne_some]
  exact fun v h => missing v (offers_iff.2 h)

/-- The attempt with the designated input fails just if no variable of it can control. -/
theorem attemptOperand?_ne_ok_iff :
    (∀ p, attemptOperand? inst format ins outs ≠ some (.ok p)) ↔
      ∀ v, format.Offers ins v → ¬ Controls v (format.valueInputs ins) outs := by
  constructor
  · intro h v offered controls
    refine h ⟨v, otherRoots v (format.valueInputs ins), true⟩ ?_
    rw [attemptOperand?_of_offers offered, attempt_eq_ok_iff.2 ⟨controls, rfl⟩]
  · intro h p attempted
    obtain ⟨operand, hoperand, inferred⟩ := inferred_of_attemptOperand? attempted
    exact h p.control ⟨operand, hoperand, inferred.declared, inferred.free⟩ inferred.controls

/-- An output has its turn if the designated input has no variable that can control. -/
theorem infer_cons_of_not_controls {first : Operand} {rest : List Operand}
    (occurs : ((format.valueInputs ins).any Operand.isPolymorphic ||
      (first :: rest).any Operand.isPolymorphic) = true)
    (fails : ∀ v, format.Offers ins v →
      ¬ Controls v (format.valueInputs ins) (first :: rest)) :
    infer inst format ins (first :: rest) =
      (attemptOutput inst format ins (first :: rest) first).map some := by
  have noInput : ∀ p, attemptOperand? inst format ins (first :: rest) ≠ some (.ok p) :=
    attemptOperand?_ne_ok_iff.2 fails
  unfold infer
  rw [if_pos occurs]
  cases attempted : attemptOperand? inst format ins (first :: rest) with
  | none => rfl
  | some outcome =>
    cases outcome with
    | error error => rfl
    | ok p => exact absurd attempted (noInput p)

/-- Every instruction comes under some rule. -/
theorem exists_infers (inst : String) (format : InstructionFormat) (ins outs : List Operand) :
    ∃ result, Infers inst format ins outs result := by
  by_cases h : ∃ v, format.Offers ins v ∧ Controls v (format.valueInputs ins) outs
  · obtain ⟨v, offered, controls⟩ := h
    exact ⟨_, .byInput offered controls⟩
  have fails : ∀ v, format.Offers ins v → ¬ Controls v (format.valueInputs ins) outs :=
    fun v offered controls => h ⟨v, offered, controls⟩
  cases outs with
  | nil =>
    by_cases offered : ∃ v, format.Offers ins v
    · obtain ⟨v, offered⟩ := offered
      obtain ⟨error, violates⟩ := exists_violates_of_not_controls (fails v offered)
      exact ⟨_, .inputFails offered violates⟩
    · exact ⟨_, .noInput (not_exists.1 offered)⟩
  | cons first rest =>
    by_cases declared : ∃ v, first.DeclaresFree v
    · obtain ⟨v, declared⟩ := declared
      by_cases controls : Controls v (format.valueInputs ins) (first :: rest)
      · exact ⟨_, .byOutput fails declared controls⟩
      · obtain ⟨error, violates⟩ := exists_violates_of_not_controls controls
        exact ⟨_, .outputFails fails declared violates⟩
    · exact ⟨_, .noOutput fails (not_exists.1 declared)⟩

theorem infer_of_infers {result : Except Error Polymorphism}
    (occurs : ((format.valueInputs ins).any Operand.isPolymorphic ||
      outs.any Operand.isPolymorphic) = true)
    (infers : Infers inst format ins outs result) :
    infer inst format ins outs = result.map some := by
  cases infers with
  | byInput offered controls =>
    unfold infer
    rw [if_pos occurs, attemptOperand?_of_offers offered,
      attempt_eq_ok_iff.2 ⟨controls, rfl⟩]
    rfl
  | byOutput fails declared controls =>
    rw [infer_cons_of_not_controls occurs fails, attemptOutput,
      OperandType.freeTypeVar?_eq_some_iff.2 declared]
    dsimp only
    rw [attempt_eq_ok_iff.2 ⟨controls, rfl⟩]
  | inputFails offered violates =>
    unfold infer
    rw [if_pos occurs, attemptOperand?_of_offers offered, attempt_eq_error_iff.2 violates]
    rfl
  | noInput missing =>
    unfold infer
    rw [if_pos occurs, attemptOperand?_eq_none missing]
    rfl
  | noOutput fails missing =>
    have none := Option.eq_none_iff_forall_ne_some.2 fun v h =>
      missing v (OperandType.freeTypeVar?_eq_some_iff.1 h)
    rw [infer_cons_of_not_controls occurs fails, attemptOutput, none]
  | outputFails fails declared violates =>
    rw [infer_cons_of_not_controls occurs fails, attemptOutput,
      OperandType.freeTypeVar?_eq_some_iff.2 declared]
    dsimp only
    rw [attempt_eq_error_iff.2 violates]

theorem eq_of_map_some_eq {a b : Except Error Polymorphism} (h : a.map some = b.map some) :
    a = b := by
  cases a <;> cases b <;> simp_all [Except.map]

/-- **The inference ends just as its rules say.** -/
theorem infer_eq_map_some_iff {result : Except Error Polymorphism}
    (occurs : ((format.valueInputs ins).any Operand.isPolymorphic ||
      outs.any Operand.isPolymorphic) = true) :
    infer inst format ins outs = result.map some ↔ Infers inst format ins outs result := by
  refine ⟨fun h => ?_, infer_of_infers occurs⟩
  obtain ⟨actual, infers⟩ := exists_infers inst format ins outs
  rwa [eq_of_map_some_eq (h.symm.trans (infer_of_infers occurs infers))]

/-- If the output has its turn, then the variable is not the one that the designated input is
declared with: that one has failed the same check. -/
theorem fromOperand_iff_of_infers {p : Polymorphism}
    (infers : Infers inst format ins outs (.ok p)) :
    p.fromOperand = true ↔
      ∃ operand, format.typevarInput? ins = some operand ∧ operand.type = .typeVar p.control := by
  cases infers with
  | byInput offered controls =>
    obtain ⟨operand, hoperand, declared, -⟩ := offered
    exact iff_of_true rfl ⟨operand, hoperand, declared⟩
  | byOutput fails declared controls =>
    refine iff_of_false Bool.false_ne_true fun ⟨operand, hoperand, same⟩ => ?_
    exact fails _ ⟨operand, hoperand, same, declared.2⟩ controls

end Polymorphism

namespace Instruction

variable {inst : Instruction} {p : Polymorphism}

theorem WellDefined.infers (defined : inst.WellDefined) (h : inst.polymorphism = some p) :
    Polymorphism.Infers inst.name inst.format inst.ins inst.outs (.ok p) := by
  have inferred := h ▸ defined.inferred
  have occurs := (Polymorphism.isSome_of_infer inferred).1 rfl
  exact (Polymorphism.infer_eq_map_some_iff (Polymorphism.occurs_iff.2 occurs)).1 inferred

end Instruction

theorem InstructionDeclaration.map_polymorphism_build {declaration : InstructionDeclaration}
    {formats : FormatRegistry} {format : InstructionFormat}
    (found : formats.lookup declaration.ins declaration.outs = .ok format) (origin : Stamp) :
    (declaration.build formats origin).map Instruction.polymorphism =
      Polymorphism.infer declaration.name format declaration.ins declaration.outs := by
  rw [build, found]
  dsimp only
  cases Polymorphism.infer declaration.name format declaration.ins declaration.outs <;> rfl

theorem Catalog.result_define_of_current {catalog : Catalog} {group : OpenInstructionGroup}
    {declaration : InstructionDeclaration}
    (current : catalog.current = some ⟨.instructions, group.name⟩)
    (new : declaration.name ∉ catalog.instructionNames) :
    (catalog.define group declaration).result =
      declaration.build catalog.formats catalog.origin := by
  rw [define, checkSlot, if_pos current]
  dsimp only
  rw [if_neg new]
  cases declaration.build catalog.formats catalog.origin <;> rfl

/-- **What becomes of an instruction with type variables is settled by the candidates for its
control.** If the designated input is declared with a free variable that can control the
instruction, then that variable does; or else that of the first output, if it can; or else the
instruction is refused, with the error of the rule that applies. Defining the instruction in the
group that is open, under a new name, comes to the same. An instruction is controlled from its
designated input just if that input is declared with the controlling variable. -/
theorem build_infers :
    (∀ (formats : FormatRegistry) (origin : Stamp) (declaration : InstructionDeclaration)
        (format : InstructionFormat),
        formats.lookup declaration.ins declaration.outs = .ok format →
        (∃ operand ∈ declaration.ins ++ declaration.outs, ∃ v, operand.type = .typeVar v) →
        ∀ result : Except Error Polymorphism,
          (declaration.build formats origin).map Instruction.polymorphism = result.map some ↔
            Polymorphism.Infers declaration.name format declaration.ins declaration.outs result) ∧
      (∀ (catalog : Catalog) (group : OpenInstructionGroup) (declaration : InstructionDeclaration),
        catalog.current = some ⟨.instructions, group.name⟩ →
        declaration.name ∉ catalog.instructionNames →
        (catalog.define group declaration).result =
          declaration.build catalog.formats catalog.origin) ∧
      ∀ (catalog : Catalog) (group : OpenInstructionGroup) (declaration : InstructionDeclaration)
        (inst : Instruction) (p : Polymorphism),
        (catalog.define group declaration).result = .ok inst → inst.polymorphism = some p →
        (p.fromOperand = true ↔ ∃ operand, inst.format.typevarInput? inst.ins = some operand ∧
          operand.type = .typeVar p.control) := by
  refine ⟨fun formats origin declaration format found occurs result => ?_,
    fun _ _ _ => Catalog.result_define_of_current, fun _ _ _ inst p defined h => ?_⟩
  · rw [InstructionDeclaration.map_polymorphism_build found]
    refine Polymorphism.infer_eq_map_some_iff (Polymorphism.occurs_iff.2 ?_)
    exact (InstructionFormat.exists_typeVar_iff (FormatRegistry.kindNames_of_lookup found)).2 occurs
  · have wellDefined := Instruction.wellDefined_of_define defined
    exact Polymorphism.fromOperand_iff_of_infers (wellDefined.infers h)

/-- The polymorphism of `conversion`: the result controls, the input has a variable to itself. -/
def controlledByResult : Polymorphism :=
  ⟨.free ⟨2⟩ "To" "", [.free ⟨1⟩ "From" ""], false⟩

theorem build_infers_conversion :
    (∃ format, unaryCatalog.formats.lookup conversion.ins conversion.outs = .ok format ∧
        Polymorphism.Infers "convert" format conversion.ins conversion.outs
          (.ok controlledByResult)) ∧
      ∃ inst, (unaryCatalog.define ⟨"base", "", []⟩ conversion).result = .ok inst ∧
        inst.polymorphism = some controlledByResult ∧
        ¬ ∃ operand, inst.format.typevarInput? inst.ins = some operand ∧
          operand.type = .typeVar controlledByResult.control := by
  obtain ⟨rules, defines, fromInput⟩ := build_infers
  have found : ∃ format,
      unaryCatalog.formats.lookup conversion.ins conversion.outs = .ok format := ⟨_, rfl⟩
  have built : ∃ inst, conversion.build unaryCatalog.formats unaryCatalog.origin = .ok inst ∧
      inst.polymorphism = some controlledByResult := ⟨_, rfl, rfl⟩
  obtain ⟨format, found⟩ := found
  obtain ⟨inst, built, polymorphism⟩ := built
  have defined := (defines unaryCatalog ⟨"base", "", []⟩ conversion rfl (by decide)).trans built
  refine ⟨⟨format, found, ?_⟩, inst, defined, polymorphism, fun same => ?_⟩
  · refine (rules unaryCatalog.formats unaryCatalog.origin conversion format found
      ⟨_, List.mem_cons_self, _, rfl⟩ (.ok controlledByResult)).1 ?_
    rw [built, Except.map, polymorphism]
    rfl
  · cases (fromInput _ _ _ inst _ defined polymorphism).2 same

end TargetDescription
