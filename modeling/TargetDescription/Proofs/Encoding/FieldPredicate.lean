import TargetDescription.Proofs.Encoding.Finish
import TargetDescription.Proofs.Predicate.Compatibility

/-!
# What field predicates are about

The field predicate of an encoding is evaluated on its instruction, so it should be about the format
of that instruction. A recipe is checked for this when it is declared. What an encoding adds is not:
it is compared with the predicate of the recipe if there is one, and goes unchecked otherwise.

* `Encoding.ReadsOwnFormat` says that the predicate is about the format of the instruction.
* `readsOwnFormat_iff` says exactly when an encoding keeps to this, and `make_foreignField` shows
  an encoding that does not.
* `Target.fieldPredicates_evaluable_iff` passes from the encodings to the finished target.
-/

namespace TargetDescription

/-! ## What is checked -/

theorem Recipe.declare_eq_ok_iff {stamp : Stamp} {name : String} {format : InstructionFormat}
    {own settings : Option Predicate} {recipe : Recipe} :
    Recipe.declare stamp name format own settings = .ok recipe ↔
      (∀ p, own = some p → p.context = .format format) ∧
        recipe = ⟨stamp, name, format, own, settings⟩ := by
  cases own with
  | none => simp [declare, eq_comm]
  | some p =>
    rw [declare]
    split
    case isTrue h => simp [h, eq_comm]
    case isFalse h => simp [h]

/-- An encoding takes the format of its recipe, and joins the predicates of the recipe with those
that are given. -/
theorem Encoding.make_eq_ok_iff {fieldStamp settingStamp : Stamp} {ref : InstructionRef}
    {recipe : Recipe} {bits : Nat} {field setting : Option Predicate} {encoding : Encoding} :
    Encoding.make fieldStamp settingStamp ref recipe bits field setting = .ok encoding ↔
      ref.fullyBound = .ok (encoding.inst, encoding.types) ∧
        encoding.inst.format = recipe.format ∧ encoding.recipe = recipe ∧ encoding.bits = bits ∧
        Predicate.conjoin fieldStamp recipe.fieldPredicate field = .ok encoding.fieldPredicate ∧
        Predicate.conjoin settingStamp recipe.settingPredicate setting =
          .ok encoding.settingPredicate := by
  obtain ⟨inst, types, recipe', bits', fieldPredicate, settingPredicate⟩ := encoding
  rw [make]
  split
  case h_1 error unbound => simp [unbound]
  case h_2 inst' types' bound =>
    rw [bound]
    split
    case isTrue other =>
      refine iff_of_false (by simp) ?_
      rintro ⟨same, format, -⟩
      obtain ⟨rfl, -⟩ := Prod.mk.inj (Except.ok.inj same)
      exact other format
    case isFalse same =>
      split
      case h_1 error refused => simp [refused]
      case h_2 joined fields =>
        split
        case h_1 error refused => simp [refused]
        case h_2 joined' settings =>
          rw [fields, settings]
          simp only [ne_eq, not_not] at same
          simp only [Except.ok.injEq, Encoding.mk.injEq, Prod.mk.injEq]
          constructor
          · rintro ⟨rfl, rfl, rfl, rfl, rfl, rfl⟩
            exact ⟨⟨rfl, rfl⟩, same, rfl, rfl, rfl, rfl⟩
          · rintro ⟨⟨rfl, rfl⟩, -, rfl, rfl, rfl, rfl⟩
            exact ⟨rfl, rfl, rfl, rfl, rfl, rfl⟩

/-! ## Encodings -/

/-- The field predicate of the encoding, if any, is about the format of its instruction. -/
def Encoding.ReadsOwnFormat (encoding : Encoding) : Prop :=
  ∀ p, encoding.fieldPredicate = some p → p.context = .format encoding.inst.format

/-! ## Targets -/

namespace Target

theorem mem_fieldPredicates_finish {target : Target} (unfinished : target.numbering = none)
    (finished : target.finish.result = .ok ()) {p : Predicate} :
    p ∈ target.finish.state.fieldPredicates ↔
      ∃ encoding ∈ target.encodings, encoding.fieldPredicate = some p := by
  rw [finish_of_served unfinished ((result_finish_eq_ok_iff unfinished).1 finished)]
  change p ∈ (Numbering.ofList (target.encodings.filterMap (·.fieldPredicate))).items ↔ _
  rw [Numbering.items_ofList, List.mem_eraseDups, List.mem_filterMap]

/-- The field predicates that finishing numbers can be evaluated on every instruction they guard,
just if each encoding reads its own format. -/
theorem fieldPredicates_evaluable_iff {target : Target} (unfinished : target.numbering = none)
    (finished : target.finish.result = .ok ()) :
    (∀ p ∈ target.finish.state.fieldPredicates, ∀ encoding ∈ target.encodings,
        encoding.fieldPredicate = some p → p.context = .format encoding.inst.format) ↔
      ∀ encoding ∈ target.encodings, encoding.ReadsOwnFormat := by
  simp only [mem_fieldPredicates_finish unfinished finished]
  constructor
  · intro h encoding mem p hp
    exact h p ⟨encoding, mem, hp⟩ encoding mem hp
  · intro h p _ encoding mem hp
    exact h encoding mem p hp

end Target

/-! ## The exact condition -/

/-- **An encoding reads its own format just if its recipe has a field predicate, or the one that is
given is about the format.** In the remaining case nothing compares the two. -/
theorem readsOwnFormat_iff {stamp fieldStamp settingStamp : Stamp} {name : String}
    {format : InstructionFormat} {own settings : Option Predicate} {recipe : Recipe}
    {ref : InstructionRef} {bits : Nat} {field setting : Option Predicate} {encoding : Encoding}
    (declared : Recipe.declare stamp name format own settings = .ok recipe)
    (made : Encoding.make fieldStamp settingStamp ref recipe bits field setting = .ok encoding) :
    encoding.ReadsOwnFormat ↔
      own.isSome = true ∨ ∀ p, field = some p → p.context = .format format := by
  obtain ⟨checked, rfl⟩ := Recipe.declare_eq_ok_iff.1 declared
  obtain ⟨-, same, -, -, joined, -⟩ := Encoding.make_eq_ok_iff.1 made
  dsimp only at same joined
  rw [Encoding.ReadsOwnFormat, same]
  cases own with
  | none =>
    obtain heq : field = encoding.fieldPredicate := Except.ok.inj joined
    simp [heq]
  | some p =>
    -- What is joined to the checked predicate of the recipe takes its context or is refused.
    refine iff_of_true (fun q hq => ?_) (Or.inl rfl)
    rw [hq] at joined
    have evaluable := Predicate.evaluableIn_of_conjoin joined
    rw [checked p rfl] at evaluable
    exact PredicateContext.eq_of_format_evaluableIn evaluable

theorem imm64_notMem_builtinKindNames : "imm64" ∉ builtinKindNames := by decide

/-- The format of instructions with one immediate. -/
def unaryImmFormat : InstructionFormat :=
  ⟨⟨0⟩, "UnaryImm",
    [⟨some "imm", .immediate ⟨⟨0⟩, "imm64", "", "imm", imm64_notMem_builtinKindNames⟩⟩],
    false, false, none⟩

/-- The immediate fits in 32 bits. -/
def immediateFits : Predicate :=
  .ofField ⟨1⟩ ⟨unaryImmFormat, 0⟩ "is_signed_int" ["32"]

/-- The immediate is not negative. -/
def immediateIsNatural : Predicate :=
  .ofField ⟨2⟩ ⟨unaryImmFormat, 0⟩ "is_unsigned_int" ["32"]

/-- An instruction with an immediate. -/
def loadConstant : Instruction :=
  { origin := ⟨3⟩, name := "iconst", doc := "", ins := [], outs := [], format := unaryImmFormat
    polymorphism := none, isTerminator := false, isBranch := false }

/-- A recipe for it that reads the immediate. -/
def constantRecipe : Recipe :=
  ⟨⟨4⟩, "Const", unaryImmFormat, some immediateFits, none⟩

theorem readsOwnFormat_iff_loadConstant :
    Recipe.declare ⟨4⟩ "Const" unaryImmFormat (some immediateFits) none = .ok constantRecipe ∧
      ∃ encoding, Encoding.make ⟨5⟩ ⟨6⟩ (.plain loadConstant) constantRecipe 184
          (some immediateIsNatural) none = .ok encoding ∧ encoding.ReadsOwnFormat := by
  have declared :
      Recipe.declare ⟨4⟩ "Const" unaryImmFormat (some immediateFits) none = .ok constantRecipe :=
    rfl
  have made : ∃ encoding, Encoding.make ⟨5⟩ ⟨6⟩ (.plain loadConstant) constantRecipe 184
      (some immediateIsNatural) none = .ok encoding := ⟨_, rfl⟩
  obtain ⟨encoding, made⟩ := made
  exact ⟨declared, encoding, made, (readsOwnFormat_iff declared made).2 (Or.inl rfl)⟩

/-! ## An encoding that reads another format -/

/-- The format of instructions without inputs. -/
def nullaryFormat : InstructionFormat :=
  ⟨⟨0⟩, "Nullary", [], false, false, none⟩

/-- An instruction without operands. -/
def noOperation : Instruction :=
  { origin := ⟨2⟩, name := "nop", doc := "", ins := [], outs := [], format := nullaryFormat
    polymorphism := none, isTerminator := false, isBranch := false }

/-- A recipe for it. -/
def plainRecipe : Recipe :=
  ⟨⟨3⟩, "Nop", nullaryFormat, none, none⟩

/-- Its encoding, with a condition on an immediate that it does not have. -/
def misguardedEncoding : Encoding :=
  ⟨noOperation, [], plainRecipe, 144, some immediateFits, none⟩

/-- A target with this encoding. -/
def misguardedTarget : Target :=
  { name := "misguarded"
    groups := []
    settings := ⟨⟨⟨⟨4⟩, "own"⟩, []⟩, [], [], Numbering.empty, 0, 0⟩
    modes := [⟨"I32", [misguardedEncoding]⟩] }

/-- A recipe for instructions without operands may not read an immediate, but an encoding of such an
instruction may; the target that has it is finished, and its predicate is numbered. -/
theorem make_foreignField :
    Recipe.declare ⟨3⟩ "Nop" nullaryFormat (some immediateFits) none =
        .error (.predicateContextMismatch immediateFits.display "Nullary") ∧
      Recipe.declare ⟨3⟩ "Nop" nullaryFormat none none = .ok plainRecipe ∧
      Encoding.make ⟨5⟩ ⟨6⟩ (.plain noOperation) plainRecipe 144 (some immediateFits) none =
        .ok misguardedEncoding ∧
      CpuMode.encode ⟨"I32", []⟩ ⟨5⟩ ⟨6⟩ (.plain noOperation) plainRecipe 144
          (some immediateFits) none = .ok misguardedEncoding ⟨"I32", [misguardedEncoding]⟩ ∧
      ¬ misguardedEncoding.ReadsOwnFormat ∧
      misguardedTarget.finish.result = .ok () ∧
      ¬ ∀ p ∈ misguardedTarget.finish.state.fieldPredicates,
        ∀ encoding ∈ misguardedTarget.encodings, encoding.fieldPredicate = some p →
          p.context = .format encoding.inst.format := by
  have foreign : ¬ misguardedEncoding.ReadsOwnFormat := by
    intro h
    exact absurd (h immediateFits rfl) (by decide)
  refine ⟨rfl, rfl, rfl, rfl, foreign, rfl, ?_⟩
  rw [Target.fieldPredicates_evaluable_iff rfl rfl]
  exact fun h => foreign (h misguardedEncoding (List.mem_singleton_self _))

end TargetDescription
