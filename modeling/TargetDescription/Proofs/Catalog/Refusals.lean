import Mathlib.Data.List.InsertIdx
import TargetDescription.Proofs.Catalog.Workbench
import TargetDescription.Proofs.Format.Signatures

/-!
# What a refusal leaves behind

Whoever gets an error from a catalog, or from a group that it handed out, can try again as if
nothing had been asked: all that is there is as it was. Closing is the exception, because the group
is given away with the request to close it.

* `Outcome.FailsInPlace` says of an operation that its failure changes nothing; it is passed on from
  the parts of a catalog to the whole.
* `Desk` is a catalog with the groups at hand, `Desk.answer` what an operation answers and leaves;
  by `Workbench.desk_perform` this is what it leaves at a workbench.
* `Desk.failsInPlace_answer` is about all operations but closing, `Desk.closeRefused_of_error` about
  closing.
* `refusal_leavesNoTrace` is the main result: in a run, refused requests may as well be left out.
-/

namespace TargetDescription

/-! ## Failing in place -/

namespace Outcome

variable {σ τ α β : Type} {found : σ} {outcome : Outcome σ α}

/-- If the operation fails, it leaves the state that it found. -/
def FailsInPlace (outcome : Outcome σ α) (found : σ) : Prop :=
  ∀ error, outcome.result = .error error → outcome.state = found

theorem failsInPlace_ok (answer : α) (state found : σ) : (ok answer state).FailsInPlace found :=
  fun _ => nofun

theorem failsInPlace_fail (error : Error) (found : σ) :
    (fail error found : Outcome σ α).FailsInPlace found :=
  fun _ _ => rfl

theorem result_map_eq_error_iff {f : α → β} {error : Error} :
    (outcome.map f).result = .error error ↔ outcome.result = .error error := by
  rw [map]
  cases outcome.result <;> simp [Except.map]

theorem FailsInPlace.map (h : outcome.FailsInPlace found) (f : α → β) :
    (outcome.map f).FailsInPlace found :=
  fun error failed => h error (result_map_eq_error_iff.1 failed)

/-- What fails in place as a part does so in the whole. -/
theorem FailsInPlace.inside (h : outcome.FailsInPlace found) {put : σ → τ} {whole : τ}
    (same : put found = whole) : (outcome.inside put).FailsInPlace whole :=
  fun error failed => (congrArg put (h error failed)).trans same

end Outcome

theorem TypeRegistry.failsInPlace_request (registry : TypeRegistry) (call : Request) :
    (registry.request call).FailsInPlace registry :=
  fun _ => registry.state_request_of_error

theorem KindRegistry.failsInPlace_request (registry : KindRegistry) (call : Request) :
    (registry.request call).FailsInPlace registry := by
  obtain ⟨kind, -, h⟩ | ⟨error, h⟩ := registry.request_cases call
  · rw [h]
    exact Outcome.failsInPlace_ok _ _ _
  · rw [h]
    exact Outcome.failsInPlace_fail _ _

theorem FormatRegistry.failsInPlace_insert (registry : FormatRegistry)
    (declaration : FormatDeclaration) : (registry.insert declaration).FailsInPlace registry := by
  obtain ⟨format, -, -, h⟩ | ⟨error, h⟩ := registry.insert_cases declaration
  · rw [h]
    exact Outcome.failsInPlace_ok _ _ _
  · rw [h]
    exact Outcome.failsInPlace_fail _ _

theorem OpenSettingGroup.failsInPlace_request (group : OpenSettingGroup) (call : Request) :
    (group.request call).FailsInPlace group :=
  fun _ => group.state_request_of_error

namespace Catalog

variable (catalog : Catalog)

theorem failsInPlace_openSlot (sort : GroupSort) (name : String) :
    (catalog.openSlot sort name).FailsInPlace catalog := by
  cases current : catalog.current with
  | none =>
    rw [openSlot_of_none current]
    exact Outcome.failsInPlace_ok _ _ _
  | some slot =>
    rw [openSlot_of_some current]
    exact Outcome.failsInPlace_fail _ _

theorem failsInPlace_openInstructions (name doc : String) :
    (catalog.openInstructions name doc).FailsInPlace catalog :=
  (catalog.failsInPlace_openSlot .instructions name).map _

theorem failsInPlace_openSettings (stamp : Stamp) (name : String) (parent : Option GroupPath) :
    (catalog.openSettings stamp name parent).FailsInPlace catalog :=
  (catalog.failsInPlace_openSlot .settings name).map _

/-- Neither the catalog nor the group is changed by a definition that fails. -/
theorem failsInPlace_define (group : OpenInstructionGroup)
    (declaration : InstructionDeclaration) :
    (catalog.define group declaration).FailsInPlace (catalog, group) := by
  obtain ⟨-, h⟩ | ⟨-, ⟨-, h⟩ | ⟨-, ⟨error, -, h⟩ | ⟨inst, -, h⟩⟩⟩ :=
    catalog.define_cases group declaration
  · rw [h]
    exact Outcome.failsInPlace_fail _ _
  · rw [h]
    exact Outcome.failsInPlace_fail _ _
  · rw [h]
    exact Outcome.failsInPlace_fail _ _
  · rw [h]
    exact Outcome.failsInPlace_ok _ _ _

end Catalog

/-! ## A catalog and the groups at hand -/

/-- A catalog and the open groups in the hands of its user. -/
structure Desk where
  catalog : Catalog
  groups : List OpenGroup

/-- What an operation answers. -/
inductive Answer
  /-- There is no group of the right sort at the place. -/
  | nothing
  | type (type : ValueType)
  | kind (kind : OperandKind)
  | format (format : InstructionFormat)
  | opened (group : OpenGroup)
  | instruction (inst : Instruction)
  | setting (handle : Option BoolSetting)
  | instructionGroup (group : InstructionGroup)
  | settingGroup (group : SettingGroup)

/-- An operation, and the stamp for the group of settings that it may open. -/
structure Call where
  stamp : Stamp
  operation : Operation

/-- Is a group to be closed? -/
def Call.closes (call : Call) : Bool :=
  match call.operation with
  | .close _ => true
  | _ => false

namespace Desk

/-- Takes the group that was opened, if any. -/
def receive (desk : Desk) (outcome : Outcome Catalog OpenGroup) : Outcome Desk Answer :=
  ⟨outcome.result.map .opened, ⟨outcome.state, desk.groups ++ outcome.result.toOption.toList⟩⟩

/-- Defines an instruction in the group at a place. -/
def define (desk : Desk) (place : Nat) (group : OpenInstructionGroup)
    (declaration : InstructionDeclaration) : Outcome Desk Answer :=
  ((desk.catalog.define group declaration).map .instruction).inside fun state =>
    ⟨state.1, desk.groups.set place (.instructions state.2)⟩

/-- Gives the group at a place away to be closed. -/
def close (desk : Desk) (place : Nat) : OpenGroup → Outcome Desk Answer
  | .instructions group =>
    ((desk.catalog.closeInstructions group).map .instructionGroup).inside fun catalog =>
      ⟨catalog, desk.groups.eraseIdx place⟩
  | .settings group =>
    ((desk.catalog.closeSettings group).map .settingGroup).inside fun catalog =>
      ⟨catalog, desk.groups.eraseIdx place⟩

/-- What a call answers and leaves. -/
def answer (desk : Desk) (call : Call) : Outcome Desk Answer :=
  match call.operation with
  | .types request =>
    ((desk.catalog.types.request request).map .type).inside fun types =>
      { desk with catalog := { desk.catalog with types } }
  | .kinds request =>
    ((desk.catalog.kinds.request request).map .kind).inside fun kinds =>
      { desk with catalog := { desk.catalog with kinds } }
  | .formats declaration =>
    ((desk.catalog.formats.insert declaration).map .format).inside fun formats =>
      { desk with catalog := { desk.catalog with formats } }
  | .openInstructions name doc =>
    desk.receive ((desk.catalog.openInstructions name doc).map .instructions)
  | .openSettings name parent =>
    desk.receive ((desk.catalog.openSettings call.stamp name parent).map .settings)
  | .define place declaration =>
    match desk.groups[place]? with
    | some (.instructions group) => desk.define place group declaration
    | _ => .ok .nothing desk
  | .declare place request =>
    match desk.groups[place]? with
    | some (.settings group) =>
      ((group.request request).map .setting).inside fun group =>
        { desk with groups := desk.groups.set place (.settings group) }
    | _ => .ok .nothing desk
  | .close place =>
    match desk.groups[place]? with
    | some group => desk.close place group
    | none => .ok .nothing desk

/-- What several calls leave. -/
def answerAll (desk : Desk) (calls : List Call) : Desk :=
  calls.foldl (fun desk call => (desk.answer call).state) desk

/-- Several calls, each with its result. -/
def transcript (desk : Desk) : List Call → List (Call × Except Error Answer)
  | [] => []
  | call :: rest =>
    (call, (desk.answer call).result) :: (desk.answer call).state.transcript rest

end Desk

/-! ## Workbenches -/

namespace Workbench

/-- The catalog, and the groups at hand. -/
def desk (bench : Workbench) : Desk :=
  ⟨bench.catalog, bench.held.map (·.group)⟩

variable (bench : Workbench)

theorem desk_receive (outcome : Outcome Catalog OpenGroup) :
    (bench.receive outcome).desk = (bench.desk.receive outcome).state := by
  rw [receive, Desk.receive, desk, desk]
  cases outcome.result with
  | error error => simp [Except.toOption]
  | ok group => simp [Except.toOption]

theorem desk_close (place : Nat) (group : OpenGroup) :
    (bench.close place group).desk = (bench.desk.close place group).state := by
  cases group with
  | instructions group => exact congrArg (Desk.mk _) (List.eraseIdx_map ..).symm
  | settings group => exact congrArg (Desk.mk _) (List.eraseIdx_map ..).symm

/-- What an operation leaves at a workbench is what the call leaves. -/
theorem desk_perform (operation : Operation) :
    (bench.perform operation).desk =
      (bench.desk.answer ⟨bench.stamps.take.1, operation⟩).state := by
  have groups (place : Nat) : bench.desk.groups[place]? = bench.held[place]?.map (·.group) :=
    List.getElem?_map
  cases operation with
  | types call => rfl
  | kinds call => rfl
  | formats declaration => rfl
  | openInstructions name doc => exact bench.desk_receive _
  | openSettings name parent => exact bench.desk_receive _
  | define place declaration =>
    simp only [perform, Desk.answer, groups]
    cases bench.held[place]? with
    | none => rfl
    | some h =>
      cases h with
      | mk opening group =>
        cases group with
        | instructions group => exact congrArg (Desk.mk _) List.map_set
        | settings group => rfl
  | declare place call =>
    simp only [perform, Desk.answer, groups]
    cases bench.held[place]? with
    | none => rfl
    | some h =>
      cases h with
      | mk opening group =>
        cases group with
        | instructions group => rfl
        | settings group => exact congrArg (Desk.mk _) List.map_set
  | close place =>
    simp only [perform, Desk.answer, groups]
    cases bench.held[place]? with
    | none => rfl
    | some h => exact bench.desk_close place h.group

end Workbench

namespace Desk

variable {desk : Desk} {call : Call} {place : Nat} {error : Error}

/-! ## Refusals -/

theorem failsInPlace_receive {outcome : Outcome Catalog OpenGroup}
    (h : outcome.FailsInPlace desk.catalog) : (desk.receive outcome).FailsInPlace desk := by
  intro error failed
  rw [receive] at failed ⊢
  cases result : outcome.result with
  | ok group => simp [result, Except.map] at failed
  | error reason =>
    -- The catalog is as before, and no group was handed out.
    rw [h reason result]
    exact congrArg (Desk.mk desk.catalog) (List.append_nil _)

/-- A request to do anything but to close a group changes nothing if it is refused. -/
theorem failsInPlace_answer (desk : Desk) {call : Call} (stays : call.closes = false) :
    (desk.answer call).FailsInPlace desk := by
  cases call with
  | mk stamp operation =>
    cases operation with
    | types request => exact ((desk.catalog.types.failsInPlace_request request).map _).inside rfl
    | kinds request => exact ((desk.catalog.kinds.failsInPlace_request request).map _).inside rfl
    | formats declaration =>
      exact ((desk.catalog.formats.failsInPlace_insert declaration).map _).inside rfl
    | openInstructions name doc =>
      exact failsInPlace_receive ((desk.catalog.failsInPlace_openInstructions name doc).map _)
    | openSettings name parent =>
      exact failsInPlace_receive ((desk.catalog.failsInPlace_openSettings stamp name parent).map _)
    | define place declaration =>
      simp only [answer]
      split
      case h_1 group here =>
        refine ((desk.catalog.failsInPlace_define group declaration).map _).inside ?_
        exact congrArg (Desk.mk desk.catalog) (List.set_eq_self_of_getElem? here)
      case h_2 => exact Outcome.failsInPlace_ok _ _ _
    | declare place request =>
      simp only [answer]
      split
      case h_1 group here =>
        refine ((group.failsInPlace_request request).map _).inside ?_
        exact congrArg (Desk.mk desk.catalog) (List.set_eq_self_of_getElem? here)
      case h_2 => exact Outcome.failsInPlace_ok _ _ _
    | close place => cases stays

/-- How a group can fail to be closed. In both cases it is gone. -/
inductive CloseRefused (desk : Desk) (place : Nat) : Error → Desk → Prop
  /-- The catalog has not opened it, or not such a group; the catalog does not change. -/
  | notOpen (group : OpenGroup) (here : desk.groups[place]? = some group)
    (other : desk.catalog.current ≠ some group.slot) :
    CloseRefused desk place (desk.catalog.notOpen group.name)
      { desk with groups := desk.groups.eraseIdx place }
  /-- It has a named predicate that it cannot evaluate; no group is open any more, and that is all
  that changes in the catalog. -/
  | inaccessible (group : OpenSettingGroup) (here : desk.groups[place]? = some (.settings group))
    (current : desk.catalog.current = some ⟨.settings, group.name⟩)
    (named : String × Predicate) (mem : named ∈ group.namedPredicates)
    (foreign : ¬ named.2.context.EvaluableIn (.settings group.path)) :
    CloseRefused desk place (.foreignPredicate named.2.display group.name)
      ⟨{ desk.catalog with current := none }, desk.groups.eraseIdx place⟩

theorem closeRefused_of_error (operation : call.operation = .close place)
    (failed : (desk.answer call).result = .error error) :
    desk.CloseRefused place error (desk.answer call).state := by
  simp only [answer, operation] at failed ⊢
  split at failed
  case h_2 => cases failed
  case h_1 group here =>
    cases group with
    | instructions group =>
      have refused := Outcome.result_map_eq_error_iff.1 failed
      obtain ⟨other, h⟩ | ⟨-, h⟩ := desk.catalog.closeInstructions_cases group
      · rw [h] at refused
        cases refused
        simp only [close, h]
        exact .notOpen (.instructions group) here other
      · rw [h] at refused
        cases refused
    | settings group =>
      have refused := Outcome.result_map_eq_error_iff.1 failed
      obtain ⟨other, h⟩ | ⟨current, ⟨named, mem, foreign, h⟩ | ⟨closed, h⟩⟩ :=
        desk.catalog.closeSettings_cases group
      · rw [h] at refused
        cases refused
        simp only [close, h]
        exact .notOpen (.settings group) here other
      · rw [h] at refused
        cases refused
        simp only [close, h]
        exact .inaccessible group here current named mem foreign
      · rw [h] at refused
        cases refused

/-! ## Runs -/

/-- Did the call succeed, or did it at least give a group away? -/
def leavesTrace (entry : Call × Except Error Answer) : Bool :=
  entry.2.isOk || entry.1.closes

/-- The calls of a run that left a trace, with their results. -/
def traces (desk : Desk) (calls : List Call) : List (Call × Except Error Answer) :=
  (desk.transcript calls).filter leavesTrace

theorem traces_cons_of_refused (refused : leavesTrace (call, (desk.answer call).result) = false)
    (rest : List Call) :
    (desk.answer call).state = desk ∧ desk.traces (call :: rest) = desk.traces rest := by
  have failed := refused
  rw [leavesTrace, Bool.or_eq_false_iff] at failed
  obtain ⟨failed, stays⟩ := failed
  have same : (desk.answer call).state = desk := by
    cases result : (desk.answer call).result with
    | ok answer => simp [result, Except.isOk, Except.toBool] at failed
    | error error => exact desk.failsInPlace_answer stays error result
  refine ⟨same, ?_⟩
  rw [traces, transcript, List.filter_cons_of_neg (by simp [refused]), same]
  rfl

/-- Without the calls that left no trace, a run gives the same answers and leaves the same. -/
theorem transcript_traces (desk : Desk) (calls : List Call) :
    desk.transcript ((desk.traces calls).map Prod.fst) = desk.traces calls ∧
      desk.answerAll ((desk.traces calls).map Prod.fst) = desk.answerAll calls := by
  induction calls generalizing desk with
  | nil => exact ⟨rfl, rfl⟩
  | cons call rest ih =>
    cases trace : leavesTrace (call, (desk.answer call).result) with
    | false =>
      -- The rest of the run starts where this call did, so the hypothesis is used there.
      obtain ⟨same, traces⟩ := traces_cons_of_refused trace rest
      rw [traces]
      refine (ih desk).imp_right fun h => h.trans ?_
      exact congrArg (answerAll · rest) same.symm
    | true =>
      have kept : desk.traces (call :: rest) =
          (call, (desk.answer call).result) :: (desk.answer call).state.traces rest :=
        List.filter_cons_of_pos trace
      obtain ⟨transcript, left⟩ := ih (desk.answer call).state
      rw [kept, List.map_cons]
      exact ⟨congrArg (List.cons _) transcript, left⟩

end Desk

/-- **A refusal leaves no trace.** Unless it was to close a group, a call that is answered by an
error leaves the catalog and the groups as they were. If it was to close a group, the group is gone;
and only if the reason is a named predicate of it, this is not all: then no group is open any more.
So a run gives the same answers, and leaves the same, without the refused calls that close no
group. -/
theorem refusal_leavesNoTrace (desk : Desk) :
    (∀ call error, (desk.answer call).result = .error error →
        (call.closes = false → (desk.answer call).state = desk) ∧
          ∀ place, call.operation = .close place →
            desk.CloseRefused place error (desk.answer call).state) ∧
      ∀ calls, desk.transcript ((desk.traces calls).map Prod.fst) = desk.traces calls ∧
        desk.answerAll ((desk.traces calls).map Prod.fst) = desk.answerAll calls := by
  refine ⟨fun call error failed => ⟨fun stays => ?_, fun place operation => ?_⟩, ?_⟩
  · exact desk.failsInPlace_answer stays error failed
  · exact Desk.closeRefused_of_error operation failed
  · exact desk.transcript_traces

/-- The open group has a named predicate about a group that it does not extend. -/
def strangerDesk : Desk :=
  Desk.answerAll ⟨.empty ⟨0⟩, []⟩
    [⟨⟨1⟩, .openSettings "shared" none⟩,
      ⟨⟨2⟩, .declare 0 (.named "stranger" (.ofSetting ⟨.extend none ⟨3⟩ "native", 0, "has_simd"⟩))⟩]

/-- Declaring another predicate under the same name changes nothing. Closing the group fails, and
leaves neither a group at hand nor one that is open. -/
theorem refusal_leavesNoTrace_stranger :
    let retry : Call := ⟨⟨4⟩, .declare 0 (.enum "stranger" "" ["yes", "no"])⟩
    let closing : Call := ⟨⟨5⟩, .close 0⟩
    (strangerDesk.answer retry).result = .error (.duplicateSettingName "shared" "stranger") ∧
      (strangerDesk.answer retry).state = strangerDesk ∧
      (strangerDesk.answer closing).result =
        .error (.foreignPredicate "native.has_simd" "shared") ∧
      strangerDesk.CloseRefused 0 (.foreignPredicate "native.has_simd" "shared")
        (strangerDesk.answer closing).state ∧
      (strangerDesk.answer closing).state.groups = [] ∧
      (strangerDesk.answer closing).state.catalog.current = none := by
  obtain ⟨refused, -⟩ := refusal_leavesNoTrace strangerDesk
  refine ⟨rfl, (refused _ _ rfl).1 rfl, rfl, (refused _ _ rfl).2 0 rfl, rfl, rfl⟩

end TargetDescription
