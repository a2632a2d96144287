import Mathlib.Algebra.GroupWithZero.Nat
import TargetDescription.Catalog.Statistics
import TargetDescription.Proofs.Catalog.Workbench

/-!
# The account of a catalog

A catalog keeps the names of its instructions, its counters and its open group in places of their
own, and the open group itself is not even in its hands. As long as its user fills and closes the
groups that it handed out, and no others, all of this goes together at any time.

* `Workbench.Consistent` is the invariant; `Workbench.Consistent.step` is the step and
  `Workbench.consistent_performAll` the run.
* `Workbench.KeepsAccount` says what the user can rely on, and `catalog_keepsAccount` is the main
  result.
-/

namespace TargetDescription

namespace Workbench

/-- The instructions of the closed groups and of those at hand, group by group. -/
def contents (bench : Workbench) : List (List Instruction) :=
  bench.catalog.instructionGroups.map (·.instructions) ++ bench.held.map (·.group.contents)

/-! ## The invariant -/

/-- At most one group is at hand, and the catalog remembers it. The instructions and groups are
those that the catalog has answered with, their names are the names taken, and the counters count
them. The tables of types lead to the types. -/
structure Consistent (bench : Workbench) : Prop where
  slot : (bench.held = [] ∧ bench.catalog.current = none) ∨
    ∃ h, bench.held = [h] ∧ bench.catalog.current = some h.group.slot
  closed : bench.catalog.instructionGroups = bench.instructionGroups
  contents : bench.contents.flatten = bench.defined
  names : bench.catalog.instructionNames = bench.defined.map (·.name)
  distinct : (bench.defined.map (·.name)).Nodup
  groupCount : bench.catalog.instructionGroupCount = bench.instructionGroups.length
  count : bench.catalog.instructionCount = bench.defined.length
  settingGroupCount : bench.catalog.settingGroupCount = bench.settingGroups.length
  settingCount : bench.catalog.settingCount =
    (bench.settingGroups.map (·.settings.length)).sum
  types : bench.catalog.types.Indexed

theorem consistent_start (origin : Stamp) : (start origin).Consistent where
  slot := Or.inl ⟨rfl, rfl⟩
  closed := rfl
  contents := rfl
  names := rfl
  distinct := List.nodup_nil
  groupCount := rfl
  count := rfl
  settingGroupCount := rfl
  settingCount := rfl
  types := TypeRegistry.indexed_start origin

namespace Consistent

variable {bench next : Workbench} {h : HeldGroup} {place : Nat}

theorem held_of_none (consistent : bench.Consistent) (none : bench.catalog.current = none) :
    bench.held = [] := by
  obtain ⟨held, -⟩ | ⟨_, -, some⟩ := consistent.slot
  · exact held
  · cases none.symm.trans some

/-- The group at a place is the only one. -/
theorem held_of_getElem? (consistent : bench.Consistent) (here : bench.held[place]? = some h) :
    place = 0 ∧ bench.held = [h] ∧ bench.catalog.current = some h.group.slot := by
  obtain ⟨none, -⟩ | ⟨one, held, current⟩ := consistent.slot
  · rw [none] at here
    cases here
  · rw [held, List.getElem?_singleton] at here
    split at here
    case isTrue first =>
      cases here
      exact ⟨first, held, current⟩
    case isFalse => cases here

theorem step (consistent : bench.Consistent) (step : bench.Step next) : next.Consistent := by
  cases step with
  | nothing => exact consistent
  | types call => exact { consistent with types := consistent.types.request call }
  | kinds | formats => exact { consistent with }
  | notOpened slot current => exact { consistent with }
  | opened group empty none =>
    have held := consistent.held_of_none none
    have before := consistent.contents
    exact { consistent with
      slot := Or.inr ⟨⟨bench.nextOpening group, group⟩, by rw [held]; rfl, rfl⟩
      contents := by simpa [Workbench.contents, held, empty] using before }
  | defined place opening group here current inst new =>
    obtain ⟨rfl, held, -⟩ := consistent.held_of_getElem? here
    have before := consistent.contents
    exact { consistent with
      slot := Or.inr ⟨⟨opening, .instructions (group.push inst)⟩, by rw [held]; rfl, current⟩
      contents := by
        rw [← before]
        simp [Workbench.contents, held, OpenGroup.contents, OpenInstructionGroup.push]
      names := by simp [consistent.names]
      distinct := by
        rw [List.map_append]
        exact List.nodup_append_singleton consistent.distinct (consistent.names ▸ new)
      count := by simp [consistent.count] }
  | declared place opening group next here same =>
    obtain ⟨rfl, held, current⟩ := consistent.held_of_getElem? here
    have before := consistent.contents
    have name : next.name = group.name := congrArg GroupPath.name same
    exact { consistent with
      slot := by
        refine Or.inr ⟨⟨opening, .settings next⟩, by rw [held]; rfl, ?_⟩
        simpa [OpenGroup.slot, OpenGroup.sort, OpenGroup.name, name] using current
      contents := by simpa [Workbench.contents, held, OpenGroup.contents] using before }
  | rejected place h here other =>
    exact absurd (consistent.held_of_getElem? here).2.2 other
  | closedInstructions place opening group here current =>
    obtain ⟨rfl, held, -⟩ := consistent.held_of_getElem? here
    have before := consistent.contents
    exact { consistent with
      slot := Or.inl ⟨by rw [held]; rfl, rfl⟩
      closed := by simp [consistent.closed]
      contents := by
        rw [← before]
        simp [Workbench.contents, held, OpenGroup.contents, OpenInstructionGroup.close]
      groupCount := by simp [consistent.groupCount] }
  | lost place opening group here current =>
    obtain ⟨rfl, held, -⟩ := consistent.held_of_getElem? here
    have before := consistent.contents
    exact { consistent with
      slot := Or.inl ⟨by rw [held]; rfl, rfl⟩
      contents := by simpa [Workbench.contents, held, OpenGroup.contents] using before }
  | closedSettings place opening group here current closed =>
    obtain ⟨rfl, held, -⟩ := consistent.held_of_getElem? here
    have before := consistent.contents
    exact { consistent with
      slot := Or.inl ⟨by rw [held]; rfl, rfl⟩
      contents := by simpa [Workbench.contents, held, OpenGroup.contents] using before
      settingGroupCount := by simp [consistent.settingGroupCount]
      settingCount := by simp [consistent.settingCount] }

end Consistent

theorem consistent_performAll {bench : Workbench} (consistent : bench.Consistent)
    (operations : List Operation) : (bench.performAll operations).Consistent := by
  induction operations generalizing bench with
  | nil => exact consistent
  | cons operation rest ih => exact ih (consistent.step (bench.step_perform operation))

/-! ## What the user can rely on -/

/-- The account that a catalog keeps. The instructions of all groups are those that were defined, in
this order, each in one group; their names are distinct, and a definition is refused as a duplicate
just for these names. The statistics count what was declared. At most one group is at hand; then it
is the open group, the catalog opens no other, and accepts it. -/
structure KeepsAccount (bench : Workbench) : Prop where
  closed : bench.catalog.instructionGroups = bench.instructionGroups
  inOrder : bench.contents.flatten = bench.defined
  once : ∀ inst ∈ bench.defined,
    ∃! i : Nat, ∃ group, bench.contents[i]? = some group ∧ inst ∈ group
  distinct : (bench.contents.flatten.map (·.name)).Nodup
  duplicate_iff : ∀ h ∈ bench.held, ∀ group, h.group = .instructions group →
    ∀ declaration name, (bench.catalog.define group declaration).result =
        .error (.duplicateInstruction name) ↔
      name = declaration.name ∧ name ∈ bench.contents.flatten.map (·.name)
  statistics : bench.catalog.statistics =
    { types := bench.catalog.types.types.length
      operandKinds := bench.catalog.kinds.kinds.length
      formats := bench.catalog.formats.formats.length
      instructionGroups := bench.instructionGroups.length
      instructions := bench.contents.flatten.length
      settingGroups := bench.settingGroups.length
      settings := (bench.settingGroups.map (·.settings.length)).sum }
  single : bench.held.length ≤ 1
  openGroup : bench.catalog.openGroup? = bench.held.head?.map (·.group.name)
  busy : ∀ h ∈ bench.held, ∀ name doc stamp parent,
    (bench.catalog.openInstructions name doc).result =
        .error (.groupAlreadyOpen name h.group.name) ∧
      (bench.catalog.openSettings stamp name parent).result =
        .error (.groupAlreadyOpen name h.group.name)
  free : bench.held = [] → ∀ name doc stamp parent,
    (bench.catalog.openInstructions name doc).result = .ok { name, doc } ∧
      (bench.catalog.openSettings stamp name parent).result =
        .ok { path := .extend parent stamp name }
  accepts : ∀ h ∈ bench.held, bench.catalog.Accepts h.group

namespace Consistent

variable {bench : Workbench}

theorem current_of_mem (consistent : bench.Consistent) {h : HeldGroup} (mem : h ∈ bench.held) :
    bench.catalog.current = some h.group.slot := by
  obtain ⟨place, here⟩ := List.mem_iff_getElem?.1 mem
  exact (consistent.held_of_getElem? here).2.2

/-- A definition is a duplicate if its name is taken; no other reason looks like that. -/
theorem duplicate_iff (consistent : bench.Consistent) {group : OpenInstructionGroup}
    (current : bench.catalog.current = some ⟨.instructions, group.name⟩)
    (declaration : InstructionDeclaration) (name : String) :
    (bench.catalog.define group declaration).result = .error (.duplicateInstruction name) ↔
      name = declaration.name ∧ name ∈ bench.contents.flatten.map (·.name) := by
  rw [consistent.contents, ← consistent.names]
  obtain ⟨other, -⟩ | ⟨-, ⟨taken, fail⟩ | ⟨new, ⟨error, reason, fail⟩ | ⟨inst, -, ok⟩⟩⟩ :=
    bench.catalog.define_cases group declaration
  · exact absurd current other
  · rw [fail, Outcome.result_fail]
    constructor
    · intro same
      cases same
      exact ⟨rfl, taken⟩
    · rintro ⟨rfl, -⟩
      rfl
  · rw [fail, Outcome.result_fail]
    refine iff_of_false ?_ fun ⟨same, taken⟩ => new (same ▸ taken)
    intro same
    cases same
    exact reason
  · rw [ok, Outcome.result_ok]
    refine iff_of_false (by simp) fun ⟨same, taken⟩ => new (same ▸ taken)

theorem keepsAccount (consistent : bench.Consistent) : bench.KeepsAccount where
  closed := consistent.closed
  inOrder := consistent.contents
  once := by
    have distinct : bench.contents.flatten.Nodup := by
      rw [consistent.contents]
      exact consistent.distinct.of_map _
    intro inst mem
    rw [← consistent.contents] at mem
    exact List.existsUnique_getElem?_of_nodup_flatten distinct mem
  distinct := by
    rw [consistent.contents]
    exact consistent.distinct
  duplicate_iff := by
    intro h mem group same
    have current := consistent.current_of_mem mem
    rw [same] at current
    exact consistent.duplicate_iff current
  statistics := by
    rw [Catalog.statistics, consistent.types.size, consistent.groupCount, consistent.count,
      consistent.settingGroupCount, consistent.settingCount, consistent.contents,
      KindRegistry.kinds, Table.length_values]
    rfl
  single := by
    obtain ⟨held, -⟩ | ⟨h, held, -⟩ := consistent.slot
    · simp [held]
    · simp [held]
  openGroup := by
    obtain ⟨held, current⟩ | ⟨h, held, current⟩ := consistent.slot
    · rw [Catalog.openGroup?, held, current]
      rfl
    · rw [Catalog.openGroup?, held, current]
      rfl
  busy := by
    intro h mem name doc stamp parent
    have current := consistent.current_of_mem mem
    constructor
    · rw [Catalog.openInstructions, Catalog.openSlot_of_some current]
      rfl
    · rw [Catalog.openSettings, Catalog.openSlot_of_some current]
      rfl
  free := by
    intro held name doc stamp parent
    have current : bench.catalog.current = none := by
      obtain ⟨-, current⟩ | ⟨h, some, -⟩ := consistent.slot
      · exact current
      · cases held.symm.trans some
    constructor
    · rw [Catalog.openInstructions, Catalog.openSlot_of_none current]
      rfl
    · rw [Catalog.openSettings, Catalog.openSlot_of_none current]
      rfl
  accepts := fun h mem => Catalog.accepts_of_eq (consistent.current_of_mem mem)

end Consistent

end Workbench

/-- **A catalog keeps account of what its user does.** Whatever the user declares, opens, defines
and closes, successfully or not, the instructions, their names, the counters and the open group
agree with what the catalog has answered. -/
theorem catalog_keepsAccount (origin : Stamp) (operations : List Operation) :
    ((Workbench.start origin).performAll operations).KeepsAccount :=
  (Workbench.consistent_performAll (Workbench.consistent_start origin) operations).keepsAccount

/-- The second definition is refused, and the other group is not opened. -/
example :
    ((Workbench.start ⟨0⟩).performAll
      [.formats { name := "Nullary", parts := [] }, .openInstructions "base" "",
        .define 0 { name := "nop" }, .openSettings "shared" none, .define 0 { name := "nop" },
        .close 0]).catalog.statistics = ⟨0, 2, 1, 1, 1, 0, 0⟩ := by
  decide

end TargetDescription
