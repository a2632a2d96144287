import TargetDescription.Proofs.Catalog.OpenGroups
import TargetDescription.Proofs.Occurrence
import TargetDescription.Proofs.Operand.KindNames
import TargetDescription.Proofs.Setting.Requests
import TargetDescription.Proofs.ValueType.Requests

/-!
# Working with a catalog

The groups that a catalog has opened are in the hands of its user, who goes on to fill and to close
them. A workbench is a catalog in use, together with the groups at hand and with a record of what
the catalog has answered.

* `Operation` is what can be done at a workbench; `Workbench.perform` is what it leaves, whether it
  succeeds or fails.
* `Workbench.Step` lists what an operation can do, and `Workbench.step_perform` shows that there is
  nothing else. Invariants are proved from the list.
-/

namespace TargetDescription

/-- A call that opened a group: the catalog, a mark of the call, and what was opened. -/
structure Opening where
  catalog : Stamp
  call : Stamp
  slot : GroupSlot
  deriving DecidableEq

/-- An open group at hand, and the call that handed it out. -/
structure HeldGroup where
  opening : Opening
  group : OpenGroup

/-- A catalog in use: the call that opened its open group, and what it has answered. -/
structure UsedCatalog where
  catalog : Catalog
  opening : Option Opening := none
  defined : List Instruction := []
  instructionGroups : List InstructionGroup := []
  settingGroups : List SettingGroup := []

/-- The groups at hand, and all calls so far that opened a group. -/
structure Handouts where
  held : List HeldGroup := []
  openings : List Opening := []
  stamps : Stamp.Source := {}

/-- A catalog in use and the groups at hand. -/
structure Workbench extends UsedCatalog, Handouts

/-- What can be done with a catalog and the groups at hand. A group is chosen by its place. -/
inductive Operation
  | types (call : TypeRegistry.Request)
  | kinds (call : KindRegistry.Request)
  | formats (declaration : FormatDeclaration)
  | openInstructions (name doc : String)
  | openSettings (name : String) (parent : Option GroupPath)
  | define (place : Nat) (declaration : InstructionDeclaration)
  | declare (place : Nat) (call : OpenSettingGroup.Request)
  | close (place : Nat)

namespace Workbench

/-- A new catalog with nothing at hand. -/
def start (origin : Stamp) : Workbench where
  catalog := .empty origin

/-- The call that opens a group now. -/
def nextOpening (bench : Workbench) (group : OpenGroup) : Opening :=
  ⟨bench.catalog.origin, bench.stamps.take.1, group.slot⟩

/-- Takes a group into our hands, if it was opened. -/
def receive (bench : Workbench) (outcome : Outcome Catalog OpenGroup) : Workbench :=
  match outcome.result with
  | .error _ => { bench with catalog := outcome.state, stamps := bench.stamps.take.2 }
  | .ok group =>
    { bench with
      catalog := outcome.state
      opening := some (bench.nextOpening group)
      held := bench.held ++ [⟨bench.nextOpening group, group⟩]
      openings := bench.openings ++ [bench.nextOpening group]
      stamps := bench.stamps.take.2 }

/-- Defines an instruction in the group at a place. -/
def define (bench : Workbench) (place : Nat) (opening : Opening) (group : OpenInstructionGroup)
    (declaration : InstructionDeclaration) : Workbench :=
  let outcome := bench.catalog.define group declaration
  { bench with
    catalog := outcome.state.1
    held := bench.held.set place ⟨opening, .instructions outcome.state.2⟩
    defined := bench.defined ++ outcome.result.toOption.toList }

/-- Gives the group at a place out of our hands. If the catalog takes it for its open group, then no
call has its group open any more. -/
def release {α : Type} (bench : Workbench) (place : Nat) (outcome : Outcome Catalog α) :
    Workbench :=
  { bench with
    catalog := outcome.state
    opening := if PassesSlotCheck outcome.result then none else bench.opening
    held := bench.held.eraseIdx place }

/-- Closes the group at a place. -/
def close (bench : Workbench) (place : Nat) : OpenGroup → Workbench
  | .instructions group =>
    let outcome := bench.catalog.closeInstructions group
    { bench.release place outcome with
      instructionGroups := bench.instructionGroups ++ outcome.result.toOption.toList }
  | .settings group =>
    let outcome := bench.catalog.closeSettings group
    { bench.release place outcome with
      settingGroups := bench.settingGroups ++ outcome.result.toOption.toList }

/-- What an operation leaves. Without a group of the right sort at the place, nothing is done. -/
def perform (bench : Workbench) : Operation → Workbench
  | .types call =>
    let types := (bench.catalog.types.request call).state
    { bench with catalog := { bench.catalog with types } }
  | .kinds call =>
    let kinds := (bench.catalog.kinds.request call).state
    { bench with catalog := { bench.catalog with kinds } }
  | .formats declaration =>
    let formats := (bench.catalog.formats.insert declaration).state
    { bench with catalog := { bench.catalog with formats } }
  | .openInstructions name doc =>
    bench.receive ((bench.catalog.openInstructions name doc).map .instructions)
  | .openSettings name parent =>
    bench.receive ((bench.catalog.openSettings bench.stamps.take.1 name parent).map .settings)
  | .define place declaration =>
    match bench.held[place]? with
    | some ⟨opening, .instructions group⟩ => bench.define place opening group declaration
    | _ => bench
  | .declare place call =>
    match bench.held[place]? with
    | some ⟨opening, .settings group⟩ =>
      { bench with held := bench.held.set place ⟨opening, .settings (group.request call).state⟩ }
    | _ => bench
  | .close place =>
    match bench.held[place]? with
    | some h => bench.close place h.group
    | none => bench

/-- What several operations leave. -/
def performAll (bench : Workbench) (operations : List Operation) : Workbench :=
  operations.foldl perform bench

/-! ## Steps -/

/-- All that an operation can do. -/
inductive Step (bench : Workbench) : Workbench → Prop
  /-- A definition is refused, or there is no such group at hand. -/
  | nothing : Step bench bench
  /-- A registry is called, and may grow. -/
  | types (call : TypeRegistry.Request) :
    Step bench
      { bench with
        catalog :=
          { bench.catalog with types := (bench.catalog.types.request call).state } }
  | kinds (call : KindRegistry.Request) :
    Step bench
      { bench with
        catalog :=
          { bench.catalog with kinds := (bench.catalog.kinds.request call).state } }
  | formats (declaration : FormatDeclaration) :
    Step bench
      { bench with
        catalog :=
          { bench.catalog with formats := (bench.catalog.formats.insert declaration).state } }
  | opened (group : OpenGroup) (empty : group.contents = []) (none : bench.catalog.current = none) :
    Step bench
      { bench with
        catalog := { bench.catalog with current := some group.slot }
        opening := some (bench.nextOpening group)
        held := bench.held ++ [⟨bench.nextOpening group, group⟩]
        openings := bench.openings ++ [bench.nextOpening group]
        stamps := bench.stamps.take.2 }
  | notOpened (slot : GroupSlot) (current : bench.catalog.current = some slot) :
    Step bench { bench with stamps := bench.stamps.take.2 }
  | defined (place : Nat) (opening : Opening) (group : OpenInstructionGroup)
    (here : bench.held[place]? = some ⟨opening, .instructions group⟩)
    (current : bench.catalog.current = some ⟨.instructions, group.name⟩)
    (inst : Instruction) (new : inst.name ∉ bench.catalog.instructionNames) :
    Step bench
      { bench with
        catalog :=
          { bench.catalog with
            instructionNames := bench.catalog.instructionNames ++ [inst.name]
            instructionCount := bench.catalog.instructionCount + 1 }
        held := bench.held.set place ⟨opening, .instructions (group.push inst)⟩
        defined := bench.defined ++ [inst] }
  | declared (place : Nat) (opening : Opening) (group next : OpenSettingGroup)
    (here : bench.held[place]? = some ⟨opening, .settings group⟩) (same : next.path = group.path) :
    Step bench { bench with held := bench.held.set place ⟨opening, .settings next⟩ }
  /-- A group is closed that the catalog does not take for its open one. -/
  | rejected (place : Nat) (h : HeldGroup) (here : bench.held[place]? = some h)
    (other : bench.catalog.current ≠ some h.group.slot) :
    Step bench { bench with held := bench.held.eraseIdx place }
  | closedInstructions (place : Nat) (opening : Opening) (group : OpenInstructionGroup)
    (here : bench.held[place]? = some ⟨opening, .instructions group⟩)
    (current : bench.catalog.current = some ⟨.instructions, group.name⟩) :
    Step bench
      { bench with
        catalog :=
          { bench.catalog with
            current := none
            instructionGroups := bench.catalog.instructionGroups ++ [group.close]
            instructionGroupCount := bench.catalog.instructionGroupCount + 1 }
        opening := none
        held := bench.held.eraseIdx place
        instructionGroups := bench.instructionGroups ++ [group.close] }
  /-- A group of settings cannot be laid out. -/
  | lost (place : Nat) (opening : Opening) (group : OpenSettingGroup)
    (here : bench.held[place]? = some ⟨opening, .settings group⟩)
    (current : bench.catalog.current = some ⟨.settings, group.name⟩) :
    Step bench
      { bench with
        catalog := { bench.catalog with current := none }
        opening := none
        held := bench.held.eraseIdx place }
  | closedSettings (place : Nat) (opening : Opening) (group : OpenSettingGroup)
    (here : bench.held[place]? = some ⟨opening, .settings group⟩)
    (current : bench.catalog.current = some ⟨.settings, group.name⟩) (closed : SettingGroup) :
    Step bench
      { bench with
        catalog :=
          { bench.catalog with
            current := none
            settingGroupCount := bench.catalog.settingGroupCount + 1
            settingCount := bench.catalog.settingCount + closed.settings.length }
        opening := none
        held := bench.held.eraseIdx place
        settingGroups := bench.settingGroups ++ [closed] }

variable (bench : Workbench)

theorem step_openInstructions (name doc : String) :
    bench.Step (bench.perform (.openInstructions name doc)) := by
  rw [perform, Catalog.openInstructions]
  cases current : bench.catalog.current with
  | none =>
    rw [Catalog.openSlot_of_none current]
    exact .opened (.instructions { name, doc }) rfl current
  | some slot =>
    rw [Catalog.openSlot_of_some current]
    exact .notOpened slot current

theorem step_openSettings (name : String) (parent : Option GroupPath) :
    bench.Step (bench.perform (.openSettings name parent)) := by
  rw [perform, Catalog.openSettings]
  cases current : bench.catalog.current with
  | none =>
    rw [Catalog.openSlot_of_none current]
    exact .opened (.settings { path := .extend parent bench.stamps.take.1 name }) rfl current
  | some slot =>
    rw [Catalog.openSlot_of_some current]
    exact .notOpened slot current

variable {bench} {place : Nat} {opening : Opening}

theorem step_define {group : OpenInstructionGroup}
    (here : bench.held[place]? = some ⟨opening, .instructions group⟩)
    (declaration : InstructionDeclaration) :
    bench.Step (bench.define place opening group declaration) := by
  have refused (error : Error)
      (fail : bench.catalog.define group declaration = .fail error (bench.catalog, group)) :
      bench.Step (bench.define place opening group declaration) := by
    have unchanged : bench.define place opening group declaration = bench := by
      simp [define, fail, List.set_eq_self_of_getElem? here, Except.toOption]
    rw [unchanged]
    exact .nothing
  obtain ⟨-, fail⟩ | ⟨current, ⟨-, fail⟩ | ⟨new, ⟨error, -, fail⟩ | ⟨inst, name, ok⟩⟩⟩ :=
    bench.catalog.define_cases group declaration
  · exact refused _ fail
  · exact refused _ fail
  · exact refused _ fail
  · rw [define, ok]
    exact .defined place opening group here current inst (name ▸ new)

theorem step_closeInstructions {group : OpenInstructionGroup}
    (here : bench.held[place]? = some ⟨opening, .instructions group⟩) :
    bench.Step (bench.close place (.instructions group)) := by
  rw [close]
  obtain ⟨other, fail⟩ | ⟨current, ok⟩ := bench.catalog.closeInstructions_cases group
  · simp only [fail, Outcome.result_fail, Except.toOption, Option.toList_none, List.append_nil]
    exact .rejected place _ here other
  · rw [ok]
    exact .closedInstructions place opening group here current

theorem step_closeSettings {group : OpenSettingGroup}
    (here : bench.held[place]? = some ⟨opening, .settings group⟩) :
    bench.Step (bench.close place (.settings group)) := by
  rw [close]
  obtain ⟨other, fail⟩ | ⟨current, ⟨_, -, -, fail⟩ | ⟨closed, ok⟩⟩ :=
    bench.catalog.closeSettings_cases group
  · simp only [fail, Outcome.result_fail, Except.toOption, Option.toList_none, List.append_nil]
    exact .rejected place _ here other
  · simp only [fail, Outcome.result_fail, Except.toOption, Option.toList_none, List.append_nil]
    exact .lost place opening group here current
  · rw [ok]
    exact .closedSettings place opening group here current closed

/-- **Operations do nothing but what the steps say.** -/
theorem step_perform (bench : Workbench) (operation : Operation) :
    bench.Step (bench.perform operation) := by
  cases operation with
  | types call => exact .types call
  | kinds call => exact .kinds call
  | formats declaration => exact .formats declaration
  | openInstructions name doc => exact bench.step_openInstructions name doc
  | openSettings name parent => exact bench.step_openSettings name parent
  | define place declaration =>
    rw [perform]
    split
    case h_1 opening group here => exact step_define here declaration
    case h_2 => exact .nothing
  | declare place call =>
    rw [perform]
    split
    case h_1 opening group here =>
      exact .declared place opening group _ here (group.path_request call)
    case h_2 => exact .nothing
  | close place =>
    rw [perform]
    split
    case h_1 h here =>
      cases h with
      | mk opening group =>
        cases group with
        | instructions group => exact step_closeInstructions here
        | settings group => exact step_closeSettings here
    case h_2 => exact .nothing

end Workbench

end TargetDescription
