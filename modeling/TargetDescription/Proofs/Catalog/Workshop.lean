import TargetDescription.Proofs.Catalog.Workbench

/-!
# Several catalogs and their groups

Whoever works with several catalogs can hand the group of one to another. A catalog knows its open
group by sort and name only; so it accepts a group just if its open group has the same sort and the
same name, no matter which catalog handed the group out. A group that is thrown away is one that
nobody uses any more.

* `Workshop` are several catalogs in use and the groups of all of them.
* `Handouts.Orderly` and `UsedCatalog.Follows` are the invariants; `Workbench.Step.orderly` and
  `Workbench.Step.follows` are the step and `Workshop.orderly_performAll` the run.
* `accepts_iff_sameSlot` is the main result. `closes_foreignGroup` is a run in which a catalog
  closes the group of another one, whose instructions it does not know.
-/

namespace TargetDescription

/-- Several catalogs in use, and the groups at hand from all of them. -/
structure Workshop extends Handouts where
  catalogs : List UsedCatalog

namespace Workshop

/-- New catalogs with nothing at hand. -/
def start (origins : List Stamp) : Workshop where
  catalogs := origins.map fun origin => { catalog := .empty origin }

/-- What an operation on the catalog at position `i` leaves. -/
def perform (shop : Workshop) (i : Nat) (operation : Operation) : Workshop :=
  match shop.catalogs[i]? with
  | some used =>
    let bench : Workbench := Workbench.perform ⟨used, shop.toHandouts⟩ operation
    ⟨bench.toHandouts, shop.catalogs.set i bench.toUsedCatalog⟩
  | none => shop

/-- What several operations leave, each on the catalog at its position. -/
def performAll (shop : Workshop) (operations : List (Nat × Operation)) : Workshop :=
  operations.foldl (fun shop call => shop.perform call.1 call.2) shop

end Workshop

/-! ## The invariants -/

/-- Calls that open a group have marks of their own. Every group at hand comes from one of them, is
of the sort and name that was opened, and is at hand once. -/
structure Handouts.Orderly (handouts : Handouts) : Prop where
  slot : ∀ h ∈ handouts.held, h.group.slot = h.opening.slot
  known : ∀ h ∈ handouts.held, h.opening ∈ handouts.openings
  once : (handouts.held.map (·.opening)).Nodup
  distinct : (handouts.openings.map (·.call)).Nodup
  past : ∀ opening ∈ handouts.openings, ¬ handouts.stamps.IsFresh opening.call

/-- The catalog remembers what its own call has opened, as long as the group is open. -/
structure UsedCatalog.Follows (used : UsedCatalog) (openings : List Opening) : Prop where
  current : used.catalog.current = used.opening.map (·.slot)
  known : ∀ opening, used.opening = some opening →
    opening ∈ openings ∧ opening.catalog = used.catalog.origin

theorem UsedCatalog.Follows.mono {used : UsedCatalog} {openings later : List Opening}
    (follows : used.Follows openings) (grows : openings ⊆ later) : used.Follows later where
  current := follows.current
  known := fun opening same => (follows.known opening same).imp_left fun mem => grows mem

namespace Handouts.Orderly

variable {handouts : Handouts}

/-- A new call has its own mark. -/
theorem opened (orderly : handouts.Orderly) {opening : Opening} {group : OpenGroup}
    (call : opening.call = handouts.stamps.take.1) (slot : group.slot = opening.slot) :
    Orderly
      { held := handouts.held ++ [⟨opening, group⟩]
        openings := handouts.openings ++ [opening]
        stamps := handouts.stamps.take.2 } := by
  have fresh : handouts.stamps.IsFresh opening.call := by
    rw [call]
    exact handouts.stamps.isFresh_take
  have new : opening ∉ handouts.openings := fun mem => orderly.past opening mem fresh
  constructor
  case slot => exact List.forall_mem_append.2 ⟨orderly.slot, by simpa using slot⟩
  case known =>
    refine List.forall_mem_append.2 ⟨fun h mem => ?_, by simp⟩
    exact List.mem_append_left _ (orderly.known h mem)
  case once =>
    rw [List.map_append]
    refine List.nodup_append_singleton orderly.once fun mem => new ?_
    obtain ⟨h, hmem, rfl⟩ := List.mem_map.1 mem
    exact orderly.known h hmem
  case distinct =>
    rw [List.map_append]
    refine List.nodup_append_singleton orderly.distinct fun mem => ?_
    obtain ⟨other, hmem, same⟩ := List.mem_map.1 mem
    exact orderly.past other hmem (same ▸ fresh)
  case past =>
    refine List.forall_mem_append.2 ⟨fun other mem => ?_, ?_⟩
    · rw [Stamp.Source.isFresh_take_iff]
      exact fun later => orderly.past other mem later.1
    · simp [Stamp.Source.isFresh_take_iff, call]

theorem notOpened (orderly : handouts.Orderly) :
    Orderly { handouts with stamps := handouts.stamps.take.2 } :=
  { orderly with
    past := by
      intro opening mem
      rw [Stamp.Source.isFresh_take_iff]
      exact fun later => orderly.past opening mem later.1 }

/-- A group may change, but neither its sort nor its name. -/
theorem changed (orderly : handouts.Orderly) {place : Nat} {opening : Opening}
    {group next : OpenGroup} (here : handouts.held[place]? = some ⟨opening, group⟩)
    (same : next.slot = group.slot) :
    Orderly { handouts with held := handouts.held.set place ⟨opening, next⟩ } := by
  have mem := List.mem_of_getElem? here
  constructor
  case slot =>
    intro h hmem
    rcases List.mem_or_eq_of_mem_set hmem with hmem | rfl
    · exact orderly.slot h hmem
    · exact same.trans (orderly.slot _ mem)
  case known =>
    intro h hmem
    rcases List.mem_or_eq_of_mem_set hmem with hmem | rfl
    · exact orderly.known h hmem
    · exact orderly.known ⟨opening, group⟩ mem
  case once =>
    have unchanged : (handouts.held.map (·.opening))[place]? = some opening := by
      rw [List.getElem?_map, here]
      rfl
    rw [List.map_set, List.set_eq_self_of_getElem? unchanged]
    exact orderly.once
  case distinct => exact orderly.distinct
  case past => exact orderly.past

/-- A group may be given away. -/
theorem released (orderly : handouts.Orderly) (place : Nat) :
    Orderly { handouts with held := handouts.held.eraseIdx place } where
  slot := fun h mem => orderly.slot h (List.mem_of_mem_eraseIdx mem)
  known := fun h mem => orderly.known h (List.mem_of_mem_eraseIdx mem)
  once := orderly.once.sublist ((List.eraseIdx_sublist _ _).map _)
  distinct := orderly.distinct
  past := orderly.past

end Handouts.Orderly

namespace Workbench.Step

variable {bench next : Workbench}

theorem orderly (step : bench.Step next) (orderly : bench.toHandouts.Orderly) :
    next.toHandouts.Orderly := by
  cases step with
  | nothing => exact orderly
  | types | kinds | formats => exact orderly
  | opened group empty none => exact orderly.opened rfl rfl
  | notOpened slot current => exact orderly.notOpened
  | defined place opening group here current inst new => exact orderly.changed here rfl
  | declared place opening group next here same =>
    have name : next.name = group.name := congrArg GroupPath.name same
    refine orderly.changed here ?_
    simp [OpenGroup.slot, OpenGroup.sort, OpenGroup.name, name]
  | rejected place h here other => exact orderly.released place
  | closedInstructions place opening group here current => exact orderly.released place
  | lost place opening group here current => exact orderly.released place
  | closedSettings place opening group here current closed => exact orderly.released place

theorem openings_subset (step : bench.Step next) : bench.openings ⊆ next.openings := by
  cases step with
  | opened group empty none => exact List.subset_append_left _ _
  | _ => exact List.Subset.refl _

theorem follows (step : bench.Step next) (follows : bench.toUsedCatalog.Follows bench.openings) :
    next.toUsedCatalog.Follows next.openings := by
  cases step with
  | nothing => exact follows
  | types | kinds | formats => exact { follows with }
  | opened group empty none =>
    constructor
    case current => rfl
    case known =>
      intro opening same
      obtain rfl := Option.some.inj same
      exact ⟨List.mem_append_right _ (List.mem_singleton_self _), rfl⟩
  | notOpened slot current => exact follows
  | defined place opening group here current inst new => exact { follows with }
  | declared place opening group next here same => exact follows
  | rejected place h here other => exact follows
  | closedInstructions place opening group here current => exact ⟨rfl, fun _ => nofun⟩
  | lost place opening group here current => exact ⟨rfl, fun _ => nofun⟩
  | closedSettings place opening group here current closed => exact ⟨rfl, fun _ => nofun⟩

end Workbench.Step

namespace Workshop

/-- Both invariants, of all catalogs together. -/
structure Orderly (shop : Workshop) : Prop where
  handouts : shop.toHandouts.Orderly
  follows : ∀ used ∈ shop.catalogs, used.Follows shop.openings

theorem orderly_start (origins : List Stamp) : (start origins).Orderly where
  handouts := by constructor <;> simp [start]
  follows := by
    intro used mem
    obtain ⟨origin, -, rfl⟩ := List.mem_map.1 mem
    exact ⟨rfl, fun _ => nofun⟩

theorem orderly_perform {shop : Workshop} (orderly : shop.Orderly) (i : Nat)
    (operation : Operation) : (shop.perform i operation).Orderly := by
  rw [perform]
  split
  case h_2 => exact orderly
  case h_1 used here =>
    have step := Workbench.step_perform ⟨used, shop.toHandouts⟩ operation
    constructor
    case handouts => exact step.orderly orderly.handouts
    case follows =>
      intro other mem
      rcases List.mem_or_eq_of_mem_set mem with mem | rfl
      · exact (orderly.follows other mem).mono step.openings_subset
      · exact step.follows (orderly.follows used (List.mem_of_getElem? here))

theorem orderly_performAll {shop : Workshop} (orderly : shop.Orderly)
    (operations : List (Nat × Operation)) : (shop.performAll operations).Orderly := by
  induction operations generalizing shop with
  | nil => exact orderly
  | cons call rest ih => exact ih (orderly_perform orderly call.1 call.2)

end Workshop

/-- **A catalog accepts what looks like its open group.** In every run over several catalogs, the
groups at hand come from different calls. A catalog accepts a group just if its own call that is
still open opened a group of this sort and name, and refuses it otherwise. Only if no other call
opened such a group, does this mean that the group is its own. -/
theorem accepts_iff_sameSlot (origins : List Stamp) (operations : List (Nat × Operation)) :
    let shop := (Workshop.start origins).performAll operations
    (shop.openings.map (·.call)).Nodup ∧ (shop.held.map (·.opening)).Nodup ∧
      ∀ used ∈ shop.catalogs,
        (∀ opening, used.opening = some opening → opening.catalog = used.catalog.origin) ∧
          ∀ h ∈ shop.held,
            (used.catalog.Accepts h.group ↔
                used.opening.map (·.slot) = some h.opening.slot) ∧
              (used.catalog.Refuses h.group ↔
                used.opening.map (·.slot) ≠ some h.opening.slot) ∧
              ((∀ opening ∈ shop.openings,
                  opening.slot = h.opening.slot → opening = h.opening) →
                (used.catalog.Accepts h.group ↔ used.opening = some h.opening)) := by
  intro shop
  have orderly : shop.Orderly := Workshop.orderly_performAll (Workshop.orderly_start origins) _
  refine ⟨orderly.handouts.distinct, orderly.handouts.once, fun used hused => ?_⟩
  have follows := orderly.follows used hused
  refine ⟨fun opening same => (follows.known opening same).2, fun h hheld => ?_⟩
  have accepts : used.catalog.Accepts h.group ↔
      used.opening.map (·.slot) = some h.opening.slot := by
    rw [Catalog.accepts_iff, follows.current, orderly.handouts.slot h hheld]
  have refuses : used.catalog.Refuses h.group ↔
      used.opening.map (·.slot) ≠ some h.opening.slot := by
    rw [Catalog.refuses_iff, follows.current, orderly.handouts.slot h hheld]
  refine ⟨accepts, refuses, fun only => ?_⟩
  rw [accepts, Option.map_eq_some_iff]
  constructor
  · rintro ⟨opening, same, slot⟩
    rw [same, only opening (follows.known opening same).1 slot]
  · exact fun same => ⟨h.opening, same, rfl⟩

/-- Two catalogs with an open group each. The groups have the same name but not the same sort. -/
def apartShop : Workshop :=
  (Workshop.start [⟨0⟩, ⟨1⟩]).performAll
    [(0, .openInstructions "base" ""), (1, .openSettings "base" none)]

theorem accepts_iff_sameSlot_apart :
    ∃ first second own foreign, apartShop.catalogs = [first, second] ∧
      apartShop.held = [own, foreign] ∧ first.catalog.Accepts own.group ∧
      first.catalog.Refuses foreign.group ∧ first.opening ≠ some foreign.opening := by
  have run : ∃ first second own foreign, apartShop.catalogs = [first, second] ∧
      apartShop.held = [own, foreign] ∧ first.opening.map (·.slot) = some own.opening.slot ∧
      first.opening.map (·.slot) ≠ some foreign.opening.slot ∧
      ∀ opening ∈ apartShop.openings,
        opening.slot = foreign.opening.slot → opening = foreign.opening :=
    ⟨_, _, _, _, rfl, rfl, rfl, by decide, by decide⟩
  obtain ⟨first, second, own, foreign, catalogs, held, same, other, only⟩ := run
  obtain ⟨-, -, all⟩ := accepts_iff_sameSlot [⟨0⟩, ⟨1⟩]
    [(0, .openInstructions "base" ""), (1, .openSettings "base" none)]
  obtain ⟨-, groups⟩ := all first (by rw [← apartShop, catalogs]; simp)
  obtain ⟨accepts, -⟩ := groups own (by rw [← apartShop, held]; simp)
  obtain ⟨accepts', refuses, own'⟩ := groups foreign (by rw [← apartShop, held]; simp)
  refine ⟨first, second, own, foreign, catalogs, held, accepts.2 same, refuses.2 other, ?_⟩
  exact fun mine => other (accepts'.1 ((own' only).2 mine))

/-- Two catalogs with an open group of instructions each, both of the same name. An instruction is
defined in the first. -/
def sameNameShop : Workshop :=
  (Workshop.start [⟨0⟩, ⟨1⟩]).performAll
    [(0, .formats { name := "Nullary", parts := [] }), (0, .openInstructions "base" ""),
      (0, .define 0 { name := "nop" }), (1, .openInstructions "base" "")]

/-- The second catalog closes the group of the first, and takes over an instruction whose name it
does not know to be taken. -/
theorem closes_foreignGroup :
    ∃ used h group, sameNameShop.catalogs[1]? = some used ∧ sameNameShop.held[0]? = some h ∧
      h.group = .instructions group ∧ h.opening.catalog ≠ used.catalog.origin ∧
      used.opening ≠ some h.opening ∧
      (used.catalog.closeInstructions group).result = .ok group.close ∧
      ∃ inst ∈ group.close.instructions,
        inst.name ∉ (used.catalog.closeInstructions group).state.instructionNames :=
  ⟨_, _, _, rfl, rfl, rfl, by decide, by decide, rfl, by decide⟩

end TargetDescription
