import TargetDescription.Proofs.Catalog.Registries
import TargetDescription.Proofs.Catalog.Workshop

/-!
# A catalog stands by its answers

What a catalog has answered once, it answers again at any later time, whatever has been done with
it, with other catalogs and with the groups of all of them. In particular, types and kinds that come
from another catalog do no harm to what is there.

* `Catalog.KeptBy` says that one catalog is a later state of another; `Workbench.Step.keptBy` is the
  step and `Workshop.keptBy_performAll` the run.
* `Catalog.AnswersAgain` lists the questions, `answers_stay` is the main result.
-/

namespace TargetDescription

namespace Catalog

/-- The registries of the first catalog are kept by the second one, and so are its closed groups. -/
structure KeptBy (catalog later : Catalog) : Prop where
  types : catalog.types.KeptBy later.types
  kinds : catalog.kinds.named.KeptBy later.kinds.named
  formats : catalog.formats.KeptBy later.formats
  instructionGroups : catalog.instructionGroups <+: later.instructionGroups

theorem KeptBy.refl (catalog : Catalog) : catalog.KeptBy catalog :=
  ⟨.refl _, .refl _, .refl _, List.prefix_rfl⟩

theorem KeptBy.trans {catalog middle later : Catalog} (first : catalog.KeptBy middle)
    (second : middle.KeptBy later) : catalog.KeptBy later where
  types := first.types.trans second.types
  kinds := first.kinds.trans second.kinds
  formats := first.formats.trans second.formats
  instructionGroups := first.instructionGroups.trans second.instructionGroups

/-- What the first catalog finds, the second one finds as well, and what the first one lists comes
first in the lists of the second one. -/
structure AnswersAgain (catalog later : Catalog) : Prop where
  typeNamed : ∀ name type,
    catalog.types.byName name = .ok type → later.types.byName name = .ok type
  vector : ∀ stamp base lanes type,
    catalog.types.vector stamp base lanes = .ok type catalog.types →
      ∀ again, later.types.vector again base lanes = .ok type later.types
  kindNamed : ∀ name kind,
    catalog.kinds.byName? name = some kind → later.kinds.byName? name = some kind
  format : ∀ ins outs format,
    catalog.formats.lookup ins outs = .ok format → later.formats.lookup ins outs = .ok format
  formatNamed : ∀ name format,
    catalog.formats.byName? name = some format → later.formats.byName? name = some format
  scalars : catalog.types.scalars <+: later.types.scalars
  formats : catalog.formats.formats <+: later.formats.formats
  instructionGroups : catalog.instructionGroups <+: later.instructionGroups

theorem KeptBy.answersAgain {catalog later : Catalog} (kept : catalog.KeptBy later) :
    catalog.AnswersAgain later where
  typeNamed := fun _ _ => kept.types.byName
  vector := by
    intro stamp base lanes type h
    have answered : (catalog.types.vector stamp base lanes).result = .ok type := by rw [h]; rfl
    refine TypeRegistry.vector_again answered ?_
    rw [h]
    exact kept.types
  kindNamed := kept.kinds
  format := fun _ _ _ => kept.formats.lookup
  formatNamed := fun _ _ => kept.formats.byName?
  scalars := kept.types.scalars
  formats := kept.formats.formats
  instructionGroups := kept.instructionGroups

end Catalog

/-- No operation takes back what the catalog has. -/
theorem Workbench.Step.keptBy {bench next : Workbench} (step : bench.Step next) :
    bench.catalog.KeptBy next.catalog := by
  cases step with
  | types call =>
    exact { Catalog.KeptBy.refl bench.catalog with
      types := bench.catalog.types.keptBy_request call }
  | kinds call =>
    exact { Catalog.KeptBy.refl bench.catalog with
      kinds := bench.catalog.kinds.keptBy_request call }
  | formats declaration =>
    exact { Catalog.KeptBy.refl bench.catalog with
      formats := bench.catalog.formats.keptBy_insert declaration }
  | closedInstructions place opening group here current =>
    exact { Catalog.KeptBy.refl bench.catalog with
      instructionGroups := List.prefix_append _ _ }
  | _ => exact { Catalog.KeptBy.refl bench.catalog with }

namespace Workshop

variable {shop : Workshop} {i : Nat} {used : UsedCatalog}

/-- An operation keeps all catalogs: the one that it is for, because each step does, and the others
because it does not touch them. -/
theorem keptBy_perform (here : shop.catalogs[i]? = some used) (j : Nat) (operation : Operation) :
    ∃ later, (shop.perform j operation).catalogs[i]? = some later ∧
      used.catalog.KeptBy later.catalog := by
  rw [perform]
  split
  case h_2 => exact ⟨used, here, .refl _⟩
  case h_1 other there =>
    dsimp only
    rw [List.getElem?_set]
    split
    case isFalse => exact ⟨used, here, .refl _⟩
    case isTrue same =>
      -- Both positions are this one, so the catalog at work is the one in question.
      subst same
      obtain rfl := Option.some.inj (here.symm.trans there)
      have step := Workbench.step_perform ⟨used, shop.toHandouts⟩ operation
      have inside : j < shop.catalogs.length := (List.getElem?_eq_some_iff.1 here).1
      exact ⟨_, if_pos inside, step.keptBy⟩

theorem keptBy_performAll (here : shop.catalogs[i]? = some used)
    (calls : List (Nat × Operation)) :
    ∃ later, (shop.performAll calls).catalogs[i]? = some later ∧
      used.catalog.KeptBy later.catalog := by
  induction calls generalizing shop used with
  | nil => exact ⟨used, here, .refl _⟩
  | cons call rest ih =>
    obtain ⟨middle, there, first⟩ := keptBy_perform here call.1 call.2
    obtain ⟨later, found, second⟩ := ih there
    exact ⟨later, found, first.trans second⟩

/-- What a call on the registry of types leaves is found in the catalog that it is for. -/
theorem exists_perform_types (here : shop.catalogs[i]? = some used)
    (call : TypeRegistry.Request) :
    ∃ next, (shop.perform i (.types call)).catalogs[i]? = some next ∧
      next.catalog.types = (used.catalog.types.request call).state := by
  have inside : i < shop.catalogs.length := (List.getElem?_eq_some_iff.1 here).1
  simp only [perform, here, List.getElem?_set_self inside]
  exact ⟨_, rfl, rfl⟩

end Workshop

/-- **A catalog stands by its answers.** At any later time, whatever has been done with this catalog
and with others, it finds the same types, kinds and formats; its scalars, formats and closed groups
are the first of those that are there; and a vector type, once it was asked for and given, is given
again, whatever stamp is there to mark a new one. -/
theorem answers_stay {shop : Workshop} {i : Nat} {used : UsedCatalog}
    (here : shop.catalogs[i]? = some used) (calls : List (Nat × Operation)) :
    (∃ later, (shop.performAll calls).catalogs[i]? = some later ∧
        used.catalog.AnswersAgain later.catalog) ∧
      ∀ stamp base lanes type, (used.catalog.types.vector stamp base lanes).result = .ok type →
        ∃ later,
          (shop.performAll ((i, .types (.vector stamp base lanes)) :: calls)).catalogs[i]? =
              some later ∧
            ∀ again,
              later.catalog.types.vector again base lanes = .ok type later.catalog.types := by
  constructor
  · obtain ⟨later, found, kept⟩ := Workshop.keptBy_performAll here calls
    exact ⟨later, found, kept.answersAgain⟩
  · intro stamp base lanes type answered
    obtain ⟨next, there, types⟩ := Workshop.exists_perform_types here (.vector stamp base lanes)
    obtain ⟨later, found, kept⟩ := Workshop.keptBy_performAll there calls
    refine ⟨later, found, TypeRegistry.vector_again answered ?_⟩
    rw [← TypeRegistry.request, ← types]
    exact kept.types

/-- Two catalogs with a scalar each, of 32 bits and of 8 bits. Both scalars have the number one. -/
def sameNumberShop : Workshop :=
  (Workshop.start [⟨0⟩, ⟨1⟩]).performAll [(0, .types (.int 32)), (1, .types (.int 8))]

/-- The first catalog makes a vector type for the lanes of the second one. It gives this very type
again after another scalar was declared and the same lane count was asked for with lanes of its own,
though the stamp that it is given by then would have marked another type. -/
theorem answers_stay_foreignLanes :
    ∃ used other word byte vector later, sameNumberShop.catalogs = [used, other] ∧
      used.catalog.types.byName "i32" = .ok word ∧ other.catalog.types.byName "i8" = .ok byte ∧
      (used.catalog.types.vector ⟨2⟩ byte 4).result = .ok vector ∧ vector.name = "i8x4" ∧
      (used.catalog.types.vector ⟨4⟩ byte 4).result ≠ .ok vector ∧
      (sameNumberShop.performAll [(0, .types (.vector ⟨2⟩ byte 4)), (0, .types (.int 16)),
        (0, .types (.vector ⟨3⟩ word 4))]).catalogs[0]? = some later ∧
      later.catalog.types.byName "i32" = .ok word ∧
      later.catalog.types.vector ⟨4⟩ byte 4 = .ok vector later.catalog.types := by
  have run : ∃ used other word byte vector, sameNumberShop.catalogs = [used, other] ∧
      used.catalog.types.byName "i32" = .ok word ∧ other.catalog.types.byName "i8" = .ok byte ∧
      (used.catalog.types.vector ⟨2⟩ byte 4).result = .ok vector ∧ vector.name = "i8x4" ∧
      (used.catalog.types.vector ⟨4⟩ byte 4).result ≠ .ok vector :=
    ⟨_, _, _, _, _, rfl, rfl, rfl, rfl, rfl, by decide⟩
  obtain ⟨used, other, word, byte, vector, catalogs, hword, hbyte, answered, name, unlike⟩ := run
  have here : sameNumberShop.catalogs[0]? = some used := by rw [catalogs]; rfl
  obtain ⟨-, again⟩ := answers_stay here [(0, .types (.int 16)), (0, .types (.vector ⟨3⟩ word 4))]
  obtain ⟨later, found, same⟩ := again ⟨2⟩ byte 4 vector answered
  obtain ⟨⟨_, found', kept⟩, -⟩ := answers_stay here [(0, .types (.vector ⟨2⟩ byte 4)),
    (0, .types (.int 16)), (0, .types (.vector ⟨3⟩ word 4))]
  obtain rfl := Option.some.inj (found'.symm.trans found)
  exact ⟨used, other, word, byte, vector, _, catalogs, hword, hbyte, answered, name, unlike, found,
    kept.typeNamed _ _ hword, same ⟨4⟩⟩

end TargetDescription
