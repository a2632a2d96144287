import Mathlib.Data.List.Nodup
import TargetDescription.Operand.Kind
import TargetDescription.Proofs.Occurrence

/-!
# Names of operand kinds

A registry has each kind under its own name, the built-in ones included, whatever is declared in it.
So a name stands for one kind, as long as only one registry is concerned.

* `KindRegistry.Request` is a declaration; `KindRegistry.request_cases` says what it can do.
* `KindRegistry.Keyed` is the invariant; `KindRegistry.Keyed.request` is the step and
  `KindRegistry.keyed_requestAll` the run.
* `KindRegistry.eq_of_names_eq` passes from the names of kinds to the kinds.
-/

namespace TargetDescription

namespace KindRegistry

/-- The declaration of a kind. -/
inductive Request
  | immediate (name doc : String) (member : Option String)
  | entityRef (name doc : String) (member : Option String)

/-- What a declaration gives and leaves. -/
def request (registry : KindRegistry) : Request → Outcome KindRegistry OperandKind
  | .immediate name doc member => registry.immediate name doc member
  | .entityRef name doc member => registry.entityRef name doc member

/-- What several declarations leave, whether they succeed or fail. -/
def requestAll (registry : KindRegistry) (requests : List Request) : KindRegistry :=
  requests.foldl (fun registry call => (registry.request call).state) registry

/-- A declaration adds one kind of a new name, or it is refused. -/
theorem declare_cases (registry : KindRegistry) {make : DeclaredKind → OperandKind}
    (names : ∀ kind, (make kind).name = kind.name) (name doc member : String) :
    (∃ kind, registry.byName? kind.name = none ∧
        registry.declare make name doc member = .ok kind (registry.push kind)) ∨
      registry.declare make name doc member = .fail (.duplicateKindName name) registry := by
  unfold declare
  split
  case h_1 => exact Or.inr rfl
  case h_2 new => exact Or.inl ⟨_, by rwa [names], rfl⟩

theorem request_cases (registry : KindRegistry) (call : Request) :
    (∃ kind, registry.byName? kind.name = none ∧
        registry.request call = .ok kind (registry.push kind)) ∨
      ∃ error, registry.request call = .fail error registry := by
  cases call with
  | immediate name doc member =>
    exact (registry.declare_cases (fun _ => rfl) name doc _).imp_right fun h => ⟨_, h⟩
  | entityRef name doc member =>
    exact (registry.declare_cases (fun _ => rfl) name doc _).imp_right fun h => ⟨_, h⟩

/-- Each kind stands under its own name. -/
def Keyed (registry : KindRegistry) : Prop :=
  registry.named.KeyedBy OperandKind.name

theorem keyed_start (origin : Stamp) : Keyed { origin } := by
  have empty : (Table.empty : Table String OperandKind).KeyedBy OperandKind.name :=
    Table.keyedBy_empty _
  have value : OperandKind.value.name = "value" := rfl
  have args : OperandKind.variableArgs.name = "variable_args" := rfl
  exact (empty.insert value).insert args

theorem Keyed.request {registry : KindRegistry} (keyed : registry.Keyed) (call : Request) :
    (registry.request call).state.Keyed := by
  obtain ⟨kind, -, h⟩ | ⟨error, h⟩ := registry.request_cases call
  · rw [h]
    exact Table.KeyedBy.insert keyed rfl
  · rw [h]
    exact keyed

/-- Kinds stand under their own names, whatever is declared. -/
theorem keyed_requestAll {registry : KindRegistry} (keyed : registry.Keyed)
    (requests : List Request) : (registry.requestAll requests).Keyed := by
  induction requests generalizing registry with
  | nil => exact keyed
  | cons call rest ih => exact ih (keyed.request call)

theorem Keyed.nodup_names {registry : KindRegistry} (keyed : registry.Keyed) :
    (registry.kinds.map OperandKind.name).Nodup :=
  Table.KeyedBy.nodup keyed

/-- Kinds of one registry that have the same names are the same. -/
theorem eq_of_names_eq {registry : KindRegistry}
    (distinct : (registry.kinds.map OperandKind.name).Nodup) {kinds others : List OperandKind}
    (hkinds : ∀ kind ∈ kinds, kind ∈ registry.kinds)
    (hothers : ∀ kind ∈ others, kind ∈ registry.kinds)
    (names : kinds.map OperandKind.name = others.map OperandKind.name) : kinds = others := by
  have injective := List.inj_on_of_nodup_map distinct
  induction kinds generalizing others with
  | nil => exact (List.map_eq_nil_iff.1 names.symm).symm
  | cons kind rest ih =>
    cases others with
    | nil => cases names
    | cons other others =>
      obtain ⟨name, names⟩ := List.cons.inj names
      obtain ⟨hkind, hrest⟩ := List.forall_mem_cons.1 hkinds
      obtain ⟨hother, hothers⟩ := List.forall_mem_cons.1 hothers
      rw [injective hkind hother name, ih hrest hothers names]

end KindRegistry

end TargetDescription
