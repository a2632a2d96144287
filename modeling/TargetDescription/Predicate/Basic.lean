import TargetDescription.Outcome
import TargetDescription.Predicate.Context

/-!
# Predicates

A predicate is a *leaf*, that is a boolean setting or a function of a field of an instruction, or a
conjunction of leaves. Conjunctions are flat: joining predicates joins their lists of leaves.

* `Predicate` is the type, `Predicate.leafs` its leaves, `Predicate.context` what it is about.
* `JointContext` is what the type guarantees of the context of a conjunction.
* `Predicate.conjoin` joins two predicates, either of which may be missing.
-/

namespace TargetDescription

/-- A predicate that is no conjunction. The stamp tells apart field predicates that are declared
twice alike. -/
inductive PredicateLeaf
  /-- The setting is on. -/
  | setting (setting : BoolSetting)
  /-- The function holds of the field and the arguments. -/
  | field (stamp : Stamp) (field : FormatField) (function : String) (args : List String)
  deriving DecidableEq

namespace PredicateLeaf

/-- What the leaf is evaluated against. -/
def context : PredicateLeaf → PredicateContext
  | setting s => .settings s.group
  | field _ f _ _ => .format f.format

/-- The setting with its group, or the function call. -/
def display : PredicateLeaf → String
  | setting s => s.group.name ++ "." ++ s.name
  | field _ f function args =>
    function ++ "(" ++ f.display ++ String.join (args.map fun arg => ", " ++ arg) ++ ")"

end PredicateLeaf

/-- The context in which several leaves can be evaluated together, one of which it belongs to. -/
structure JointContext (leafs : List PredicateLeaf) (context : PredicateContext) : Prop where
  evaluable : ∀ leaf ∈ leafs, leaf.context.EvaluableIn context
  attained : ∃ leaf ∈ leafs, leaf.context = context

namespace JointContext

theorem singleton (leaf : PredicateLeaf) : JointContext [leaf] leaf.context where
  evaluable := by
    intro other h
    obtain rfl := List.mem_singleton.1 h
    rfl
  attained := ⟨leaf, List.mem_singleton_self leaf, rfl⟩

theorem append {left right : List PredicateLeaf} {a b c : PredicateContext}
    (hleft : JointContext left a) (hright : JointContext right b) (h : a.combine b = some c) :
    JointContext (left ++ right) c := by
  obtain ⟨attained, ha, hb⟩ := PredicateContext.combine_eq_some h
  constructor
  · intro leaf hleaf
    rcases List.mem_append.1 hleaf with hleaf | hleaf
    · exact (hleft.evaluable leaf hleaf).trans ha
    · exact (hright.evaluable leaf hleaf).trans hb
  · rcases attained with rfl | rfl
    · obtain ⟨leaf, hleaf, hcontext⟩ := hleft.attained
      exact ⟨leaf, List.mem_append_left right hleaf, hcontext⟩
    · obtain ⟨leaf, hleaf, hcontext⟩ := hright.attained
      exact ⟨leaf, List.mem_append_right left hleaf, hcontext⟩

end JointContext

/-- A predicate. The stamp tells apart conjunctions that are formed twice alike. -/
inductive Predicate
  | leaf (leaf : PredicateLeaf)
  | conj (stamp : Stamp) (leafs : List PredicateLeaf) (context : PredicateContext)
      {joint : JointContext leafs context}
  deriving DecidableEq

namespace Predicate

/-- The predicate that a setting is on. -/
def ofSetting (setting : BoolSetting) : Predicate :=
  leaf (.setting setting)

theorem ofSetting_injective {a b : BoolSetting} (h : ofSetting a = ofSetting b) : a = b := by
  cases h
  rfl

/-- A function of a field. -/
def ofField (stamp : Stamp) (field : FormatField) (function : String) (args : List String) :
    Predicate :=
  leaf (.field stamp field function args)

/-- The leaves in order. -/
def leafs : Predicate → List PredicateLeaf
  | leaf l => [l]
  | conj _ leafs _ => leafs

/-- What the predicate is evaluated against. -/
def context : Predicate → PredicateContext
  | leaf l => l.context
  | conj _ _ context => context

theorem joint : (p : Predicate) → JointContext p.leafs p.context
  | leaf l => JointContext.singleton l
  | @conj _ _ _ joint => joint

/-- The leaves with ampersands between them. -/
def display (p : Predicate) : String :=
  " & ".intercalate (p.leafs.map PredicateLeaf.display)

/-- The conjunction of two predicates; that of a predicate with itself is that predicate. -/
def conjoinBoth (stamp : Stamp) (left right : Predicate) : Except Error Predicate :=
  if left = right then
    .ok left
  else
    match h : left.context.combine right.context with
    | some context =>
      .ok (@conj stamp (left.leafs ++ right.leafs) context (left.joint.append right.joint h))
    | none => .error (.incompatiblePredicates left.display right.display)

/-- The conjunction of two predicates that may be missing; a missing one always holds. -/
def conjoin (stamp : Stamp) : Option Predicate → Option Predicate →
    Except Error (Option Predicate)
  | none, other => .ok other
  | some left, none => .ok (some left)
  | some left, some right => (conjoinBoth stamp left right).map some

end Predicate

end TargetDescription
