import TargetDescription.Pattern.Transformation
import TargetDescription.Proofs.Pattern.History
import TargetDescription.Proofs.Pattern.Scope

/-!
# When two patterns form a transformation

Two patterns form a transformation just if each defines its variables once, every read sees a
definition of its own pattern unless no pattern defines the variable, and the source reads all the
inputs of the destination. The inputs and the definitions of the transformation then come in the
order of their first reads and first definitions.

* `Resolvable` is the condition, `Transformation.exists_make_iff` says that it decides.
* `Transformation.make_eq_ok_iff` gives the symbols of the transformation.
* `make_resolves` puts the two together.
-/

namespace TargetDescription

/-- Neither pattern defines the variable. -/
def Undefined (source destination : Pattern) (name : String) : Prop :=
  name ∉ source.definedNames ∧ name ∉ destination.definedNames

instance (source destination : Pattern) : DecidablePred (Undefined source destination) :=
  fun _ => inferInstanceAs (Decidable (_ ∧ _))

/-- The variables of two patterns resolve: each pattern defines a variable once, a variable that is
defined at all is read only behind its definition in the same pattern, and the destination reads no
inputs of its own. -/
structure Resolvable (source destination : Pattern) : Prop where
  source_once : source.definedNames.Nodup
  destination_once : destination.definedNames.Nodup
  source_reads : source.ReadsDefinedOr (Undefined source destination)
  destination_reads : destination.ReadsDefinedOr (Undefined source destination)
  inputs_read : ∀ name ∈ destination.readNames, Undefined source destination name →
    name ∈ source.readNames

/-! ## The history of two patterns -/

namespace History

/-- All mentions of a source and then all of a destination. -/
def ofPatterns (source destination : Pattern) : History :=
  source.mentions.map (.source, ·) ++ destination.mentions.map (.destination, ·)

variable {source destination : Pattern}

theorem ofPatterns_eq_append_cons {before after : History} {side : Side} {mention : Mention}
    (h : ofPatterns source destination = before ++ (side, mention) :: after) :
    (side = .source ∧ ∃ earlier later, source.mentions = earlier ++ mention :: later ∧
        before = earlier.map (.source, ·)) ∨
      (side = .destination ∧ ∃ earlier later, destination.mentions = earlier ++ mention :: later ∧
        before = source.mentions.map (.source, ·) ++ earlier.map (.destination, ·)) := by
  obtain ⟨rest, hsource, -⟩ | ⟨rest, rfl, hdestination⟩ := List.append_eq_append_cons_iff.1 h
  · obtain ⟨earlier, _, heq, rfl, hlater⟩ := List.map_eq_append_iff.1 hsource
    obtain ⟨_, later, rfl, hmention, -⟩ := List.map_eq_cons_iff.1 hlater
    obtain ⟨rfl, rfl⟩ := Prod.mk.inj hmention
    exact .inl ⟨rfl, earlier, later, heq, rfl⟩
  · obtain ⟨earlier, _, heq, rfl, hlater⟩ := List.map_eq_append_iff.1 hdestination
    obtain ⟨_, later, rfl, hmention, -⟩ := List.map_eq_cons_iff.1 hlater
    obtain ⟨rfl, rfl⟩ := Prod.mk.inj hmention
    exact .inr ⟨rfl, earlier, later, heq, rfl⟩

@[simp] theorem source_mem_ofPatterns {mention : Mention} :
    (Side.source, mention) ∈ ofPatterns source destination ↔ mention ∈ source.mentions := by
  simp [ofPatterns]

@[simp] theorem destination_mem_ofPatterns {mention : Mention} :
    (Side.destination, mention) ∈ ofPatterns source destination ↔
      mention ∈ destination.mentions := by
  simp [ofPatterns]

theorem neverDefined_ofPatterns :
    (ofPatterns source destination).NeverDefined = Undefined source destination := by
  funext name
  refine propext ⟨fun h => ⟨by simpa using h .source, by simpa using h .destination⟩, ?_⟩
  rintro ⟨hs, hd⟩ (_ | _)
  · simpa using hs
  · simpa using hd

theorem definesOnce_ofPatterns_iff :
    (ofPatterns source destination).DefinesOnce ↔
      source.definedNames.Nodup ∧ destination.definedNames.Nodup := by
  rw [Pattern.nodup_definedNames_iff, Pattern.nodup_definedNames_iff]
  constructor
  · refine fun h => ⟨fun before name after heq => ?_, fun before name after heq => ?_⟩
    · have := h (before.map (.source, ·)) .source name
        (after.map (.source, ·) ++ destination.mentions.map (.destination, ·))
        (by simp [ofPatterns, heq])
      simpa using this
    · have := h (source.mentions.map (.source, ·) ++ before.map (.destination, ·)) .destination name
        (after.map (.destination, ·)) (by simp [ofPatterns, heq])
      simpa using this
  · rintro ⟨hs, hd⟩ before side name after heq
    obtain ⟨rfl, earlier, later, hsplit, rfl⟩ | ⟨rfl, earlier, later, hsplit, rfl⟩ :=
      ofPatterns_eq_append_cons heq
    · simpa using hs earlier name later hsplit
    · simpa using hd earlier name later hsplit

theorem readsBound_ofPatterns_iff :
    (ofPatterns source destination).ReadsBound ↔
      source.ReadsDefinedOr (Undefined source destination) ∧
        destination.ReadsDefinedOr (Undefined source destination) := by
  rw [ReadsBound, neverDefined_ofPatterns, Pattern.readsDefinedOr_iff, Pattern.readsDefinedOr_iff]
  constructor
  · refine fun h => ⟨fun before name after heq => ?_, fun before name after heq => ?_⟩
    · have := h (before.map (.source, ·)) .source name
        (after.map (.source, ·) ++ destination.mentions.map (.destination, ·))
        (by simp [ofPatterns, heq])
      simpa using this
    · have := h (source.mentions.map (.source, ·) ++ before.map (.destination, ·)) .destination name
        (after.map (.destination, ·)) (by simp [ofPatterns, heq])
      simpa using this
  · rintro ⟨hs, hd⟩ before side name after heq
    obtain ⟨rfl, earlier, later, hsplit, rfl⟩ | ⟨rfl, earlier, later, hsplit, rfl⟩ :=
      ofPatterns_eq_append_cons heq
    · simpa using hs earlier name later hsplit
    · simpa using hd earlier name later hsplit

theorem mem_names_map {pattern : Pattern} {side : Side} {name : String} :
    name ∈ names (pattern.mentions.map (side, ·)) ↔
      name ∈ pattern.definedNames ∨ name ∈ pattern.readNames := by
  rw [mem_names, ← Pattern.defines_mem_mentions, ← Pattern.reads_mem_mentions]
  constructor
  · rintro ⟨_, mem, rfl⟩
    obtain ⟨mention, stands, rfl⟩ := List.mem_map.1 mem
    cases mention with
    | defines name => exact .inl stands
    | reads name => exact .inr stands
  · rintro (mem | mem)
    · exact ⟨_, List.mem_map_of_mem mem, rfl⟩
    · exact ⟨_, List.mem_map_of_mem mem, rfl⟩

theorem mem_names_ofPatterns {name : String} :
    name ∈ (ofPatterns source destination).names ↔
      name ∈ (source.mentions ++ destination.mentions).map Mention.name := by
  rw [names, List.mem_eraseDups, ofPatterns]
  simp

theorem filterMap_defined?_ofPatterns :
    (ofPatterns source destination).filterMap (fun entry => entry.2.defined?) =
      source.definedNames ++ destination.definedNames := by
  simp [ofPatterns, List.filterMap_map, ← Pattern.filterMap_defined?_mentions]

theorem filter_names_ofPatterns :
    ((ofPatterns source destination).map fun entry => entry.2.name).filter
        (Undefined source destination ·) =
      source.readNames.filter (Undefined source destination ·) ++
        destination.readNames.filter (Undefined source destination ·) := by
  rw [← Pattern.filter_names_mentions fun name h => (of_decide_eq_true h).1,
    ← Pattern.filter_names_mentions fun name h => (of_decide_eq_true h).2]
  simp [ofPatterns, Function.comp_def]

theorem isInput_symbolOf_ofPatterns (name : String) :
    ((ofPatterns source destination).symbolOf name).isInput =
      decide (Undefined source destination name) := by
  rw [Bool.eq_iff_iff, isInput_symbolOf_iff, decide_eq_true_iff, ← neverDefined_ofPatterns]
  rfl

end History

/-! ## Resolving two patterns -/

namespace Transformation

variable {source destination : Pattern} {transformation : Transformation}

/-- **What it takes to form a transformation, in terms of the history of its patterns.** -/
theorem make_eq_ok_iff :
    make source destination = .ok transformation ↔
      (History.ofPatterns source destination).Consistent ∧
      (∀ name, (History.ofPatterns source destination).startsRead name = true →
        (History.ofPatterns source destination).NeverDefined name) ∧
      (∀ name, (History.ofPatterns source destination).startsRead name = true →
        name ∈ History.names (source.mentions.map (.source, ·))) ∧
      transformation =
        ⟨source, destination, .ofHistory (History.ofPatterns source destination)⟩ := by
  have first := SymbolTable.resolve_ofHistory_eq_ok_iff History.consistent_nil .source
    source.mentions
  rw [SymbolTable.ofHistory_nil, List.nil_append] at first
  have second (hs : History.Consistent (source.mentions.map (.source, ·))) (table : SymbolTable) :
      (SymbolTable.ofHistory (source.mentions.map (.source, ·))).resolve .destination
          destination.mentions = .ok table ↔
        (History.ofPatterns source destination).Consistent ∧
          table = .ofHistory (History.ofPatterns source destination) :=
    SymbolTable.resolve_ofHistory_eq_ok_iff hs .destination destination.mentions table
  constructor
  · intro h
    rw [make] at h
    split at h
    · cases h
    rename_i afterSource hsource
    obtain ⟨hs, rfl⟩ := (first afterSource).1 hsource
    split at h
    · cases h
    rename_i table hdestination
    obtain ⟨hd, rfl⟩ := (second hs table).1 hdestination
    split at h
    · cases h
    rename_i hinputs
    split at h
    · rename_i hextra
      exact ⟨hd, SymbolTable.find?_defined_input_eq_none_iff.1 hinputs,
        SymbolTable.drop_inputs_eq_nil_iff.1 hextra, (Except.ok.inj h).symm⟩
    · cases h
  · rintro ⟨hd, hinputs, hextra, rfl⟩
    have hs := History.consistent_of_append hd
    have extra : (SymbolTable.ofHistory (History.ofPatterns source destination)).inputs.drop
        (SymbolTable.ofHistory (source.mentions.map (.source, ·))).inputs.length = [] :=
      SymbolTable.drop_inputs_eq_nil_iff.2 hextra
    simp only [make, (first _).2 ⟨hs, rfl⟩, (second hs _).2 ⟨hd, rfl⟩,
      SymbolTable.find?_defined_input_eq_none_iff.2 hinputs, extra]

/-- The destination reads no inputs of its own just if every variable that is read first is known
from the source. -/
theorem inputs_read_iff
    (h : ∀ name, (History.ofPatterns source destination).startsRead name = true →
      Undefined source destination name) :
    (∀ name, (History.ofPatterns source destination).startsRead name = true →
        name ∈ History.names (source.mentions.map (.source, ·))) ↔
      ∀ name ∈ destination.readNames, Undefined source destination name →
        name ∈ source.readNames := by
  constructor
  · intro known name read undefined
    have mem : name ∈ (History.ofPatterns source destination).names :=
      History.mem_names.2 ⟨(.destination, .reads name), by simpa using read, rfl⟩
    have starts : (History.ofPatterns source destination).startsRead name = true := by
      by_contra starts
      obtain ⟨side, defined⟩ := History.exists_defines_of_startsRead_ne_true mem starts
      rw [← History.neverDefined_ofPatterns] at undefined
      exact undefined side defined
    exact (History.mem_names_map.1 (known name starts)).resolve_left undefined.1
  · intro covered name starts
    have undefined := h name starts
    refine History.mem_names_map.2 (.inr ?_)
    rw [← History.neverDefined_ofPatterns] at undefined
    obtain ⟨⟨side, mention⟩, mem, rfl⟩ :=
      History.mem_names.1 (History.mem_names_of_startsRead starts)
    cases mention with
    | defines name => exact absurd mem (undefined side)
    | reads name =>
      rw [History.neverDefined_ofPatterns] at undefined
      cases side with
      | source => simpa [Mention.name] using mem
      | destination => exact covered name (by simpa using mem) undefined

theorem exists_make_iff :
    (∃ transformation, make source destination = .ok transformation) ↔
      Resolvable source destination := by
  have conflicts :=
    History.consistent_and_neverDefined_iff (History.ofPatterns source destination)
  rw [History.definesOnce_ofPatterns_iff, History.readsBound_ofPatterns_iff,
    History.neverDefined_ofPatterns] at conflicts
  constructor
  · rintro ⟨transformation, h⟩
    obtain ⟨consistent, inputs, known, -⟩ := make_eq_ok_iff.1 h
    rw [History.neverDefined_ofPatterns] at inputs
    obtain ⟨⟨hs, hd⟩, rs, rd⟩ := conflicts.1 ⟨consistent, inputs⟩
    exact ⟨hs, hd, rs, rd, (inputs_read_iff inputs).1 known⟩
  · rintro ⟨hs, hd, rs, rd, covered⟩
    obtain ⟨consistent, inputs⟩ := conflicts.2 ⟨⟨hs, hd⟩, rs, rd⟩
    refine ⟨_, make_eq_ok_iff.2 ⟨consistent, ?_, (inputs_read_iff inputs).2 covered, rfl⟩⟩
    rwa [History.neverDefined_ofPatterns]

theorem resolvable_of_make (h : make source destination = .ok transformation) :
    Resolvable source destination :=
  exists_make_iff.1 ⟨transformation, h⟩

theorem patterns_of_make (h : make source destination = .ok transformation) :
    transformation.source = source ∧ transformation.destination = destination := by
  obtain ⟨-, -, -, rfl⟩ := make_eq_ok_iff.1 h
  exact ⟨rfl, rfl⟩

/-! ## The symbols of a transformation -/

theorem symbol?_of_make (h : make source destination = .ok transformation) (name : String) :
    transformation.symbol? name =
      if name ∈ (source.mentions ++ destination.mentions).map Mention.name then
        some ((History.ofPatterns source destination).symbolOf name)
      else none := by
  obtain ⟨-, -, -, rfl⟩ := make_eq_ok_iff.1 h
  rw [symbol?, SymbolTable.find?_ofHistory]
  simp only [History.mem_names_ofPatterns]

theorem map_name_inputs (history : History) :
    (inputs ⟨source, destination, SymbolTable.ofHistory history⟩).map (·.name) =
      history.names.filter history.startsRead := by
  change ((history.names.filter history.startsRead).filterMap
    (SymbolTable.ofHistory history).find?).map (·.name) = _
  rw [SymbolTable.filterMap_find?_ofHistory (List.filter_subset_self _), List.map_map]
  exact List.map_id _

theorem map_name_defs (history : History) :
    (defs ⟨source, destination, SymbolTable.ofHistory history⟩).map (·.name) =
      history.names.filter fun name => !history.startsRead name := by
  change ((history.names.filter fun name => !history.startsRead name).filterMap
    (SymbolTable.ofHistory history).find?).map (·.name) = _
  rw [SymbolTable.filterMap_find?_ofHistory (List.filter_subset_self _), List.map_map]
  exact List.map_id _

/-- In a transformation, the variables that are read first are those that no pattern defines. -/
theorem startsRead_of_make (h : make source destination = .ok transformation) {name : String}
    (mem : name ∈ (History.ofPatterns source destination).names) :
    (History.ofPatterns source destination).startsRead name =
      decide (Undefined source destination name) := by
  obtain ⟨-, inputs, -, -⟩ := make_eq_ok_iff.1 h
  rw [History.startsRead_eq_isInput inputs mem, History.isInput_symbolOf_ofPatterns]

/-- The inputs are the variables that no pattern defines, by first read in the source. -/
theorem map_name_inputs_of_make (h : make source destination = .ok transformation) :
    transformation.inputs.map (·.name) =
      (source.readNames.filter (Undefined source destination ·)).eraseDups := by
  have covered : destination.readNames.filter (Undefined source destination ·) ⊆
      source.readNames.filter (Undefined source destination ·) := by
    intro name mem
    obtain ⟨read, undefined⟩ := List.mem_filter.1 mem
    exact List.mem_filter.2 ⟨(resolvable_of_make h).inputs_read name read
      (of_decide_eq_true undefined), undefined⟩
  have starts : ∀ name ∈ (History.ofPatterns source destination).names, _ :=
    fun name mem => startsRead_of_make h mem
  obtain ⟨-, -, -, rfl⟩ := make_eq_ok_iff.1 h
  rw [map_name_inputs, List.filter_congr starts, History.names, List.filter_eraseDups,
    History.filter_names_ofPatterns, List.eraseDups_append_of_subset covered]

/-- The definitions are those of the source and then those that the destination adds, by first
definition. -/
theorem map_name_defs_of_make (h : make source destination = .ok transformation) :
    transformation.defs.map (·.name) =
      (source.definedNames ++ destination.definedNames).eraseDups := by
  have starts : ∀ name ∈ (History.ofPatterns source destination).names,
      (!(History.ofPatterns source destination).startsRead name) =
        !decide (Undefined source destination name) := fun name mem => by
    rw [startsRead_of_make h mem]
  obtain ⟨consistent, inputs, -, rfl⟩ := make_eq_ok_iff.1 h
  have bound := ((History.consistent_and_neverDefined_iff _).1 ⟨consistent, inputs⟩).2
  rw [map_name_defs, List.filter_congr starts, History.names, List.filter_eraseDups,
    ← History.filterMap_defined?_ofPatterns]
  refine History.eraseDups_filter_names (fun side name mem => ?_)
    fun before side name after heq defined =>
      ⟨side, (bound before side name after heq).resolve_right fun never => ?_⟩
  · rw [Bool.not_eq_true', decide_eq_false_iff_not, ← History.neverDefined_ofPatterns]
    exact fun never => never side mem
  · rw [History.neverDefined_ofPatterns] at never
    simp [never] at defined

end Transformation

theorem PatternSymbol.testBit_zero_mask (symbol : PatternSymbol) :
    symbol.mask.testBit 0 = symbol.inSource := by
  obtain ⟨name, inSource, inDestination⟩ := symbol
  cases inSource <;> cases inDestination <;> simp [mask]

theorem PatternSymbol.testBit_one_mask (symbol : PatternSymbol) :
    symbol.mask.testBit 1 = symbol.inDestination := by
  obtain ⟨name, inSource, inDestination⟩ := symbol
  cases inSource <;> cases inDestination <;> simp [mask, Nat.testBit]

/-- **Two patterns form a transformation just if their variables resolve.** Its inputs are the
variables that no pattern defines, by first read in the source; its definitions are the others, by
first definition; nothing is listed twice. Every variable of the patterns has a symbol, and no other
one; the bits of its mask are the patterns that define it. -/
theorem make_resolves (source destination : Pattern) :
    ((∃ transformation, Transformation.make source destination = .ok transformation) ↔
        Resolvable source destination) ∧
      ∀ transformation, Transformation.make source destination = .ok transformation →
        transformation.inputs.map (·.name) =
            (source.readNames.filter (Undefined source destination ·)).eraseDups ∧
          transformation.defs.map (·.name) =
            (source.definedNames ++ destination.definedNames).eraseDups ∧
          (transformation.inputs.map (·.name) ++ transformation.defs.map (·.name)).Nodup ∧
          (∀ name, (transformation.symbol? name).isSome = true ↔
            name ∈ (source.mentions ++ destination.mentions).map Mention.name) ∧
          ∀ name symbol, transformation.symbol? name = some symbol →
            symbol.name = name ∧
              (symbol.mask.testBit 0 = true ↔ name ∈ source.definedNames) ∧
              (symbol.mask.testBit 1 = true ↔ name ∈ destination.definedNames) := by
  refine ⟨Transformation.exists_make_iff, fun transformation h => ?_⟩
  have inputs := Transformation.map_name_inputs_of_make h
  have defs := Transformation.map_name_defs_of_make h
  refine ⟨inputs, defs, ?_, fun name => ?_, fun name symbol hsymbol => ?_⟩
  · rw [inputs, defs]
    refine List.nodup_append.2 ⟨List.nodup_eraseDups _, List.nodup_eraseDups _, ?_⟩
    rintro name hname _ hdefined rfl
    obtain ⟨hs, hd⟩ := of_decide_eq_true (List.mem_filter.1 (List.mem_eraseDups.1 hname)).2
    exact (List.mem_append.1 (List.mem_eraseDups.1 hdefined)).elim hs hd
  · rw [Transformation.symbol?_of_make h]
    split <;> simp_all
  · rw [Transformation.symbol?_of_make h] at hsymbol
    split at hsymbol
    · obtain rfl := Option.some.inj hsymbol
      rw [PatternSymbol.testBit_zero_mask, PatternSymbol.testBit_one_mask]
      exact ⟨rfl, by simp [History.symbolOf], by simp [History.symbolOf]⟩
    · cases hsymbol

/-- Addition, with any type. -/
def additionRef : InstructionRef :=
  let any : TypeVar := .free ⟨0⟩ "Int" ""
  .plain
    { origin := ⟨1⟩, name := "iadd", doc := ""
      ins := [⟨"x", .typeVar any, ""⟩, ⟨"y", .typeVar any, ""⟩]
      outs := [⟨"a", .typeVar any, ""⟩]
      format := ⟨⟨1⟩, "Binary", [⟨none, .value⟩, ⟨none, .value⟩], false, false, some 0⟩
      polymorphism := some ⟨any, [], true⟩
      isTerminator := false, isBranch := false }

/-- The sum of a variable and of a nested sum. -/
def nestedSum : Pattern :=
  ⟨[⟨["a"], additionRef, [.var "x", .apply additionRef [.var "y", .var "z"]]⟩]⟩

/-- The same sum in two statements. -/
def stepwiseSum : Pattern :=
  ⟨[⟨["c"], additionRef, [.var "z", .var "y"]⟩, ⟨["a"], additionRef, [.var "x", .var "c"]⟩]⟩

theorem make_resolves_stepwiseSum :
    ∃ transformation, Transformation.make nestedSum stepwiseSum = .ok transformation ∧
      transformation.inputs.map (·.name) = ["x", "y", "z"] ∧
      transformation.defs.map (·.name) = ["a", "c"] := by
  have h : ∃ transformation, Transformation.make nestedSum stepwiseSum = .ok transformation :=
    ⟨_, rfl⟩
  obtain ⟨transformation, h⟩ := h
  obtain ⟨inputs, defs, -⟩ := (make_resolves nestedSum stepwiseSum).2 transformation h
  refine ⟨transformation, h, inputs.trans ?_, defs.trans ?_⟩
  · rfl
  · rfl

end TargetDescription
