import Mathlib.Data.List.Nodup
import TargetDescription.Proofs.Pattern.Resolution

/-!
# What the refusal of two patterns says

Two patterns that form no transformation are refused with an error that names a variable, or a list
of variables. What the error says of them is true, wherever it was found: when a mention was taken
up, among the inputs at the end, or when the inputs of the two patterns were compared.

* `MultiplyDefined` and `RoleConflict` are the ways in which a variable can be at fault.
* `extraInputs` are the variables that only the destination reads.
* `SymbolTable.refuses_of_resolve`: resolving fails at a mention that is not admitted.
* `make_refuses` is the main result.
-/

namespace TargetDescription

namespace Pattern

/-- Two definitions of the pattern are of this variable. -/
def DefinesTwice (pattern : Pattern) (name : String) : Prop :=
  2 ≤ pattern.definedNames.count name

/-- A statement reads the variable, and no statement up to this one defines it. -/
def ReadsEarly (pattern : Pattern) (name : String) : Prop :=
  ∃ i statement, pattern.statements[i]? = some statement ∧ name ∈ statement.reads ∧
    name ∉ pattern.definedUpTo i

end Pattern

variable {source destination : Pattern} {name : String}

/-- One of the patterns defines the variable twice. -/
def MultiplyDefined (source destination : Pattern) (name : String) : Prop :=
  source.DefinesTwice name ∨ destination.DefinesTwice name

/-- The variable is defined, but one of the patterns reads it without a definition of its own. -/
def RoleConflict (source destination : Pattern) (name : String) : Prop :=
  (name ∈ source.definedNames ∨ name ∈ destination.definedNames) ∧
    (source.ReadsEarly name ∨ destination.ReadsEarly name)

/-- The variables that the destination reads, though neither it defines them nor the source knows
them; by first read. -/
def extraInputs (source destination : Pattern) : List String :=
  (destination.readNames.filter fun name => decide (name ∉ source.definedNames ∧
    name ∉ source.readNames ∧ name ∉ destination.definedNames)).eraseDups

/-! ## Faults of single mentions -/

theorem Pattern.definesTwice_of_mentions {pattern : Pattern} {before after : List Mention}
    (h : pattern.mentions = before ++ .defines name :: after) (mem : .defines name ∈ before) :
    pattern.DefinesTwice name := by
  have earlier : name ∈ before.filterMap Mention.defined? :=
    List.mem_filterMap.2 ⟨_, mem, rfl⟩
  have first := List.count_pos_iff.2 earlier
  have here : (Mention.defines name).defined? = some name := rfl
  rw [DefinesTwice, ← filterMap_defined?_mentions, h, List.filterMap_append, List.count_append,
    List.filterMap_cons_some here, List.count_cons_self]
  omega

theorem Pattern.readsEarly_of_mentions {pattern : Pattern} {before after : List Mention}
    (h : pattern.mentions = before ++ .reads name :: after) (undefined : .defines name ∉ before) :
    pattern.ReadsEarly name := by
  obtain ⟨i, statement, hi, read, hdefs⟩ := exists_statement_of_mentions_eq h
  exact ⟨i, statement, hi, read, fun mem => undefined ((hdefs name).2 mem)⟩

namespace History

/-- Some mention of the history is not admitted when its turn comes, and this is its refusal. -/
def Refuses (history : History) (error : Error) : Prop :=
  ∃ before side mention after, history = before ++ (side, mention) :: after ∧
    ¬ Admits before side mention ∧ error = mention.refusal

theorem Refuses.append {history : History} {error : Error} (h : history.Refuses error)
    (entries : History) : Refuses (history ++ entries) error := by
  obtain ⟨before, side, mention, after, rfl, refused, rfl⟩ := h
  exact ⟨before, side, mention, after ++ entries, by simp, refused, rfl⟩

variable {before after : History} {side : Side}

theorem multiplyDefined_of_eq
    (h : ofPatterns source destination = before ++ (side, .defines name) :: after)
    (mem : (side, .defines name) ∈ before) : MultiplyDefined source destination name := by
  obtain ⟨rfl, earlier, later, hsplit, rfl⟩ | ⟨rfl, earlier, later, hsplit, rfl⟩ :=
    ofPatterns_eq_append_cons h
  · exact .inl (Pattern.definesTwice_of_mentions hsplit (by simpa using mem))
  · exact .inr (Pattern.definesTwice_of_mentions hsplit (by simpa using mem))

theorem roleConflict_of_eq
    (h : ofPatterns source destination = before ++ (side, .reads name) :: after)
    (undefined : (side, .defines name) ∉ before)
    (defined : ¬ (ofPatterns source destination).NeverDefined name) :
    RoleConflict source destination name := by
  rw [neverDefined_ofPatterns, Undefined, not_and_or, not_not, not_not] at defined
  refine ⟨defined, ?_⟩
  obtain ⟨rfl, earlier, later, hsplit, rfl⟩ | ⟨rfl, earlier, later, hsplit, rfl⟩ :=
    ofPatterns_eq_append_cons h
  · exact .inl (Pattern.readsEarly_of_mentions hsplit (by simpa using undefined))
  · exact .inr (Pattern.readsEarly_of_mentions hsplit (by simpa using undefined))

/-- A mention that is not admitted is at fault, in the way that its refusal says. -/
theorem fault_of_refuses {error : Error} (h : (ofPatterns source destination).Refuses error) :
    (∃ name, error = .multiplyDefinedVariable name ∧ MultiplyDefined source destination name) ∨
      ∃ name, error = .variableRoleConflict name ∧ RoleConflict source destination name := by
  obtain ⟨before, side, mention, after, heq, refused, rfl⟩ := h
  cases mention with
  | defines name => exact .inl ⟨name, rfl, multiplyDefined_of_eq heq (not_not.1 refused)⟩
  | reads name =>
    obtain ⟨⟨other, defined⟩, undefined⟩ := Classical.not_imp.1 refused
    refine .inr ⟨name, rfl, roleConflict_of_eq heq undefined fun never => never other ?_⟩
    rw [heq]
    exact List.mem_append_left _ defined

/-- A variable that is read first and defined later is read without a definition. -/
theorem roleConflict_of_startsRead
    (starts : (ofPatterns source destination).startsRead name = true)
    (defined : ¬ (ofPatterns source destination).NeverDefined name) :
    RoleConflict source destination name := by
  obtain ⟨before, side, after, heq, fresh⟩ := startsRead_eq_true_iff.1 starts
  exact roleConflict_of_eq heq (not_defines_of_notMem fresh side) defined

end History

theorem Pattern.not_definesTwice {pattern : Pattern} (once : pattern.definedNames.Nodup) :
    ¬ pattern.DefinesTwice name :=
  Nat.not_le.2 (Nat.lt_succ_of_le (List.nodup_iff_count_le_one.1 once name))

theorem not_roleConflict_of_readsDefinedOr
    (hs : source.ReadsDefinedOr (Undefined source destination))
    (hd : destination.ReadsDefinedOr (Undefined source destination)) :
    ¬ RoleConflict source destination name := by
  rintro ⟨defined, ⟨i, statement, hi, read, early⟩ | ⟨i, statement, hi, read, early⟩⟩
  · obtain ⟨ns, nd⟩ := (hs i statement hi name read).resolve_left early
    exact defined.elim ns nd
  · obtain ⟨ns, nd⟩ := (hd i statement hi name read).resolve_left early
    exact defined.elim ns nd

/-! ## Where the errors come from -/

namespace SymbolTable

/-- Resolving fails at a mention that is not admitted. -/
theorem refuses_of_resolve {history : History} {side : Side} {mentions : List Mention}
    {error : Error} (h : (ofHistory history).resolve side mentions = .error error) :
    History.Refuses (history ++ mentions.map (side, ·)) error := by
  induction mentions generalizing history with
  | nil => cases h
  | cons first rest ih =>
    have shift : history ++ (first :: rest).map (side, ·) =
        (history ++ [(side, first)]) ++ rest.map (side, ·) := by simp
    rw [resolve] at h
    by_cases admits : history.Admits side first
    · rw [mention_ofHistory_of_admits admits] at h
      rw [shift]
      exact ih h
    · rw [mention_ofHistory_of_not_admits admits] at h
      exact ⟨history, side, first, rest.map (side, ·), rfl, admits, (Except.error.inj h).symm⟩

/-- Among the inputs of a history, a symbol that has definitions is of a variable read first. -/
theorem startsRead_of_find?_defined_input {history : History} {symbol : PatternSymbol}
    (h : (((ofHistory history).inputs.filterMap (ofHistory history).find?).find? fun symbol =>
      !symbol.isInput) = some symbol) :
    history.startsRead symbol.name = true ∧ ¬ history.NeverDefined symbol.name := by
  have known : (ofHistory history).inputs ⊆ history.names := List.filter_subset_self _
  have mem := List.mem_of_find?_eq_some h
  have defined := List.find?_some h
  rw [filterMap_find?_ofHistory known] at mem
  obtain ⟨name, input, rfl⟩ := List.mem_map.1 mem
  refine ⟨mem_inputs_ofHistory.1 input, fun never => ?_⟩
  have undefined : (history.symbolOf name).isInput = true := History.isInput_symbolOf_iff.2 never
  rw [undefined] at defined
  cases defined

end SymbolTable

theorem Pattern.mem_map_name_mentions {pattern : Pattern} :
    name ∈ pattern.mentions.map Mention.name ↔
      name ∈ pattern.definedNames ∨ name ∈ pattern.readNames := by
  rw [← @History.mem_names_map pattern .source name, History.names, List.mem_eraseDups,
    List.map_map]
  rfl

section ExtraInputs

variable (inputs : ∀ name, (History.ofPatterns source destination).startsRead name = true →
  (History.ofPatterns source destination).NeverDefined name)

include inputs

/-- If inputs are never defined, then a variable of the destination that the source does not know is
an input just if the destination does not define it. -/
theorem startsRead_and_unknown_iff (mem : name ∈ destination.mentions.map Mention.name) :
    ((History.ofPatterns source destination).startsRead name = true ∧
        name ∉ source.mentions.map Mention.name) ↔
      name ∉ source.definedNames ∧ name ∉ source.readNames ∧ name ∉ destination.definedNames := by
  rw [Pattern.mem_map_name_mentions, not_or]
  constructor
  · rintro ⟨starts, undefined, unread⟩
    have never := inputs name starts
    rw [History.neverDefined_ofPatterns] at never
    exact ⟨undefined, unread, never.2⟩
  · rintro ⟨hs, unread, hd⟩
    refine ⟨?_, hs, unread⟩
    by_contra starts
    have known : name ∈ (History.ofPatterns source destination).names := by
      rw [History.mem_names_ofPatterns, List.map_append]
      exact List.mem_append_right _ mem
    obtain ⟨side, defined⟩ := History.exists_defines_of_startsRead_ne_true known starts
    cases side with
    | source => exact hs (by simpa using defined)
    | destination => exact hd (by simpa using defined)

/-- The inputs that come up with the destination are the variables that only it reads. -/
theorem drop_inputs_eq_extraInputs :
    (SymbolTable.ofHistory (History.ofPatterns source destination)).inputs.drop
        (SymbolTable.ofHistory (source.mentions.map (.source, ·))).inputs.length =
      extraInputs source destination := by
  have split : (SymbolTable.ofHistory (History.ofPatterns source destination)).inputs = _ :=
    SymbolTable.inputs_ofHistory_append (source.mentions.map (Side.source, ·))
      (destination.mentions.map (Side.destination, ·))
  have late : ∀ name ∈ destination.mentions.map Mention.name,
      ((History.ofPatterns source destination).startsRead name &&
          !(source.mentions.map Mention.name).elem name) =
        decide (name ∉ source.definedNames ∧ name ∉ source.readNames ∧
          name ∉ destination.definedNames) := by
    intro name mem
    rw [Bool.eq_iff_iff, decide_eq_true_iff, ← startsRead_and_unknown_iff inputs mem]
    simp
  have own : ∀ name, decide (name ∉ source.definedNames ∧ name ∉ source.readNames ∧
      name ∉ destination.definedNames) = true → name ∉ destination.definedNames :=
    fun name h => (of_decide_eq_true h).2.2
  rw [extraInputs, ← Pattern.filter_names_mentions own, ← List.filter_congr late,
    ← List.filter_filter, ← List.filter_eraseDups]
  rw [split, List.drop_left, List.removeAll]
  simp only [List.map_map]
  rfl

end ExtraInputs

/-! ## The refusal -/

namespace Transformation

variable {error : Error}

/-- A transformation is refused at a mention, for an input that is defined, or for the inputs that
only the destination reads. -/
theorem cases_of_make_error (h : make source destination = .error error) :
    (History.ofPatterns source destination).Refuses error ∨
      (∃ name, (History.ofPatterns source destination).startsRead name = true ∧
        ¬ (History.ofPatterns source destination).NeverDefined name ∧
        error = .variableRoleConflict name) ∨
      ((History.ofPatterns source destination).Consistent ∧
        (∀ name, (History.ofPatterns source destination).startsRead name = true →
          (History.ofPatterns source destination).NeverDefined name) ∧
        extraInputs source destination ≠ [] ∧
        error = .extraDestinationInput (", ".intercalate (extraInputs source destination))) := by
  have first := SymbolTable.resolve_ofHistory_eq_ok_iff History.consistent_nil .source
    source.mentions
  rw [SymbolTable.ofHistory_nil, List.nil_append] at first
  rw [make] at h
  split at h
  case h_1 refused =>
    cases h
    rw [← SymbolTable.ofHistory_nil] at refused
    exact .inl ((SymbolTable.refuses_of_resolve refused).append _)
  case h_2 afterSource hsource =>
    obtain ⟨hs, rfl⟩ := (first afterSource).1 hsource
    split at h
    case h_1 refused =>
      cases h
      exact .inl (SymbolTable.refuses_of_resolve refused)
    case h_2 table hdestination =>
      have second : (History.ofPatterns source destination).Consistent ∧
          table = .ofHistory (History.ofPatterns source destination) :=
        (SymbolTable.resolve_ofHistory_eq_ok_iff hs .destination destination.mentions table).1
          hdestination
      obtain ⟨consistent, rfl⟩ := second
      split at h
      case h_1 symbol hsymbol =>
        cases h
        obtain ⟨starts, defined⟩ := SymbolTable.startsRead_of_find?_defined_input hsymbol
        exact .inr (.inl ⟨_, starts, defined, rfl⟩)
      case h_2 hinputs =>
        have inputs := SymbolTable.find?_defined_input_eq_none_iff.1 hinputs
        rw [drop_inputs_eq_extraInputs inputs] at h
        refine .inr (.inr ⟨consistent, inputs, ?_⟩)
        split at h
        case h_1 => cases h
        case h_2 nonempty =>
          cases h
          exact ⟨nonempty, rfl⟩

end Transformation

/-- **The error that refuses two patterns is true.** A variable that is reported as multiply defined
has two definitions in one of the patterns, and one that is reported for its role is defined and
read without a definition. The destination is reported to read inputs of its own only if no variable
is at fault in these ways, and then for just the variables that only it reads, by first read. -/
theorem make_refuses (source destination : Pattern) (error : Error)
    (h : Transformation.make source destination = .error error) :
    (∃ name, error = .multiplyDefinedVariable name ∧ MultiplyDefined source destination name) ∨
      (∃ name, error = .variableRoleConflict name ∧ RoleConflict source destination name) ∨
      (error = .extraDestinationInput (", ".intercalate (extraInputs source destination)) ∧
        extraInputs source destination ≠ [] ∧
        ∀ name, ¬ MultiplyDefined source destination name ∧
          ¬ RoleConflict source destination name) := by
  obtain refuses | ⟨name, starts, defined, rfl⟩ | ⟨consistent, inputs, nonempty, rfl⟩ :=
    Transformation.cases_of_make_error h
  · exact (History.fault_of_refuses refuses).imp_right .inl
  · exact .inr (.inl ⟨name, rfl, History.roleConflict_of_startsRead starts defined⟩)
  · obtain ⟨once, bound⟩ :=
      (History.consistent_and_neverDefined_iff _).1 ⟨consistent, inputs⟩
    obtain ⟨hs, hd⟩ := History.definesOnce_ofPatterns_iff.1 once
    obtain ⟨rs, rd⟩ := History.readsBound_ofPatterns_iff.1 bound
    refine .inr (.inr ⟨rfl, nonempty, fun name => ⟨?_, not_roleConflict_of_readsDefinedOr rs rd⟩⟩)
    exact not_or.2 ⟨Pattern.not_definesTwice hs, Pattern.not_definesTwice hd⟩

/-- Twice a variable. -/
def doubled : Pattern :=
  ⟨[⟨["a"], additionRef, [.var "x", .var "x"]⟩]⟩

theorem make_refuses_doubled :
    Transformation.make doubled nestedSum = .error (.extraDestinationInput "y, z") ∧
      extraInputs doubled nestedSum = ["y", "z"] ∧
      ∀ name, ¬ MultiplyDefined doubled nestedSum name ∧ ¬ RoleConflict doubled nestedSum name := by
  have refused : Transformation.make doubled nestedSum =
      .error (.extraDestinationInput "y, z") := rfl
  obtain ⟨_, ⟨⟩, -⟩ | ⟨_, ⟨⟩, -⟩ | ⟨-, -, faultless⟩ := make_refuses _ _ _ refused
  exact ⟨refused, rfl, faultless⟩

end TargetDescription
