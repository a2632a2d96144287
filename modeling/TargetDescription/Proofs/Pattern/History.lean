import TargetDescription.Pattern.Symbols
import TargetDescription.Proofs.Pattern.Scope

/-!
# The history of a symbol table

Resolving takes up the mentions of the source pattern and then those of the destination. Whatever
the table holds at some point is a function of the mentions taken up so far, its *history*; and
whether the next mention is accepted depends on the history alone.

* `History` is the list of mentions with their patterns, `SymbolTable.ofHistory` the table it leads
  to.
* `History.Admits` says which mention may come next, `History.Consistent` that every mention was
  admitted when its turn came.
* `SymbolTable.resolve_ofHistory_eq_ok_iff`: resolving succeeds just on consistent histories, and
  then gives the table of the longer history.
-/

namespace TargetDescription

/-- Mentions in the order in which they are taken up, each with the pattern that makes it. -/
abbrev History := List (Side × Mention)

namespace History

/-- The variables, by first mention. -/
def names (history : History) : List String :=
  (history.map fun entry => entry.2.name).eraseDups

/-- Is the first mention of the variable a read? -/
def startsRead (history : History) (name : String) : Bool :=
  (history.find? fun entry => entry.2.name == name).any fun entry => entry.2 == .reads name

/-- The symbol of a variable: which patterns have defined it so far. -/
def symbolOf (history : History) (name : String) : PatternSymbol where
  name
  inSource := (Side.source, Mention.defines name) ∈ history
  inDestination := (Side.destination, Mention.defines name) ∈ history

/-- May the mention come next? A pattern defines a variable once, and reads a variable that has
definitions only behind its own one. -/
def Admits (history : History) (side : Side) : Mention → Prop
  | .defines name => (side, .defines name) ∉ history
  | .reads name =>
    (∃ other, (other, .defines name) ∈ history) → (side, .defines name) ∈ history

/-- Every mention was admitted by those before it. -/
def Consistent (history : History) : Prop :=
  ∀ before side mention after, history = before ++ (side, mention) :: after →
    Admits before side mention

/-! ## Names and symbols -/

theorem mem_names {history : History} {name : String} :
    name ∈ history.names ↔ ∃ entry ∈ history, entry.2.name = name := by
  rw [names, List.mem_eraseDups, List.mem_map]

theorem names_append_of_mem {history : History} {side : Side} {mention : Mention}
    (h : mention.name ∈ history.names) :
    names (history ++ [(side, mention)]) = history.names := by
  rw [names, List.map_append, List.eraseDups_append_of_subset, names]
  rw [names, List.mem_eraseDups] at h
  simpa using h

theorem names_append_of_notMem {history : History} {side : Side} {mention : Mention}
    (h : mention.name ∉ history.names) :
    names (history ++ [(side, mention)]) = history.names ++ [mention.name] := by
  rw [names, List.mem_eraseDups] at h
  rw [names, List.map_append]
  exact List.eraseDups_append_singleton_of_notMem h

theorem startsRead_append_of_mem {history : History} {name : String} (h : name ∈ history.names)
    (entries : History) : startsRead (history ++ entries) name = history.startsRead name := by
  obtain ⟨entry, mem, hname⟩ := mem_names.1 h
  have found : (history.find? fun entry => entry.2.name == name).isSome := by
    rw [List.find?_isSome]
    exact ⟨entry, mem, by simp [hname]⟩
  rw [startsRead, List.find?_append, Option.or_of_isSome found, startsRead]

theorem startsRead_append_of_notMem {history : History} (side : Side) {mention : Mention}
    (h : mention.name ∉ history.names) :
    startsRead (history ++ [(side, mention)]) mention.name = (mention == .reads mention.name) := by
  have missing : (history.find? fun entry => entry.2.name == mention.name) = none := by
    rw [List.find?_eq_none]
    intro entry mem same
    exact h (mem_names.2 ⟨entry, mem, by simpa using same⟩)
  rw [startsRead, List.find?_append, missing, Option.none_or]
  simp

theorem not_defines_of_notMem {history : History} {name : String} (h : name ∉ history.names)
    (side : Side) : (side, Mention.defines name) ∉ history :=
  fun mem => h (mem_names.2 ⟨_, mem, rfl⟩)

theorem symbolOf_append_defines (history : History) (side : Side) (name other : String) :
    symbolOf (history ++ [(side, .defines name)]) other =
      if other = name then (history.symbolOf other).define side else history.symbolOf other := by
  by_cases h : other = name
  · subst h
    cases side <;> simp [symbolOf, PatternSymbol.define]
  · simp [symbolOf, h]

theorem symbolOf_append_reads (history : History) (side : Side) (name other : String) :
    symbolOf (history ++ [(side, .reads name)]) other = history.symbolOf other := by
  simp [symbolOf]

@[simp] theorem definedIn_symbolOf (history : History) (name : String) (side : Side) :
    (history.symbolOf name).definedIn side = decide ((side, Mention.defines name) ∈ history) := by
  cases side <;> rfl

theorem consistent_nil : Consistent [] := by
  intro before side mention after h
  simp at h

theorem consistent_of_append {history entries : History} (h : Consistent (history ++ entries)) :
    history.Consistent := by
  rintro before side mention after rfl
  exact h before side mention (after ++ entries) (by simp)

theorem consistent_append_singleton {history : History} {side : Side} {mention : Mention} :
    Consistent (history ++ [(side, mention)]) ↔
      history.Consistent ∧ history.Admits side mention := by
  constructor
  · exact fun h => ⟨consistent_of_append h, h history side mention [] rfl⟩
  · rintro ⟨h, admits⟩ before side' mention' after heq
    obtain ⟨rest, rfl⟩ | ⟨rfl, hlast, -⟩ := List.append_singleton_eq_append_cons heq
    · exact h before side' mention' rest rfl
    · obtain ⟨rfl, rfl⟩ := Prod.mk.inj hlast
      exact admits

theorem isInput_symbolOf_iff {history : History} {name : String} :
    (history.symbolOf name).isInput = true ↔ ∀ side, (side, Mention.defines name) ∉ history := by
  simp only [PatternSymbol.isInput, symbolOf, Bool.and_eq_true, Bool.not_eq_true',
    decide_eq_false_iff_not]
  constructor
  · rintro ⟨hs, hd⟩ (_ | _) <;> assumption
  · exact fun h => ⟨h .source, h .destination⟩

end History

/-! ## Histories without conflicts -/

namespace History

/-- No pattern has defined the variable. -/
def NeverDefined (history : History) (name : String) : Prop :=
  ∀ side, (side, Mention.defines name) ∉ history

/-- A pattern defines a variable once. -/
def DefinesOnce (history : History) : Prop :=
  ∀ before side name after, history = before ++ (side, .defines name) :: after →
    (side, .defines name) ∉ before

/-- A read stands behind a definition in its own pattern, or its variable is never defined. -/
def ReadsBound (history : History) : Prop :=
  ∀ before side name after, history = before ++ (side, .reads name) :: after →
    (side, .defines name) ∈ before ∨ history.NeverDefined name

theorem startsRead_eq_true_iff {history : History} {name : String} :
    history.startsRead name = true ↔
      ∃ before side after, history = before ++ (side, .reads name) :: after ∧
        name ∉ names before := by
  simp only [startsRead, Option.any_eq_true, List.find?_eq_some_iff_append, beq_iff_eq,
    Bool.not_eq_true', beq_eq_false_iff_ne]
  constructor
  · rintro ⟨⟨side, mention⟩, ⟨-, before, after, rfl, other⟩, rfl⟩
    refine ⟨before, side, after, rfl, fun mem => ?_⟩
    obtain ⟨entry, hentry, hname⟩ := mem_names.1 mem
    exact other entry hentry hname
  · rintro ⟨before, side, after, rfl, fresh⟩
    exact ⟨(side, .reads name), ⟨rfl, before, after, rfl,
      fun entry mem hname => fresh (mem_names.2 ⟨entry, mem, hname⟩)⟩, rfl⟩

theorem mem_names_of_startsRead {history : History} {name : String}
    (h : history.startsRead name = true) : name ∈ history.names := by
  obtain ⟨before, side, after, rfl, -⟩ := startsRead_eq_true_iff.1 h
  exact mem_names.2 ⟨(side, .reads name), by simp, rfl⟩

/-- A variable whose first mention is no read was first defined. -/
theorem exists_defines_of_startsRead_ne_true {history : History} {name : String}
    (mem : name ∈ history.names) (h : ¬ history.startsRead name = true) :
    ∃ side, (side, Mention.defines name) ∈ history := by
  obtain ⟨entry, hentry, hname⟩ := mem_names.1 mem
  have present : (history.find? fun entry => entry.2.name == name).isSome :=
    List.find?_isSome.2 ⟨entry, hentry, by simp [hname]⟩
  obtain ⟨⟨side, mention⟩, hfound⟩ := Option.isSome_iff_exists.1 present
  have same : mention.name = name := by simpa using List.find?_some hfound
  cases mention with
  | defines other => exact ⟨side, same ▸ List.mem_of_find?_eq_some hfound⟩
  | reads other =>
    refine absurd ?_ h
    rw [startsRead, hfound, ← same]
    simp [Mention.name]

/-- **No conflict means that definitions come once and before their reads.** The table refuses some
misplaced reads at once and finds the others at the end, among the inputs that have definitions. -/
theorem consistent_and_neverDefined_iff (history : History) :
    (history.Consistent ∧
        ∀ name, history.startsRead name = true → history.NeverDefined name) ↔
      history.DefinesOnce ∧ history.ReadsBound := by
  constructor
  · rintro ⟨consistent, inputs⟩
    refine ⟨fun before side name after heq => consistent before side _ after heq, ?_⟩
    intro before side name after heq
    refine or_iff_not_imp_right.2 fun defined => consistent before side _ after heq ?_
    -- The first mention is no read, so it stands before this one and is a definition.
    have notRead : ¬ history.startsRead name = true := fun h => defined (inputs name h)
    have mem : name ∈ names before := by
      by_contra fresh
      exact notRead (startsRead_eq_true_iff.2 ⟨before, side, after, heq, fresh⟩)
    refine exists_defines_of_startsRead_ne_true mem fun h => notRead ?_
    rw [heq, startsRead_append_of_mem mem]
    exact h
  · rintro ⟨once, bound⟩
    refine ⟨fun before side mention after heq => ?_, fun name h => ?_⟩
    · cases mention with
      | defines name => exact once before side name after heq
      | reads name =>
        rintro ⟨other, defined⟩
        refine (bound before side name after heq).resolve_right fun never => never other ?_
        rw [heq]
        exact List.mem_append_left _ defined
    · obtain ⟨before, side, after, heq, fresh⟩ := startsRead_eq_true_iff.1 h
      exact (bound before side name after heq).resolve_left (not_defines_of_notMem fresh side)

/-! ## The order of inputs and definitions -/

variable {history : History}

theorem startsRead_eq_isInput (h : ∀ name, history.startsRead name = true →
    history.NeverDefined name) {name : String} (mem : name ∈ history.names) :
    history.startsRead name = (history.symbolOf name).isInput := by
  rw [Bool.eq_iff_iff, isInput_symbolOf_iff]
  refine ⟨h name, fun never => ?_⟩
  by_contra starts
  obtain ⟨side, defined⟩ := exists_defines_of_startsRead_ne_true mem starts
  exact never side defined

/-- If every read of certain variables stands behind a definition, then the order of their first
mentions is that of their first definitions. -/
theorem eraseDups_filter_names {p : String → Bool}
    (defs : ∀ side name, (side, Mention.defines name) ∈ history → p name = true)
    (reads : ∀ before side name after, history = before ++ (side, .reads name) :: after →
      p name = true → ∃ other, (other, Mention.defines name) ∈ before) :
    ((history.map fun entry => entry.2.name).filter p).eraseDups =
      (history.filterMap fun entry => entry.2.defined?).eraseDups := by
  induction history using List.reverseRecOn with
  | nil => rfl
  | append_singleton history last ih =>
    have ih := ih (fun side name mem => defs side name (List.mem_append_left _ mem))
      fun before side name after heq => reads before side name (after ++ [last]) (by simp [heq])
    rw [List.map_append, List.filter_append, List.filterMap_append]
    obtain ⟨side, mention⟩ := last
    cases mention with
    | defines name =>
      have hp : p name = true := defs side name (by simp)
      rw [List.eraseDups_append_congr ih]
      simp [Mention.name, Mention.defined?, hp]
    | reads name =>
      have none : [(side, Mention.reads name)].filterMap (fun entry => entry.2.defined?) = [] := rfl
      rw [none, List.append_nil, ← ih]
      by_cases hp : p name = true
      · obtain ⟨other, mem⟩ := reads history side name [] rfl hp
        refine List.eraseDups_append_of_subset fun found hfound => ?_
        obtain rfl : found = name := by simpa [Mention.name, hp] using hfound
        exact List.mem_filter.2 ⟨List.mem_map.2 ⟨_, mem, rfl⟩, hp⟩
      · simp [Mention.name, hp]

end History

/-- The error that answers a mention that is not admitted. -/
def Mention.refusal : Mention → Error
  | .defines name => .multiplyDefinedVariable name
  | .reads name => .variableRoleConflict name

/-! ## The table of a history -/

namespace SymbolTable

/-- The table that a history leads to. -/
def ofHistory (history : History) : SymbolTable where
  symbols := history.names.map history.symbolOf
  inputs := history.names.filter history.startsRead
  defs := history.names.filter fun name => !history.startsRead name

theorem find?_ofHistory (history : History) (name : String) :
    (ofHistory history).find? name =
      if name ∈ history.names then some (history.symbolOf name) else none := by
  have same : ((fun symbol : PatternSymbol => symbol.name == name) ∘ history.symbolOf) =
      (· == name) := rfl
  rw [find?, ofHistory, List.find?_map, same]
  split
  case isTrue h =>
    have present : (history.names.find? (· == name)).isSome :=
      List.find?_isSome.2 ⟨name, h, beq_self_eq_true name⟩
    obtain ⟨found, hfound⟩ := Option.isSome_iff_exists.1 present
    have heq : found = name := by simpa using @List.find?_some _ (· == name) _ _ hfound
    rw [hfound, heq, Option.map_some]
  case isFalse h =>
    have missing : history.names.find? (· == name) = none := by
      rw [List.find?_eq_none]
      exact fun other mem heq => h (eq_of_beq heq ▸ mem)
    rw [missing, Option.map_none]

theorem ofHistory_nil : ofHistory [] = {} := rfl

theorem mem_inputs_ofHistory {history : History} {name : String} :
    name ∈ (ofHistory history).inputs ↔ history.startsRead name = true := by
  rw [ofHistory, List.mem_filter]
  exact and_iff_right_of_imp History.mem_names_of_startsRead

theorem filterMap_find?_ofHistory {history : History} {names : List String}
    (h : names ⊆ history.names) :
    names.filterMap (ofHistory history).find? = names.map history.symbolOf := by
  rw [← List.filterMap_eq_map]
  refine List.filterMap_congr fun name mem => ?_
  rw [find?_ofHistory, if_pos (h mem), Function.comp_apply]

/-- No input has a definition just if variables that are read first are never defined. -/
theorem find?_defined_input_eq_none_iff {history : History} :
    (((ofHistory history).inputs.filterMap (ofHistory history).find?).find? fun symbol =>
        !symbol.isInput) = none ↔
      ∀ name, history.startsRead name = true → history.NeverDefined name := by
  have known : (ofHistory history).inputs ⊆ history.names := List.filter_subset_self _
  rw [filterMap_find?_ofHistory known, List.find?_eq_none]
  simp only [List.forall_mem_map, mem_inputs_ofHistory, Bool.not_eq_true', Bool.not_eq_false,
    History.isInput_symbolOf_iff]
  rfl

/-- The inputs that come up in the later part of a history. -/
theorem inputs_ofHistory_append (history entries : History) :
    (ofHistory (history ++ entries)).inputs = (ofHistory history).inputs ++
      ((entries.map fun entry => entry.2.name).removeAll
        (history.map fun entry => entry.2.name)).eraseDups.filter
          (History.startsRead (history ++ entries)) := by
  have starts : ∀ name ∈ history.names,
      History.startsRead (history ++ entries) name = history.startsRead name :=
    fun name mem => History.startsRead_append_of_mem mem _
  rw [ofHistory, ofHistory, ← List.filter_congr starts, ← List.filter_append, History.names,
    List.map_append, List.eraseDups_append, History.names]

theorem drop_inputs_eq_nil_iff {history entries : History} :
    (ofHistory (history ++ entries)).inputs.drop (ofHistory history).inputs.length = [] ↔
      ∀ name, History.startsRead (history ++ entries) name = true → name ∈ history.names := by
  have late : ∀ name, name ∈ ((entries.map fun entry => entry.2.name).removeAll
      (history.map fun entry => entry.2.name)).eraseDups ↔
      (∃ entry ∈ entries, entry.2.name = name) ∧ name ∉ history.names := by
    intro name
    simp [List.removeAll, History.mem_names]
  rw [inputs_ofHistory_append, List.drop_left, List.filter_eq_nil_iff]
  constructor
  · intro h name starts
    by_contra fresh
    obtain ⟨entry, mem, hname⟩ := History.mem_names.1 (History.mem_names_of_startsRead starts)
    refine h name ((late name).2 ⟨⟨entry, ?_, hname⟩, fresh⟩) starts
    exact (List.mem_append.1 mem).resolve_left fun known =>
      fresh (History.mem_names.2 ⟨entry, known, hname⟩)
  · exact fun h name mem starts => ((late name).1 mem).2 (h name starts)

/-- A further mention of a known variable changes at most its symbol. -/
theorem ofHistory_append_of_mem {history : History} {side : Side} {mention : Mention}
    (h : mention.name ∈ history.names) :
    ofHistory (history ++ [(side, mention)]) =
      { ofHistory history with
        symbols := history.names.map (History.symbolOf (history ++ [(side, mention)])) } := by
  have starts : ∀ name ∈ history.names,
      History.startsRead (history ++ [(side, mention)]) name = history.startsRead name :=
    fun name mem => History.startsRead_append_of_mem mem _
  simp only [ofHistory, History.names_append_of_mem h, SymbolTable.mk.injEq, true_and]
  exact ⟨List.filter_congr starts, List.filter_congr fun name mem => by rw [starts name mem]⟩

/-- The first mention of a variable decides whether it counts as an input. -/
theorem ofHistory_append_of_notMem {history : History} {side : Side} {mention : Mention}
    (h : mention.name ∉ history.names) :
    ofHistory (history ++ [(side, mention)]) =
      { symbols := (ofHistory history).symbols ++
          [History.symbolOf (history ++ [(side, mention)]) mention.name]
        inputs := (ofHistory history).inputs ++
          if mention = .reads mention.name then [mention.name] else []
        defs := (ofHistory history).defs ++
          if mention = .reads mention.name then [] else [mention.name] } := by
  have starts : ∀ name ∈ history.names,
      History.startsRead (history ++ [(side, mention)]) name = history.startsRead name :=
    fun name mem => History.startsRead_append_of_mem mem _
  have symbols : ∀ name ∈ history.names,
      History.symbolOf (history ++ [(side, mention)]) name = history.symbolOf name := by
    intro name mem
    cases mention with
    | defines new =>
      rw [History.symbolOf_append_defines, if_neg fun heq : name = new => h (heq ▸ mem)]
    | reads new => exact History.symbolOf_append_reads history side new name
  have last := History.startsRead_append_of_notMem side h
  simp only [ofHistory, History.names_append_of_notMem h, List.map_append, List.filter_append,
    List.map_cons, List.map_nil, SymbolTable.mk.injEq]
  refine ⟨?_, ?_, ?_⟩
  · rw [List.map_congr_left symbols]
  · rw [List.filter_congr starts, List.filter_cons, last]
    cases mention <;> simp [Mention.name]
  · rw [List.filter_congr fun name mem => by rw [starts name mem], List.filter_cons, last]
    cases mention <;> simp [Mention.name]

/-! ## Taking up mentions -/

theorem markDefined_ofHistory (history : History) (side : Side) (name : String) :
    markDefined side name (ofHistory history).symbols =
      history.names.map (History.symbolOf (history ++ [(side, .defines name)])) := by
  rw [markDefined, ofHistory, List.map_map]
  refine List.map_congr_left fun other _ => ?_
  rw [History.symbolOf_append_defines, Function.comp_apply]
  by_cases h : other = name <;> simp [h, History.symbolOf]

theorem define_ofHistory_of_admits {history : History} {side : Side} {name : String}
    (h : history.Admits side (.defines name)) :
    (ofHistory history).define side name =
      .ok (ofHistory (history ++ [(side, .defines name)])) := by
  rw [define, find?_ofHistory]
  by_cases mem : name ∈ history.names
  · have undefined : (side, Mention.defines name) ∉ history := h
    rw [if_pos mem, @ofHistory_append_of_mem history side (.defines name) mem,
      ← markDefined_ofHistory]
    simp [undefined]
  · have symbol : History.symbolOf (history ++ [(side, .defines name)]) name =
        PatternSymbol.define { name } side := by
      have undefined := History.not_defines_of_notMem mem
      rw [History.symbolOf_append_defines, if_pos rfl, History.symbolOf]
      simp [undefined]
    rw [if_neg mem, @ofHistory_append_of_notMem history side (.defines name) mem]
    simp [Mention.name, symbol]

theorem read_ofHistory_of_admits {history : History} {side : Side} {name : String}
    (h : history.Admits side (.reads name)) :
    (ofHistory history).read side name = .ok (ofHistory (history ++ [(side, .reads name)])) := by
  rw [read, find?_ofHistory]
  by_cases mem : name ∈ history.names
  · have accepted : (!(history.symbolOf name).isInput && !(history.symbolOf name).definedIn side) =
        false := by
      rw [History.definedIn_symbolOf]
      by_cases input : (history.symbolOf name).isInput = true
      · rw [input]; rfl
      · rw [History.isInput_symbolOf_iff, not_forall_not] at input
        simp [h input]
    have unchanged : History.symbolOf (history ++ [(side, .reads name)]) = history.symbolOf :=
      funext fun other => History.symbolOf_append_reads history side name other
    rw [if_pos mem, @ofHistory_append_of_mem history side (.reads name) mem, unchanged]
    simp only [accepted, Bool.false_eq_true, if_false]
    rfl
  · have symbol : History.symbolOf (history ++ [(side, .reads name)]) name = { name } := by
      have undefined := History.not_defines_of_notMem mem
      rw [History.symbolOf_append_reads, History.symbolOf]
      simp [undefined]
    rw [if_neg mem, @ofHistory_append_of_notMem history side (.reads name) mem]
    simp [Mention.name, symbol]

theorem mention_ofHistory_of_admits {history : History} {side : Side} {mention : Mention}
    (h : history.Admits side mention) :
    (ofHistory history).mention side mention = .ok (ofHistory (history ++ [(side, mention)])) := by
  cases mention with
  | defines name => exact define_ofHistory_of_admits h
  | reads name => exact read_ofHistory_of_admits h

theorem mention_ofHistory_of_not_admits {history : History} {side : Side} {mention : Mention}
    (h : ¬ history.Admits side mention) :
    (ofHistory history).mention side mention = .error mention.refusal := by
  cases mention with
  | defines name =>
    have defined : (side, Mention.defines name) ∈ history := not_not.1 h
    have mem : name ∈ history.names := History.mem_names.2 ⟨_, defined, rfl⟩
    rw [mention, define, find?_ofHistory, if_pos mem]
    simp [defined, Mention.refusal]
  | reads name =>
    obtain ⟨⟨other, defined⟩, undefined⟩ := Classical.not_imp.1 h
    have mem : name ∈ history.names := History.mem_names.2 ⟨_, defined, rfl⟩
    have input : (history.symbolOf name).isInput = false := by
      rw [← Bool.not_eq_true, History.isInput_symbolOf_iff]
      exact fun never => never other defined
    rw [mention, read, find?_ofHistory, if_pos mem]
    simp [input, undefined, Mention.refusal]

/-- **Resolving succeeds just on consistent histories**, with the table of the whole history. -/
theorem resolve_ofHistory_eq_ok_iff {history : History} (h : history.Consistent) (side : Side)
    (mentions : List Mention) (table : SymbolTable) :
    (ofHistory history).resolve side mentions = .ok table ↔
      History.Consistent (history ++ mentions.map (side, ·)) ∧
        table = ofHistory (history ++ mentions.map (side, ·)) := by
  induction mentions generalizing history with
  | nil => simp [resolve, h, eq_comm]
  | cons first rest ih =>
    have shift : history ++ (first :: rest).map (side, ·) =
        (history ++ [(side, first)]) ++ rest.map (side, ·) := by simp
    rw [shift, resolve]
    by_cases admits : history.Admits side first
    · rw [mention_ofHistory_of_admits admits]
      exact ih (History.consistent_append_singleton.2 ⟨h, admits⟩)
    · rw [mention_ofHistory_of_not_admits admits]
      refine iff_of_false (by simp) fun ⟨consistent, _⟩ => admits ?_
      exact (History.consistent_append_singleton.1 (History.consistent_of_append consistent)).2

end SymbolTable

end TargetDescription
