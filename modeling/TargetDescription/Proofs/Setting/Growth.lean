import TargetDescription.Proofs.Encoding.Finish
import TargetDescription.Proofs.Setting.Layout

/-!
# How a closed group grows

After it is closed, a settings group changes in one way only: predicates that it can evaluate are
numbered behind those that are. So a number once given stays, the bits of the predicates lie behind
the bytes of the other settings and apart from each other, and what fails leaves no trace.

* `SettingGroup.GrowsTo` is this change, `SettingGroup.KeptBy` what it leaves alone.
* `SettingGroup.Request` is what may be asked of a closed group, on its own or by a target;
  `SettingGroup.growsTo_request` is the step and `SettingGroup.growsTo_requestAll` the run.
* `SettingGroup.WellNumbered` says how predicates, numbers and bits go together.
* `numbers_persist` is the main result.
-/

namespace TargetDescription

namespace Numbering

variable {α : Type} [DecidableEq α]

theorem addAll_append (numbering : Numbering α) (as bs : List α) :
    numbering.addAll (as ++ bs) = (numbering.addAll as).addAll bs :=
  List.foldl_append

theorem number?_add_of_notMem {numbering : Numbering α} {a : α} (h : a ∉ numbering.items) :
    (numbering.add a).number? a = some numbering.size := by
  rw [number?_eq_some_iff, items_add, if_neg h]
  exact List.getElem?_concat_length

end Numbering

namespace Target

/-- Finishing a target numbers predicates that the group can evaluate, or nothing. -/
theorem finish_cases (target : Target) :
    (∃ predicates, (∀ predicate ∈ predicates,
          target.settings.serves predicate.context = true) ∧
        target.finish.result = .ok () ∧ target.finish.state.settings =
          { target.settings with numbering := target.settings.numbering.addAll predicates }) ∨
      ∃ error, target.finish = .fail error target := by
  cases unfinished : target.numbering with
  | some numbering => exact .inr ⟨_, by rw [finish, unfinished]⟩
  | none =>
    cases foreign : target.foreignPredicate? with
    | some predicate => exact .inr ⟨_, finish_of_foreign unfinished foreign⟩
    | none =>
      rw [finish_of_served unfinished foreign]
      exact .inl ⟨target.settingPredicates,
        serves_of_foreignPredicate?_eq_none foreign, rfl, rfl⟩

end Target

namespace SettingGroup

variable {group later : SettingGroup} {predicate : Predicate} {number : Nat}

/-! ## Growing -/

/-- Later on, predicates that the group can evaluate are numbered besides, and that is all. -/
def GrowsTo (group later : SettingGroup) : Prop :=
  ∃ predicates, (∀ predicate ∈ predicates, group.serves predicate.context = true) ∧
    later = { group with numbering := group.numbering.addAll predicates }

theorem GrowsTo.refl (group : SettingGroup) : group.GrowsTo group :=
  ⟨[], by simp, rfl⟩

theorem GrowsTo.trans {last : SettingGroup} (first : group.GrowsTo later)
    (second : later.GrowsTo last) : group.GrowsTo last := by
  obtain ⟨ps, hps, rfl⟩ := first
  obtain ⟨qs, hqs, rfl⟩ := second
  refine ⟨ps ++ qs, ?_, by rw [Numbering.addAll_append]⟩
  exact List.forall_mem_append.2 ⟨hps, hqs⟩

theorem growsTo_add (h : group.serves predicate.context = true) :
    group.GrowsTo { group with numbering := group.numbering.add predicate } :=
  ⟨[predicate], by simpa using h, rfl⟩

/-- What does not change as the group grows. The numbered predicates are a beginning of those that
are numbered later. -/
structure KeptBy (group later : SettingGroup) : Prop where
  path : later.path = group.path
  settings : later.settings = group.settings
  booleanOffset : later.booleanOffset = group.booleanOffset
  settingsSize : later.settingsSize = group.settingsSize
  defaultBytes : later.defaultBytes = group.defaultBytes
  items : group.numbering.items <+: later.numbering.items
  numbers : ∀ predicate number, group.predicateNumber? predicate = some number →
    later.predicateNumber? predicate = some number
  byteSize : group.byteSize ≤ later.byteSize

theorem GrowsTo.keptBy (h : group.GrowsTo later) : group.KeptBy later := by
  obtain ⟨predicates, -, rfl⟩ := h
  have items := Numbering.items_prefix_addAll group.numbering predicates
  constructor
  case items => exact items
  case numbers => exact fun _ _ numbered => Numbering.number?_addAll numbered predicates
  case byteSize =>
    have longer : group.numbering.size ≤ (group.numbering.addAll predicates).size :=
      items.length_le
    simp only [SettingGroup.byteSize]
    omega
  all_goals rfl

/-! ## Requests -/

/-- Asking for a number has three outcomes: the predicate has one, or it gets the next one, or the
group cannot evaluate it. -/
theorem numberPredicate_cases (group : SettingGroup) (predicate : Predicate) :
    (∃ number, group.predicateNumber? predicate = some number ∧
        group.numberPredicate predicate = .ok number group) ∨
      (predicate ∉ group.numbering.items ∧ group.serves predicate.context = true ∧
        group.numberPredicate predicate =
          .ok group.numbering.size
            { group with numbering := group.numbering.add predicate }) ∨
      (¬ group.serves predicate.context = true ∧ group.numberPredicate predicate =
        .fail (.foreignPredicate predicate.display group.name) group) := by
  cases numbered : group.predicateNumber? predicate with
  | some number => exact .inl ⟨number, rfl, by rw [numberPredicate, numbered]⟩
  | none =>
    have new : predicate ∉ group.numbering.items := by
      rw [← Numbering.isSome_number?_iff, ← predicateNumber?, numbered]
      exact Bool.false_ne_true
    by_cases served : group.serves predicate.context = true
    · exact .inr (.inl ⟨new, served, numberPredicate_of_notMem served new⟩)
    · refine .inr (.inr ⟨served, ?_⟩)
      rw [numberPredicate, numbered, checkPredicate_of_not_serves group served]

theorem growsTo_numberPredicate (group : SettingGroup) (predicate : Predicate) :
    group.GrowsTo (group.numberPredicate predicate).state := by
  rcases group.numberPredicate_cases predicate with ⟨number, -, h⟩ | ⟨-, served, h⟩ | ⟨-, h⟩
  · rw [h]
    exact .refl group
  · rw [h]
    exact growsTo_add served
  · rw [h]
    exact .refl group

theorem predicateNumber?_numberPredicate
    (h : (group.numberPredicate predicate).result = .ok number) :
    (group.numberPredicate predicate).state.predicateNumber? predicate = some number := by
  rcases group.numberPredicate_cases predicate with ⟨_, numbered, ok⟩ | ⟨new, -, ok⟩ | ⟨-, fail⟩
  · rw [ok, Outcome.result_ok, Except.ok.injEq] at h
    rw [ok, ← h]
    exact numbered
  · rw [ok, Outcome.result_ok, Except.ok.injEq] at h
    rw [ok, ← h]
    exact Numbering.number?_add_of_notMem new
  · simp [fail] at h

theorem growsTo_numberPredicates (group : SettingGroup) (predicates : List Predicate) :
    group.GrowsTo (group.numberPredicates predicates).state := by
  induction predicates generalizing group with
  | nil => exact .refl group
  | cons predicate rest ih =>
    have first := group.growsTo_numberPredicate predicate
    rw [numberPredicates, Outcome.andThen]
    cases (group.numberPredicate predicate).result with
    | ok number => exact first.trans (ih _)
    | error error => exact first

/-- Numbering ends early only at a predicate that the group cannot evaluate. -/
theorem foreignPredicate_of_numberPredicates {predicates : List Predicate} {error : Error}
    (h : (group.numberPredicates predicates).result = .error error) :
    ∃ predicate ∈ predicates, ¬ group.serves predicate.context = true ∧
      error = .foreignPredicate predicate.display group.name := by
  induction predicates generalizing group with
  | nil => cases h
  | cons predicate rest ih =>
    rw [numberPredicates, Outcome.andThen] at h
    rcases group.numberPredicate_cases predicate with
      ⟨number, -, first⟩ | ⟨-, -, first⟩ | ⟨foreign, first⟩
    · rw [first, Outcome.result_ok] at h
      obtain ⟨later, mem, foreign⟩ := ih h
      exact ⟨later, List.mem_cons_of_mem _ mem, foreign⟩
    · rw [first, Outcome.result_ok] at h
      obtain ⟨later, mem, foreign⟩ := ih h
      exact ⟨later, List.mem_cons_of_mem _ mem, foreign⟩
    · rw [first] at h
      exact ⟨predicate, List.mem_cons_self, foreign, (Except.error.inj h).symm⟩

/-- What may be asked of a closed group. -/
inductive Request
  | number (predicate : Predicate)
  | check (predicate : Predicate)
  | layOut
  /-- A target takes the group over, in place of its own, and is finished. -/
  | finish (target : Target)

/-- What a request leaves of the group, and whether it succeeds. -/
def request (group : SettingGroup) : Request → Outcome SettingGroup Unit
  | .number predicate => (group.numberPredicate predicate).map fun _ => ()
  | .check predicate => ⟨group.checkPredicate predicate, group⟩
  | .layOut => group.layOut
  | .finish target => Target.finish { target with settings := group } |>.inside (·.settings)

/-- What several requests leave of the group. -/
def requestAll (group : SettingGroup) (requests : List Request) : SettingGroup :=
  requests.foldl (fun group call => (group.request call).state) group

theorem growsTo_request (group : SettingGroup) (call : Request) :
    group.GrowsTo (group.request call).state := by
  cases call with
  | number predicate => exact group.growsTo_numberPredicate predicate
  | check predicate => exact .refl group
  | layOut => exact .refl group
  | finish target =>
    rcases Target.finish_cases { target with settings := group } with
      ⟨predicates, served, -, settings⟩ | ⟨_, fail⟩
    · exact ⟨predicates, served, settings⟩
    · rw [request, fail]
      exact .refl group

theorem growsTo_requestAll (group : SettingGroup) (calls : List Request) :
    group.GrowsTo (group.requestAll calls) := by
  induction calls generalizing group with
  | nil => exact .refl group
  | cons call rest ih => exact (group.growsTo_request call).trans (ih _)

theorem state_request_of_error {call : Request} {error : Error}
    (h : (group.request call).result = .error error) : (group.request call).state = group := by
  cases call with
  | number predicate =>
    rw [request] at h ⊢
    rcases group.numberPredicate_cases predicate with ⟨_, -, ok⟩ | ⟨-, -, ok⟩ | ⟨-, fail⟩
    · simp [ok] at h
    · simp [ok] at h
    · rw [fail]
      rfl
  | check predicate => rfl
  | layOut => rfl
  | finish target =>
    rw [request] at h ⊢
    rcases Target.finish_cases { target with settings := group } with ⟨_, -, ok, -⟩ | ⟨_, fail⟩
    · simp [ok] at h
    · rw [fail]
      rfl

/-! ## Predicates, numbers and bits -/

/-- The numbers of the predicates are their positions, the group can evaluate them all, and each has
a bit of its own inside the vector, in none of the bytes that belong to settings. -/
structure WellNumbered (group : SettingGroup) : Prop where
  nodup : group.numbering.items.Nodup
  number_iff : ∀ predicate number, group.predicateNumber? predicate = some number ↔
    group.numbering.items[number]? = some predicate
  evaluable : ∀ predicate ∈ group.numbering.items,
    predicate.context.EvaluableIn (.settings group.path)
  byteSize : group.byteSize = group.booleanOffset + (group.numbering.items.length + 7) / 8
  inside : ∀ number < group.numbering.items.length,
    group.booleanOffset + number / 8 < group.byteSize
  behind : ∀ setting ∈ group.settings, setting.isBool = false → ∀ number,
    ¬ setting.Occupies (group.booleanOffset + number / 8) (bitOfNumber number)
  apart : ∀ number other, group.booleanOffset + number / 8 = group.booleanOffset + other / 8 →
    bitOfNumber number = bitOfNumber other → number = other

theorem wellNumbered_of_served
    (served : ∀ predicate ∈ group.numbering.items, group.serves predicate.context = true)
    (before : ∀ setting ∈ group.settings, setting.isBool = false →
      setting.byteOffset < group.booleanOffset) : group.WellNumbered where
  nodup := group.numbering.nodup
  number_iff := fun _ _ => Numbering.number?_eq_some_iff
  evaluable := fun predicate mem => (group.serves_iff _).1 (served predicate mem)
  byteSize := rfl
  inside := by
    intro number lt
    have size : group.byteSize =
      group.booleanOffset + (group.numbering.items.length + 7) / 8 := rfl
    omega
  behind := by
    intro setting mem other number occupies
    have lt := before setting mem other
    have here : setting.byteOffset = group.booleanOffset + number / 8 := occupies.1
    omega
  apart := by
    intro number other bytes bits
    -- The quotients agree by `bytes`.
    have remainders : number % 8 = other % 8 := Fin.val_eq_of_eq bits
    omega

theorem GrowsTo.served (h : group.GrowsTo later)
    (served : ∀ predicate ∈ group.numbering.items, group.serves predicate.context = true) :
    ∀ predicate ∈ later.numbering.items, later.serves predicate.context = true := by
  obtain ⟨predicates, new, rfl⟩ := h
  intro predicate mem
  rcases (Numbering.mem_items_addAll _ _ _).1 mem with old | added
  · exact served predicate old
  · exact new predicate added

end SettingGroup

namespace OpenSettingGroup

theorem serves_placed (group : OpenSettingGroup) :
    ∀ predicate ∈ group.placed.numbering.items,
      group.placed.serves predicate.context = true := by
  intro predicate mem
  rw [items_placed] at mem
  obtain ⟨handle, hhandle, rfl⟩ := List.mem_map.1 mem
  obtain ⟨own, -⟩ := group_of_mem_boolHandles hhandle
  change handle.group.isAncestorOf group.path = true
  rw [own]
  exact group.path.isAncestorOf_refl

/-- Closing ends with the named predicates, as any numbering that may follow. -/
theorem growsTo_of_close {group : OpenSettingGroup} {closed : SettingGroup}
    (h : group.close = .ok closed) : group.placed.GrowsTo closed := by
  rw [close, layOut_eq] at h
  split at h
  · cases h
  · obtain rfl := Except.ok.inj h
    exact SettingGroup.growsTo_numberPredicates _ _

/-- Only a named predicate that the group cannot evaluate can keep it from being closed. -/
theorem foreignPredicate_of_close {group : OpenSettingGroup} {error : Error}
    (h : group.close = .error error) :
    ∃ named ∈ group.namedPredicates,
      ¬ named.2.context.EvaluableIn (.settings group.path) ∧
        error = .foreignPredicate named.2.display group.name := by
  rw [close, layOut_eq] at h
  split at h
  case h_1 reason result =>
    obtain ⟨predicate, mem, foreign, rfl⟩ :=
      SettingGroup.foreignPredicate_of_numberPredicates result
    obtain ⟨named, hnamed, rfl⟩ := List.mem_map.1 mem
    rw [SettingGroup.serves_iff] at foreign
    exact ⟨named, hnamed, foreign, (Except.error.inj h).symm⟩
  case h_2 => cases h

theorem wellNumbered_of_growsTo {group : OpenSettingGroup} {later : SettingGroup}
    (h : group.placed.GrowsTo later) : later.WellNumbered := by
  refine SettingGroup.wellNumbered_of_served (h.served group.serves_placed) ?_
  have kept := h.keptBy
  rw [kept.settings, kept.booleanOffset]
  intro setting mem other
  obtain ⟨i, hi⟩ := List.mem_iff_getElem?.1 mem
  obtain ⟨byte, -, lt⟩ := group.place_of_not_bool hi (by simp [other])
  rwa [byte]

end OpenSettingGroup

/-- **Numbers persist.** Whatever is asked of a closed group, its predicates stay well numbered, and
what was numbered keeps its number and its bit while the settings keep their places and defaults.
A request that fails changes nothing. To ask for a number again, then or later, gives the same
number and changes nothing. -/
theorem numbers_persist (group : OpenSettingGroup) (closed : SettingGroup)
    (h : group.close = .ok closed) (earlier later : List SettingGroup.Request) :
    (closed.requestAll earlier).WellNumbered ∧
      (closed.requestAll earlier).KeptBy ((closed.requestAll earlier).requestAll later) ∧
      (∀ call error, ((closed.requestAll earlier).request call).result = .error error →
        ((closed.requestAll earlier).request call).state = closed.requestAll earlier) ∧
      ∀ predicate number,
        ((closed.requestAll earlier).numberPredicate predicate).result = .ok number →
          (((closed.requestAll earlier).numberPredicate predicate).state.requestAll
              later).numberPredicate predicate =
            .ok number (((closed.requestAll earlier).numberPredicate predicate).state.requestAll
              later) := by
  have grown := (OpenSettingGroup.growsTo_of_close h).trans (closed.growsTo_requestAll earlier)
  refine ⟨OpenSettingGroup.wellNumbered_of_growsTo grown,
    (SettingGroup.growsTo_requestAll _ later).keptBy,
    fun _ _ => SettingGroup.state_request_of_error, fun predicate number numbered => ?_⟩
  have kept := (SettingGroup.growsTo_requestAll
    ((closed.requestAll earlier).numberPredicate predicate).state later).keptBy
  have known := kept.numbers _ _ (SettingGroup.predicateNumber?_numberPredicate numbered)
  rw [SettingGroup.numberPredicate, known]

/-- Both boolean settings of `mixedGroup` are on. -/
def mixedFlags : Predicate :=
  let fast : PredicateLeaf := .setting ⟨mixedGroup.path, 0, "fast"⟩
  let safe : PredicateLeaf := .setting ⟨mixedGroup.path, 3, "safe"⟩
  @Predicate.conj ⟨1⟩ [fast, safe] (.settings mixedGroup.path)
    ((JointContext.singleton fast).append (JointContext.singleton safe) rfl)

/-- The predicate that a setting of a group unrelated to `mixedGroup` is on. -/
def strayFlag : Predicate :=
  .ofSetting ⟨⟨⟨⟨2⟩, "stray"⟩, []⟩, 0, "flag"⟩

theorem numbers_persist_mixedGroup :
    ∃ closed, mixedGroup.close = .ok closed ∧
      ((closed.requestAll [.number strayFlag, .layOut]).numberPredicate mixedFlags).result =
        .ok 2 ∧
      ∀ later,
        ((closed.requestAll [.number strayFlag, .layOut, .number mixedFlags]).requestAll
            later).numberPredicate mixedFlags =
          .ok 2 ((closed.requestAll [.number strayFlag, .layOut, .number mixedFlags]).requestAll
            later) := by
  have h : ∃ closed, mixedGroup.close = .ok closed ∧
      ((closed.requestAll [.number strayFlag, .layOut]).numberPredicate mixedFlags).result =
        .ok 2 := ⟨_, rfl, rfl⟩
  obtain ⟨closed, h, numbered⟩ := h
  refine ⟨closed, h, numbered, fun later => ?_⟩
  obtain ⟨-, -, -, again⟩ := numbers_persist mixedGroup closed h [.number strayFlag, .layOut] later
  exact again mixedFlags 2 numbered

end TargetDescription
