import MappedSql.Proofs.Joins

/-!
Where the values of a joined update may come from. An assignment step asks whether its source takes
part in the statement, and not whether it was joined. So it accepts every type that a condition or
either side of a join let in, and among these also types whose tables the statement does not read.
-/

namespace MappedSql

open Outcome

namespace Aliases

-- The two tests of an assignment step, where the first participant is the only target.
theorem target_test_iff (aliases : Aliases) (first : Participant) (newcomers : List Participant)
    (all : aliases.participants = first :: newcomers) (targeted : first.isTarget = true)
    (others : ∀ newcomer ∈ newcomers, newcomer.isTarget = false) (type : String) :
    (aliases.find? type).any (·.isTarget) = true ↔ type = first.type := by
  unfold find?
  rw [all]
  by_cases same : first.type = type
  · simp [same, targeted]
  · have differs : ¬ type = first.type := fun equal => same equal.symm
    rw [List.find?_cons_of_neg (by simpa using same)]
    simp only [differs, iff_false, Bool.not_eq_true]
    cases found : newcomers.find? fun participant => participant.type == type with
    | none => rfl
    | some newcomer => exact others newcomer (List.mem_of_find?_eq_some found)

theorem source_test_iff (aliases : Aliases) (first : Participant) (newcomers : List Participant)
    (all : aliases.participants = first :: newcomers) (targeted : first.isTarget = true)
    (others : ∀ newcomer ∈ newcomers, newcomer.isTarget = false) (type : String) :
    (aliases.find? type).any (!·.isTarget) = true ↔ type ≠ first.type ∧ type ∈ aliases.types := by
  have test := target_test_iff aliases first newcomers all targeted others type
  cases found : aliases.find? type with
  | none =>
      have absent := (aliases.find_none_iff type).mp found
      simp [absent]
  | some participant =>
      have known : type ∈ aliases.types := by
        by_contra absent
        rw [(aliases.find_none_iff type).mpr absent] at found
        cases found
      rw [found, Option.any_some] at test
      rw [Option.any_some, Bool.not_eq_true', ← Bool.not_eq_true, test]
      exact (and_iff_left known).symm

end Aliases

namespace Draft

def Step.mentioned : Step → List String
  | .filter condition _ => condition.parameters.map (·.name)
  | .join left right _ _ => [left.name, right.name]
  | _ => []

theorem does_types (before after : Draft) (step : Step) (does : before.Does step after)
    (type : String) :
    type ∈ after.aliases.types ↔ type ∈ before.aliases.types ∨ type ∈ step.mentioned := by
  cases does with
  | filter all _ => exact enter_all_types _ _ _ all type
  | join _ all _ _ => exact enter_all_types _ _ _ all type
  | _ => simp [Step.mentioned]

end Draft

namespace JoinedUpdateDraft

open FilteredDraft JoiningDraft

def mentioned (steps : List Step) : List String :=
  steps.flatMap fun step => ((shared? JoinedUpdateDraft step).map Draft.Step.mentioned).getD []

theorem own_step_aliases (update : JoinedUpdateDraft) (step : Step)
    (own : shared? JoinedUpdateDraft step = none)
    (succeeded : (update.apply step).draft.fault = none) :
    (update.apply step).draft.aliases = update.draft.aliases := by
  cases step with
  | shared other => cases own
  | additional columns => rfl
  | assign target source pairs =>
      obtain ⟨_, assignments, _, same⟩ := update.assign_does target source pairs succeeded
      rw [same]

theorem run_types (update : JoinedUpdateDraft) (steps : List Step)
    (succeeded : (steps.foldl apply update).draft.fault = none) (type : String) :
    type ∈ (steps.foldl apply update).draft.aliases.types ↔
      type ∈ update.draft.aliases.types ∨ type ∈ mentioned steps := by
  induction steps generalizing update with
  | nil => simp [mentioned]
  | cons step rest ih =>
      have later := ih (update.apply step) succeeded
      have first : type ∈ (update.apply step).draft.aliases.types ↔
          type ∈ update.draft.aliases.types ∨ type ∈ mentioned [step] := by
        have done := run_succeeded (update.apply step) rest succeeded
        rcases step_cases update step done with ⟨shared, kind, does⟩ | ⟨kind, _⟩
        · have each : type ∈ (update.apply step).draft.aliases.types ↔
              type ∈ update.draft.aliases.types ∨ type ∈ shared.mentioned :=
            Draft.does_types _ _ shared does type
          simpa [mentioned, kind] using each
        · rw [update.own_step_aliases step kind done]
          simp [mentioned, kind]
      rw [List.foldl_cons, later, first, or_assoc]
      simp [mentioned]

theorem pairing_fault_iff (aliases : Aliases) (primary source : String) :
    pairingFault? aliases primary source = none ↔
      primary ≠ source ∧ (aliases.find? primary).any (·.isTarget) = true ∧
        (aliases.find? source).any (!·.isTarget) = true := by
  unfold pairingFault?
  split_ifs with same stranger absent <;> simp_all

section Accepted

variable (target : EntityType) (steps : List Step)

-- The participants of a successful run are the target and what the steps mentioned.
theorem participant_iff (succeeded : (run target steps).draft.fault = none) (type : String) :
    type ∈ (run target steps).draft.aliases.types ↔ type = target.name ∨ type ∈ mentioned steps := by
  obtain ⟨table, aliases, _, only, begun⟩ := started (δ := JoinedUpdateDraft) target steps succeeded
  have first : type ∈ (start target).draft.aliases.types ↔ type = target.name := by
    have same : (start target).draft.aliases = aliases := congrArg Draft.aliases begun
    rw [same, Aliases.types, only, List.map_singleton, List.mem_singleton]
  rw [← first]
  exact run_types (start target) steps succeeded type

theorem source_test_run (succeeded : (run target steps).draft.fault = none) (source : String) :
    ((run target steps).draft.aliases.find? source).any (!·.isTarget) = true ↔
      source ≠ target.name ∧ source ∈ mentioned steps := by
  obtain ⟨table, newcomers, _, all, others⟩ :=
    run_participants (δ := JoinedUpdateDraft) target steps succeeded
  refine (Aliases.source_test_iff _ _ newcomers all rfl others source).trans ?_
  refine and_congr_right fun differs => ?_
  exact (participant_iff target steps succeeded source).trans (or_iff_right differs)

theorem target_test_run (succeeded : (run target steps).draft.fault = none) (primary : String) :
    ((run target steps).draft.aliases.find? primary).any (·.isTarget) = true ↔
      primary = target.name := by
  obtain ⟨table, newcomers, _, all, others⟩ :=
    run_participants (δ := JoinedUpdateDraft) target steps succeeded
  exact Aliases.target_test_iff _ _ newcomers all rfl others primary

theorem pairing_fits_iff (succeeded : (run target steps).draft.fault = none)
    (primary source : String) :
    pairingFault? (run target steps).draft.aliases primary source = none ↔
      primary = target.name ∧ source ≠ target.name ∧ source ∈ mentioned steps := by
  rw [pairing_fault_iff, target_test_run target steps succeeded primary,
    source_test_run target steps succeeded source]
  constructor
  · rintro ⟨_, rfl, named⟩
    exact ⟨rfl, named⟩
  · rintro ⟨rfl, differs, named⟩
    exact ⟨differs.symm, rfl, differs, named⟩

-- A type that nothing mentioned is refused by its name.
theorem pairing_unmentioned (succeeded : (run target steps).draft.fault = none) (source : String)
    (differs : source ≠ target.name) (unmentioned : source ∉ mentioned steps) :
    pairingFault? (run target steps).draft.aliases target.name source =
      some (.notJoined source) := by
  have isTarget := (target_test_run target steps succeeded target.name).mpr rfl
  have isSource := mt (source_test_run target steps succeeded source).mp
    fun named => unmentioned named.2
  simp [pairingFault?, differs.symm, isTarget, isSource]

end Accepted

theorem assign_all_iff (aliases : Aliases) (target : String) (done : List String)
    (pairs : List (Expr × Expr)) :
    (assignAll aliases target done pairs).2 = none ↔
      ∀ pair ∈ pairs, ∃ text, assignment aliases target pair = .ok text := by
  rw [assign_all, failure_none_iff, mapM_succeeds_iff]

theorem assign_fault_iff (update : JoinedUpdateDraft) (target source : String)
    (pairs : List (Expr × Expr)) (succeeded : update.draft.fault = none) :
    (update.apply (.assign target source pairs)).draft.fault = none ↔
      pairingFault? update.draft.aliases target source = none ∧
        ∀ pair ∈ pairs, ∃ text, assignment update.draft.aliases target pair = .ok text := by
  have refused := assign_all_iff update.draft.aliases target update.assignments pairs
  constructor
  · intro done
    obtain ⟨fits, assignments, all, _⟩ := update.assign_does target source pairs done
    exact ⟨fits, refused.mp (congrArg Prod.snd all)⟩
  · rintro ⟨fits, written⟩
    simp [apply, succeeded, assign, fits, refused.mpr written]

theorem run_step (target : EntityType) (steps : List Step) (step : Step) :
    run target (steps ++ [step]) = (run target steps).apply step := by
  rw [run, List.foldl_append, ← run]
  rfl

/-- After a run that succeeded, an assignment step succeeds just when it names the target, a source
that a condition or a join mentioned, and columns and values that can be written. Whether the
source was joined is another matter: only then its alias is among those of the joins. -/
theorem source_accepted_iff (target : EntityType) (steps : List Step)
    (succeeded : (run target steps).draft.fault = none) (primary source : String)
    (pairs : List (Expr × Expr)) :
    ((run target (steps ++ [.assign primary source pairs])).draft.fault = none ↔
      primary = target.name ∧ source ≠ target.name ∧ source ∈ mentioned steps ∧
        ∀ pair ∈ pairs, ∃ text,
          assignment (run target steps).draft.aliases primary pair = .ok text) ∧
    (source ≠ target.name → source ∉ mentioned steps →
      (run target (steps ++ [.assign target.name source pairs])).draft.fault =
        some (.notJoined source)) ∧
    ((∃ name ∈ (run target steps).draft.joinNames,
      (run target steps).draft.aliases.aliasOf? source = some name) ↔
        source ∈ joinedTypes JoinedUpdateDraft target steps) := by
  refine ⟨?_, ?_, run_joined_iff (δ := JoinedUpdateDraft) target steps succeeded source⟩
  · rw [run_step, assign_fault_iff _ _ _ _ succeeded, pairing_fits_iff target steps succeeded,
      and_assoc, and_assoc]
  · intro differs unmentioned
    have refused := pairing_unmentioned target steps succeeded source differs unmentioned
    rw [run_step]
    simp [apply, succeeded, assign, refused, fail, Draft.fail]

def orders : EntityType := ⟨"Order", Sample.order⟩

def persons : EntityType := ⟨"Person", Sample.person⟩

def ofPersons : List Step :=
  [.shared (.join orders persons
    (.binary .equal (.column "Order" "person_id") (.column "Person" "id")) .inner)]

def underNames : List Step :=
  [.shared (.filter ⟨[persons],
    .binary .equal (.column "Person" "name") (.constant (.text "Ann"))⟩ .and)]

def takesStatus : List (Expr × Expr) :=
  [(.column "Order" "status", .column "Person" "status")]

theorem joined_source_accepted_iff :
    (run orders ofPersons).draft.fault = none ∧
    ((run orders (ofPersons ++ [.assign "Order" "Person" takesStatus])).draft.fault = none ↔
      "Order" = "Order" ∧ "Person" ≠ "Order" ∧ "Person" ∈ mentioned ofPersons ∧
        ∀ pair ∈ takesStatus, ∃ text,
          assignment (run orders ofPersons).draft.aliases "Order" pair = .ok text) ∧
    ("Person" ≠ "Order" → "Person" ∉ mentioned ofPersons →
      (run orders (ofPersons ++ [.assign "Order" "Person" takesStatus])).draft.fault =
        some (.notJoined "Person")) ∧
    ((∃ name ∈ (run orders ofPersons).draft.joinNames,
      (run orders ofPersons).draft.aliases.aliasOf? "Person" = some name) ↔
        "Person" ∈ joinedTypes JoinedUpdateDraft orders ofPersons) :=
  ⟨rfl, source_accepted_iff orders ofPersons rfl "Order" "Person" takesStatus⟩

/-- Nothing was joined, and the statement takes its values from an alias that it does not bind. -/
theorem unjoined_source_accepted :
    joinedTypes JoinedUpdateDraft orders underNames = [] ∧
    (run orders (underNames ++ [.assign "Order" "Person" takesStatus])).draft.joins = [] ∧
    (run orders (underNames ++ [.assign "Order" "Person" takesStatus])).draft.fault = none ∧
    StatementDraft.build (run orders (underNames ++ [.assign "Order" "Person" takesStatus])) =
      .ok "UPDATE t0 SET t0.[Status] = t1.[Status] FROM [sales].[Orders] t0 WHERE (t1.[Name] = 'Ann')" :=
  ⟨rfl, rfl, rfl, rfl⟩

end JoinedUpdateDraft

end MappedSql
