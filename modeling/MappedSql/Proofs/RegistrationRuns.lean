import MappedSql.Proofs.Registration
import Mathlib.Data.List.Induction

/-!
Runs of registrations, accepted and refused ones in any order. Types and aliases are given out once;
the target is the type that was last made it.
-/

namespace MappedSql

open Outcome

structure Registration where
  entity : EntityType
  asTarget : Bool
  deriving DecidableEq, Repr

namespace Aliases

def attempt (aliases : Aliases) (call : Registration) : Aliases :=
  ((registration call.entity call.asTarget).run aliases).run.2

def run (aliases : Aliases) (calls : List Registration) : Aliases :=
  calls.foldl attempt aliases

def aimed? (aliases : Aliases) (call : Registration) : Option String :=
  match aliases.register call.entity call.asTarget with
  | .ok _ => if call.asTarget then some call.entity.name else none
  | .error _ => none

def aimed (aliases : Aliases) : List Registration → List String
  | [] => []
  | call :: rest => (aliases.aimed? call).toList ++ (aliases.attempt call).aimed rest

theorem run_append (aliases : Aliases) (calls more : List Registration) :
    aliases.run (calls ++ more) = (aliases.run calls).run more :=
  List.foldl_append

theorem aimed_append (aliases : Aliases) (calls more : List Registration) :
    aliases.aimed (calls ++ more) = aliases.aimed calls ++ (aliases.run calls).aimed more := by
  induction calls generalizing aliases with
  | nil => rfl
  | cons call rest ih =>
      rw [List.cons_append, aimed, ih, aimed, List.append_assoc]
      rfl

-- A refused registration has changed nothing.
theorem registration_refused {aliases after : Aliases} {entity : EntityType} {asTarget : Bool}
    {fault : Fault}
    (refused : ((registration entity asTarget).run aliases).run = (.error fault, after)) :
    after = aliases := by
  rw [registration_runs] at refused
  cases entering : aliases.enter entity with
  | ok entered => simp [entering] at refused
  | error cause =>
      rw [entering] at refused
      exact (Prod.mk.inj refused).2.symm

theorem attempt_registered {aliases after : Aliases} {call : Registration}
    (registered : aliases.register call.entity call.asTarget = .ok after) :
    aliases.attempt call = after := by
  obtain ⟨_, _, same⟩ := map_ok_iff.mp registered
  exact same

theorem attempt_refused {aliases : Aliases} {call : Registration} {fault : Fault}
    (refused : aliases.register call.entity call.asTarget = .error fault) :
    aliases.attempt call = aliases := by
  rcases ended : ((registration call.entity call.asTarget).run aliases).run with ⟨outcome, after⟩
  rw [register, ended] at refused
  cases outcome with
  | ok _ => cases refused
  | error cause =>
      rw [attempt, ended]
      exact registration_refused ended

theorem attempt_reached (aliases : Aliases) (call : Registration) (reached : aliases.Reached) :
    (aliases.attempt call).Reached := by
  cases registered : aliases.register call.entity call.asTarget with
  | ok entered =>
      rw [attempt_registered registered]
      exact .register call.entity call.asTarget reached registered
  | error fault => rwa [attempt_refused registered]

theorem run_reached (aliases : Aliases) (calls : List Registration) (reached : aliases.Reached) :
    (aliases.run calls).Reached := by
  induction calls generalizing aliases with
  | nil => exact reached
  | cons call rest ih => exact ih (aliases.attempt call) (attempt_reached aliases call reached)

/-- Each participant is found again under its type, and nothing about it has changed except perhaps
whether it is the target. -/
def Keeps (before after : Aliases) : Prop :=
  ∀ type participant, before.find? type = some participant →
    ∃ isTarget, after.find? type = some { participant with isTarget := isTarget }

theorem keeps_refl (aliases : Aliases) : aliases.Keeps aliases :=
  fun _ participant found => ⟨participant.isTarget, found⟩

theorem keeps_trans (first second third : Aliases) (before : first.Keeps second)
    (after : second.Keeps third) : first.Keeps third := by
  intro type participant found
  obtain ⟨_, kept⟩ := before type participant found
  obtain ⟨isTarget, later⟩ := after type _ kept
  exact ⟨isTarget, later⟩

theorem enter_keeps (aliases entered : Aliases) (entity : EntityType)
    (success : aliases.enter entity = .ok entered) : aliases.Keeps entered := by
  rcases enter_types aliases entered entity success with ⟨_, rfl⟩ | ⟨_, table, _, grown⟩
  · exact keeps_refl entered
  · intro type participant found
    refine ⟨participant.isTarget, ?_⟩
    rw [find?, grown, List.find?_append]
    simp only [find?] at found
    rw [found, Option.some_or]

theorem retarget_keeps (aliases : Aliases) (target : String) :
    aliases.Keeps (aliases.retarget target) := by
  intro type participant found
  refine ⟨participant.type == target, ?_⟩
  simp only [find?, retarget, List.find?_map] at found ⊢
  change (List.find? (fun other => other.type == type) aliases.participants).map _ = _
  rw [found, Option.map_some]

theorem register_keeps (aliases after : Aliases) (entity : EntityType) (asTarget : Bool)
    (registered : aliases.register entity asTarget = .ok after) : aliases.Keeps after := by
  obtain ⟨entered, success, rest⟩ := register_ok_iff.mp registered
  subst rest
  have kept := enter_keeps aliases entered entity success
  cases asTarget with
  | false => exact kept
  | true => exact keeps_trans _ _ _ kept (retarget_keeps entered entity.name)

theorem attempt_keeps (aliases : Aliases) (call : Registration) :
    aliases.Keeps (aliases.attempt call) := by
  cases registered : aliases.register call.entity call.asTarget with
  | ok after =>
      rw [attempt_registered registered]
      exact register_keeps aliases after call.entity call.asTarget registered
  | error fault =>
      rw [attempt_refused registered]
      exact keeps_refl aliases

theorem run_keeps (aliases : Aliases) (calls : List Registration) :
    aliases.Keeps (aliases.run calls) := by
  induction calls generalizing aliases with
  | nil => exact keeps_refl aliases
  | cons call rest ih =>
      exact keeps_trans _ _ _ (attempt_keeps aliases call) (ih (aliases.attempt call))

theorem keeps_alias (before after : Aliases) (keeps : before.Keeps after) (type name : String)
    (named : before.aliasOf? type = some name) : after.aliasOf? type = some name := by
  obtain ⟨participant, found, rfl⟩ := Option.map_eq_some_iff.mp named
  obtain ⟨_, kept⟩ := keeps type participant found
  rw [aliasOf?, kept, Option.map_some]

def targets (aliases : Aliases) : List Participant :=
  aliases.participants.filter (·.isTarget)

theorem target_head (aliases : Aliases) : aliases.target =
    match aliases.targets.head? with
    | some participant => .ok participant
    | none => .error .noTargetTable := by
  have same : aliases.targets.head? = aliases.participants.find? (·.isTarget) := List.head?_filter
  rw [same]
  unfold target
  cases aliases.participants.find? (·.isTarget) <;> rfl

theorem enter_targets (aliases entered : Aliases) (entity : EntityType)
    (success : aliases.enter entity = .ok entered) : entered.targets = aliases.targets := by
  rcases enter_types aliases entered entity success with ⟨_, rfl⟩ | ⟨_, table, _, grown⟩
  · rfl
  · simp [targets, grown]

theorem enter_member (aliases entered : Aliases) (entity : EntityType)
    (success : aliases.enter entity = .ok entered) : entity.name ∈ entered.types := by
  rcases enter_types aliases entered entity success with ⟨known, rfl⟩ | ⟨_, table, _, grown⟩
  · exact known
  · simp [types, grown]

-- A type that takes part once is the only target after it was made one.
theorem retarget_targets (aliases : Aliases) (type : String) (distinct : aliases.types.Nodup)
    (member : type ∈ aliases.types) : (aliases.retarget type).targets.map (·.type) = [type] := by
  have same : (aliases.retarget type).targets.map (·.type) = aliases.types.filter (· == type) := by
    simp [targets, retarget, types, List.filter_map, Function.comp_def]
  rw [same, List.filter_beq, List.count_eq_one_of_mem distinct member]
  rfl

theorem attempt_targets (aliases : Aliases) (call : Registration) (reached : aliases.Reached) :
    (aliases.attempt call).targets.map (·.type) =
      match aliases.aimed? call with
      | some type => [type]
      | none => aliases.targets.map (·.type) := by
  unfold aimed?
  cases registered : aliases.register call.entity call.asTarget with
  | error fault => rw [attempt_refused registered]
  | ok after =>
      rw [attempt_registered registered]
      obtain ⟨entered, success, rest⟩ := register_ok_iff.mp registered
      cases aims : call.asTarget with
      | false =>
          rw [aims] at rest
          subst rest
          simp [enter_targets aliases entered call.entity success]
      | true =>
          rw [aims] at rest
          subst rest
          have inside := enter_member aliases entered call.entity success
          have entering : aliases.register call.entity false = .ok entered :=
            register_ok_iff.mpr ⟨entered, success, rfl⟩
          have distinct := types_nodup entered (.register call.entity false reached entering)
          simpa using retarget_targets entered call.entity.name distinct inside

-- After a run the target is the type that was last made it, whatever was registered since.
theorem run_targets (calls : List Registration) :
    (empty.run calls).targets.map (·.type) = (empty.aimed calls).getLast?.toList := by
  induction calls using List.reverseRecOn with
  | nil => rfl
  | append_singleton calls call ih =>
      have before := run_reached empty calls .empty
      have last : (empty.aimed (calls ++ [call])).getLast? =
          ((empty.run calls).aimed? call).or (empty.aimed calls).getLast? := by
        have single : (empty.run calls).aimed [call] = ((empty.run calls).aimed? call).toList := by
          simp [aimed]
        rw [aimed_append, List.getLast?_append, single]
        cases (empty.run calls).aimed? call <;> rfl
      have stepped := attempt_targets (empty.run calls) call before
      rw [last, run_append]
      change ((empty.run calls).attempt call).targets.map (·.type) = _
      rw [stepped]
      cases (empty.run calls).aimed? call with
      | none => simpa using ih
      | some type => rfl

-- There is a target just when some registration made one, and it is the last one made.
theorem run_target (calls : List Registration) :
    match (empty.aimed calls).getLast? with
    | some type => ∃ participant, (empty.run calls).targets = [participant] ∧
        participant.type = type ∧ (empty.run calls).target = .ok participant
    | none => (empty.run calls).targets = [] ∧ ∃ fault,
        (empty.run calls).target = .error fault ∧ fault.category = .invariantViolation := by
  have ends := run_targets calls
  have head := target_head (empty.run calls)
  cases last : (empty.aimed calls).getLast? with
  | none =>
      rw [last] at ends
      have nobody : (empty.run calls).targets = [] := List.map_eq_nil_iff.mp ends
      rw [nobody] at head
      exact ⟨nobody, _, head, rfl⟩
  | some type =>
      rw [last] at ends
      obtain ⟨participant, alone, named⟩ := List.map_eq_singleton_iff.mp ends
      rw [alone] at head
      exact ⟨participant, alone, named, head⟩

theorem participant_numbered (aliases : Aliases) (reached : aliases.Reached) (position : Nat)
    (participant : Participant) (found : aliases.participants[position]? = some participant) :
    participant.aliasName = numbered position := by
  have named : aliases.names[position]? = some participant.aliasName := by
    rw [names, List.getElem?_map, found, Option.map_some]
  rw [reached_names _ reached, List.getElem?_map] at named
  obtain ⟨number, ranged, same⟩ := Option.map_eq_some_iff.mp named
  obtain ⟨_, counted⟩ := List.getElem?_eq_some_iff.mp ranged
  rw [List.getElem_range] at counted
  rw [counted, same]

theorem run_refused (aliases : Aliases) (call : Registration) (fault : Fault)
    (more : List Registration)
    (refused : aliases.register call.entity call.asTarget = .error fault) :
    aliases.run (call :: more) = aliases.run more := by
  change (aliases.attempt call).run more = _
  rw [attempt_refused refused]

/-- Whatever is registered, with or without success: no type takes part twice; the participant that
entered after `k` others is numbered `k`, for good; a refused registration might as well not have
been tried; and the target is the type that was last made it, or there is none. -/
theorem registrations_invariant (calls : List Registration) :
    (empty.run calls).types.Nodup ∧
      (∀ position participant, (empty.run calls).participants[position]? = some participant →
        participant.aliasName = numbered position) ∧
      (empty.run calls).names.Nodup ∧
      (∀ more type name, (empty.run calls).aliasOf? type = some name →
        (empty.run (calls ++ more)).aliasOf? type = some name) ∧
      (∀ call fault more, (empty.run calls).register call.entity call.asTarget = .error fault →
        empty.run (calls ++ call :: more) = empty.run (calls ++ more)) ∧
      match (empty.aimed calls).getLast? with
      | some type => ∃ participant, (empty.run calls).targets = [participant] ∧
          participant.type = type ∧ (empty.run calls).target = .ok participant
      | none => (empty.run calls).targets = [] ∧ ∃ fault,
          (empty.run calls).target = .error fault ∧ fault.category = .invariantViolation := by
  have reached := run_reached empty calls .empty
  refine ⟨types_nodup _ reached, participant_numbered _ reached, names_nodup _ reached, ?_, ?_,
    run_target calls⟩
  · intro more type name named
    rw [run_append]
    exact keeps_alias _ _ (run_keeps (empty.run calls) more) type name named
  · intro call fault more refused
    rw [run_append, run_append]
    exact run_refused (empty.run calls) call fault more refused

end Aliases

end MappedSql
