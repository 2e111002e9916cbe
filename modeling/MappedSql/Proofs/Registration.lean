import MappedSql.Aliases
import MappedSql.Proofs.Outcome
import MappedSql.Sample
import Mathlib.Data.List.Nodup

/-!
The aliases that registration can reach. The participants of a statement are numbered in the order
in which they entered, whatever was registered and whichever type is the target.
-/

namespace MappedSql.Aliases

open Outcome

inductive Reached : Aliases → Prop where
  | empty : Reached .empty
  | register {aliases entered : Aliases} (entity : EntityType) (asTarget : Bool) :
      Reached aliases → aliases.register entity asTarget = .ok entered → Reached entered

-- A type is refused before anything is changed, and made the target only after it was let in.
theorem registration_runs (aliases : Aliases) (entity : EntityType) (asTarget : Bool) :
    ((registration entity asTarget).run aliases).run =
      match aliases.enter entity with
      | .ok entered => (.ok (), if asTarget then entered.retarget entity.name else entered)
      | .error fault => (.error fault, aliases) := by
  unfold registration
  change ((do
    let entered ← liftM (aliases.enter entity)
    set entered
    if asTarget then modify (·.retarget entity.name) : ExceptT Fault (StateM Aliases) Unit).run
      aliases).run = _
  cases aliases.enter entity with
  | error fault => rfl
  | ok entered => cases asTarget <;> rfl

theorem register_eq_enter (aliases : Aliases) (entity : EntityType) (asTarget : Bool) :
    aliases.register entity asTarget = (aliases.enter entity).map fun entered =>
      if asTarget then entered.retarget entity.name else entered := by
  rw [register, registration_runs]
  cases aliases.enter entity <;> rfl

theorem register_ok_iff {aliases after : Aliases} {entity : EntityType} {asTarget : Bool} :
    aliases.register entity asTarget = .ok after ↔ ∃ entered, aliases.enter entity = .ok entered ∧
      (if asTarget then entered.retarget entity.name else entered) = after := by
  rw [register_eq_enter, map_ok_iff]

def names (aliases : Aliases) : List String :=
  aliases.participants.map (·.aliasName)

theorem retarget_names (aliases : Aliases) (type : String) :
    (aliases.retarget type).names = aliases.names := by
  simp [retarget, names]

theorem enter_names (aliases entered : Aliases) (entity : EntityType)
    (success : aliases.enter entity = .ok entered) :
    entered = aliases ∨ entered.names = aliases.names ++ [numbered aliases.names.length] := by
  cases found : aliases.find? entity.name with
  | some participant =>
      simp only [enter, found, Except.ok.injEq] at success
      exact .inl success.symm
  | none =>
      simp only [enter, found] at success
      obtain ⟨table, _, appended⟩ := bind_ok_iff.mp success
      rw [pure_ok_iff] at appended
      subst appended
      exact .inr (by simp [names])

-- The participant that entered after `k` others is numbered `k`.
theorem reached_names (aliases : Aliases) (reached : aliases.Reached) :
    aliases.names = (List.range aliases.names.length).map numbered := by
  induction reached with
  | empty => rfl
  | @register before after entity asTarget _ registered ih =>
      obtain ⟨entered, success, rest⟩ := register_ok_iff.mp registered
      have sameNames : after.names = entered.names := by
        subst rest
        cases asTarget with
        | false => rfl
        | true => exact retarget_names entered entity.name
      rw [sameNames]
      rcases enter_names before entered entity success with rfl | grown
      · exact ih
      · rw [grown, List.length_append, List.length_singleton, List.range_succ, List.map_append, ← ih]
        rfl

theorem reached_numbered (aliases : Aliases) (reached : aliases.Reached)
    (participant : Participant) (member : participant ∈ aliases.participants) :
    ∃ count, participant.aliasName = numbered count := by
  have named : participant.aliasName ∈ aliases.names := List.mem_map_of_mem member
  rw [reached_names aliases reached] at named
  obtain ⟨count, _, same⟩ := List.mem_map.mp named
  exact ⟨count, same.symm⟩

theorem find_member (aliases : Aliases) (type : String) (participant : Participant)
    (found : aliases.find? type = some participant) : participant ∈ aliases.participants :=
  List.mem_of_find?_eq_some found

def weird : Aliases :=
  ((empty.register ⟨"Multi", Sample.multi⟩ true).toOption).getD empty

theorem weird_reached : weird.Reached :=
  .register ⟨"Multi", Sample.multi⟩ true .empty rfl

end MappedSql.Aliases

/-!
What registration does to the participants that are there already: nothing. Types and aliases each
belong to one participant for good, and the target that a statement was started with stays its
target, because nothing that enters later is one.
-/

namespace MappedSql

open Outcome

theorem Number.digits_text_injective : Function.Injective Number.digitsText := by
  intro first second same
  have digits : Nat.toDigits 10 first = Nat.toDigits 10 second := String.ofList_injective same
  have read := congrArg (fun text => Nat.ofDigitChars 10 text 0) digits
  simpa [Nat.ofDigitChars_toDigits (by decide : 1 < 10) (by decide : 10 ≤ 10)] using read

namespace Aliases

theorem numbered_injective : Function.Injective numbered := by
  intro first second same
  exact Number.digits_text_injective ((String.append_right_inj _).mp same)

def types (aliases : Aliases) : List String :=
  aliases.participants.map (·.type)

theorem find_none_iff (aliases : Aliases) (type : String) :
    aliases.find? type = none ↔ type ∉ aliases.types := by
  simp [find?, types]

theorem names_nodup (aliases : Aliases) (reached : aliases.Reached) : aliases.names.Nodup := by
  rw [reached_names aliases reached]
  exact List.nodup_range.map numbered_injective

theorem enter_types (aliases entered : Aliases) (entity : EntityType)
    (success : aliases.enter entity = .ok entered) :
    (entity.name ∈ aliases.types ∧ entered = aliases) ∨
      (entity.name ∉ aliases.types ∧ ∃ table, Table.ofMapping entity.mapping = .ok table ∧
        entered.participants = aliases.participants ++
          [⟨entity.name, table, numbered aliases.participants.length, false⟩]) := by
  cases found : aliases.find? entity.name with
  | some participant =>
      simp only [enter, found, Except.ok.injEq] at success
      have known : entity.name ∈ aliases.types := by
        by_contra absent
        rw [(find_none_iff aliases entity.name).mpr absent] at found
        cases found
      exact .inl ⟨known, success.symm⟩
  | none =>
      simp only [enter, found] at success
      obtain ⟨table, mapped, appended⟩ := bind_ok_iff.mp success
      rw [pure_ok_iff] at appended
      subst appended
      exact .inr ⟨(find_none_iff aliases entity.name).mp found, table, mapped, rfl⟩

theorem retarget_types (aliases : Aliases) (type : String) :
    (aliases.retarget type).types = aliases.types := by
  simp [retarget, types]

theorem types_nodup (aliases : Aliases) (reached : aliases.Reached) : aliases.types.Nodup := by
  induction reached with
  | empty => exact List.nodup_nil
  | @register before after entity asTarget _ registered ih =>
      obtain ⟨entered, success, rest⟩ := register_ok_iff.mp registered
      have sameTypes : after.types = entered.types := by
        subst rest
        cases asTarget with
        | false => rfl
        | true => exact retarget_types entered entity.name
      rw [sameTypes]
      rcases enter_types before entered entity success with ⟨_, rfl⟩ | ⟨fresh, table, _, grown⟩
      · exact ih
      · rw [types, grown, List.map_append]
        exact ih.append (List.nodup_singleton _) (by simpa [types] using fresh)

-- A table takes part only if its mapping was accepted.
theorem reached_accepted (aliases : Aliases) (reached : aliases.Reached) :
    ∀ participant ∈ aliases.participants,
      ∃ mapping, Table.ofMapping mapping = .ok participant.table := by
  induction reached with
  | empty => exact fun participant member => absurd member List.not_mem_nil
  | @register before after entity asTarget _ registered ih =>
      obtain ⟨entered, success, rest⟩ := register_ok_iff.mp registered
      have grown : ∀ participant ∈ entered.participants,
          ∃ mapping, Table.ofMapping mapping = .ok participant.table := by
        rcases enter_types before entered entity success with ⟨_, rfl⟩ | ⟨_, table, mapped, grown⟩
        · exact ih
        · rw [grown, List.forall_mem_append, List.forall_mem_singleton]
          exact ⟨ih, entity.mapping, mapped⟩
      subst rest
      cases asTarget with
      | false => exact grown
      | true => simpa [retarget] using grown

theorem participant_of_type (aliases : Aliases) (reached : aliases.Reached)
    (first second : Participant) (one : first ∈ aliases.participants)
    (other : second ∈ aliases.participants) (same : first.type = second.type) : first = second :=
  List.inj_on_of_nodup_map (types_nodup aliases reached) one other same

theorem participant_of_name (aliases : Aliases) (reached : aliases.Reached)
    (first second : Participant) (one : first ∈ aliases.participants)
    (other : second ∈ aliases.participants) (same : first.aliasName = second.aliasName) :
    first = second :=
  List.inj_on_of_nodup_map (names_nodup aliases reached) one other same

theorem find_type (aliases : Aliases) (type : String) (participant : Participant)
    (found : aliases.find? type = some participant) : participant.type = type := by
  simpa using List.find?_some found

theorem alias_of_iff (aliases : Aliases) (reached : aliases.Reached) (type name : String) :
    aliases.aliasOf? type = some name ↔
      ∃ participant ∈ aliases.participants, participant.type = type ∧ participant.aliasName = name := by
  constructor
  · intro known
    obtain ⟨participant, found, named⟩ := Option.map_eq_some_iff.mp known
    exact ⟨participant, aliases.find_member type participant found,
      find_type aliases type participant found, named⟩
  · rintro ⟨participant, member, rfl, rfl⟩
    cases found : aliases.find? participant.type with
    | none => exact absurd (List.mem_map_of_mem member) ((find_none_iff aliases _).mp found)
    | some first =>
        have same := participant_of_type aliases reached first participant
          (aliases.find_member _ first found) member (find_type aliases _ first found)
        rw [aliasOf?, found, same, Option.map_some]

/-- The participants of `before` are still there, and those after them are no targets. -/
def Extends (before after : Aliases) : Prop :=
  ∃ newcomers, after.participants = before.participants ++ newcomers ∧
    ∀ newcomer ∈ newcomers, newcomer.isTarget = false

theorem extends_refl (aliases : Aliases) : aliases.Extends aliases :=
  ⟨[], (List.append_nil _).symm, fun _ member => absurd member List.not_mem_nil⟩

theorem extends_trans (first second third : Aliases) (before : first.Extends second)
    (after : second.Extends third) : first.Extends third := by
  obtain ⟨early, grown, noTarget⟩ := before
  obtain ⟨late, more, neither⟩ := after
  refine ⟨early ++ late, by rw [more, grown, List.append_assoc], fun newcomer member => ?_⟩
  rcases List.mem_append.mp member with inEarly | inLate
  · exact noTarget newcomer inEarly
  · exact neither newcomer inLate

theorem extends_member (before after : Aliases) (extension : before.Extends after)
    (participant : Participant) (member : participant ∈ before.participants) :
    participant ∈ after.participants := by
  obtain ⟨newcomers, grown, _⟩ := extension
  rw [grown]
  exact List.mem_append_left newcomers member

theorem extends_target (before after : Aliases) (extension : before.Extends after) :
    after.target = before.target := by
  obtain ⟨newcomers, grown, noTarget⟩ := extension
  have untargeted : newcomers.find? (·.isTarget) = none := by
    rw [List.find?_eq_none]
    exact fun newcomer member => by simp [noTarget newcomer member]
  rw [target, target, grown, List.find?_append, untargeted, Option.or_none]

-- Only the registration of a target does more than let the type in.
theorem register_enters (aliases entered : Aliases) (entity : EntityType)
    (registered : aliases.register entity false = .ok entered) :
    aliases.enter entity = .ok entered := by
  obtain ⟨same, success, rest⟩ := register_ok_iff.mp registered
  exact rest ▸ success

theorem register_extends (aliases entered : Aliases) (entity : EntityType)
    (registered : aliases.register entity false = .ok entered) : aliases.Extends entered := by
  have success := register_enters aliases entered entity registered
  rcases enter_types aliases entered entity success with ⟨_, rfl⟩ | ⟨_, table, _, grown⟩
  · exact extends_refl entered
  · refine ⟨_, grown, fun newcomer member => ?_⟩
    rw [List.mem_singleton.mp member]

theorem register_types (aliases entered : Aliases) (entity : EntityType)
    (registered : aliases.register entity false = .ok entered) (type : String) :
    type ∈ entered.types ↔ type ∈ aliases.types ∨ type = entity.name := by
  have success := register_enters aliases entered entity registered
  rcases enter_types aliases entered entity success with ⟨known, rfl⟩ | ⟨_, table, _, grown⟩
  · constructor
    · exact .inl
    · rintro (there | rfl)
      · exact there
      · exact known
  · rw [types, grown, List.map_append]
    simp [types]

theorem target_member (aliases : Aliases) (participant : Participant)
    (targeted : aliases.target = .ok participant) : participant ∈ aliases.participants := by
  unfold target at targeted
  split at targeted
  · rename_i first found
    exact Except.ok.inj targeted ▸ List.mem_of_find?_eq_some found
  · cases targeted

-- The first registration of a statement makes its type the target, with the first alias.
theorem first_registered (aliases : Aliases) (entity : EntityType)
    (registered : empty.register entity true = .ok aliases) :
    ∃ table, Table.ofMapping entity.mapping = .ok table ∧
      aliases.participants = [⟨entity.name, table, numbered 0, true⟩] := by
  obtain ⟨entered, success, rest⟩ := register_ok_iff.mp registered
  subst rest
  rcases enter_types empty entered entity success with ⟨known, _⟩ | ⟨_, table, mapped, grown⟩
  · simp [types, empty] at known
  · refine ⟨table, mapped, ?_⟩
    simp only [↓reduceIte, retarget, grown]
    simp [empty]

end Aliases

end MappedSql
