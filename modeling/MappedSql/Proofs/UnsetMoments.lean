import MappedSql.Proofs.KeyTests
import MappedSql.Proofs.Moments

/-!
Which times count as unset. A generated column puts the current time in place of two moments, the
start of Unix time and that of the earliest timestamp. A time with an offset is asked for its whole
seconds only, so the fractions of the first second count as unset too where they have an offset.
-/

namespace MappedSql

open Calendar

namespace Calendar

namespace Moment

/-- The two moments that stand for no time. -/
def Unset (moment : Moment) : Prop :=
  moment = ⟨0, 0⟩ ∨ moment = Timestamp.earliest.moment

def WithinFirstSecond (moment : Moment) : Prop :=
  moment.seconds = 0 ∧ moment.nanosecond ≠ 0

instance (moment : Moment) : Decidable moment.Unset :=
  inferInstanceAs (Decidable (_ ∨ _))

theorem first_second_not_unset (moment : Moment) (within : moment.WithinFirstSecond) :
    ¬ moment.Unset := by
  rintro (rfl | rfl)
  · exact within.2 rfl
  · exact absurd within.1 (by decide)

theorem first_second_iff (moment : Moment) :
    moment.seconds = 0 ↔ moment = ⟨0, 0⟩ ∨ moment.WithinFirstSecond := by
  obtain ⟨seconds, nanosecond⟩ := moment
  simp only [WithinFirstSecond, mk.injEq]
  omega

end Moment

theorem Timestamp.epoch_moment : epoch.moment = ⟨0, 0⟩ := by decide

theorem Timestamp.epoch_seconds_iff (timestamp : Timestamp) :
    timestamp.date = .epoch ∧ timestamp.time.second = 0 ↔ timestamp.moment.seconds = 0 := by
  have early := timestamp.time.second_lt
  simp only [moment, secondsPerDay] at early ⊢
  constructor
  · rintro ⟨day, start⟩
    rw [day, start]
    omega
  · intro start
    have day : timestamp.date.number = Date.epoch.number := by omega
    exact ⟨Date.number_injective _ _ day, by omega⟩

end Calendar

namespace Cell

theorem is_unset_iff (timestamp : Timestamp) :
    isUnset timestamp = true ↔ timestamp.moment.Unset := by
  have is (other : Timestamp) : timestamp = other ↔ timestamp.moment = other.moment :=
    ⟨congrArg Timestamp.moment, timestamp.moment_injective other⟩
  rw [isUnset, Bool.or_eq_true, beq_iff_eq, beq_iff_eq, is, is, Timestamp.epoch_moment,
    Moment.Unset]

theorem is_unset_moment_iff (timestamp : OffsetTimestamp) :
    isUnsetMoment timestamp = true ↔
      timestamp.moment.Unset ∨ timestamp.moment.WithinFirstSecond := by
  have earliest : timestamp.utc = .earliest ↔ timestamp.moment = Timestamp.earliest.moment :=
    Iff.trans eq_comm ((timestamp.utc_iff .earliest).symm.trans eq_comm)
  simp only [isUnsetMoment, Bool.or_eq_true, Bool.and_eq_true, beq_iff_eq]
  rw [Timestamp.epoch_seconds_iff, timestamp.utc_moment, earliest, Moment.first_second_iff,
    Moment.Unset, or_right_comm]

end Cell

namespace Value

def isTime : Value → Bool
  | timestamp _ | utcTimestamp _ | offsetTimestamp _ => true
  | _ => false

def times (zoneless : Timestamp) (zoned : OffsetTimestamp) : List Value :=
  [timestamp zoneless, utcTimestamp zoneless, offsetTimestamp zoned]

theorem set_of_no_time (value : Value) (noTime : value.isTime = false) (noNull : value ≠ null)
    (noNil : value ≠ guid .nil) : value.isUnset = false := by
  cases value with
  | null => exact absurd rfl noNull
  | guid value =>
      rw [isUnset, ← Bool.not_eq_true]
      exact fun zero => noNil (congrArg (guid ∘ Guid.mk) (beq_iff_eq.mp zero))
  | timestamp _ | utcTimestamp _ | offsetTimestamp _ => cases noTime
  | _ => rfl

end Value

theorem Cell.fill_time (kind : Kind) (value : Value) (time : value.isTime = true)
    (unset : value.isUnset = true) : ∃ withOffset, fill kind value = currentTime withOffset := by
  cases value with
  | timestamp value | utcTimestamp value | offsetTimestamp value => exact ⟨_, if_pos unset⟩
  | _ => cases time

namespace Column

def Makes (column : Column) (value : Value) (cell : Cell) : Prop :=
  ∀ record : Record, record.find? column.member = some (.ok value) →
    column.read record = .ok cell

def Stores (column : Column) (value : Value) : Prop :=
  column.Makes value (.stored value)

def Replaces (column : Column) (value : Value) : Prop :=
  ∃ withOffset, column.Makes value (.currentTime withOffset)

section Generated

variable (column : Column) (generated : column.autoGenerate = true)

include generated

theorem makes_iff (value : Value) (cell : Cell) :
    column.Makes value cell ↔ Cell.fill column.kind value = cell := by
  have read (record : Record) (held : record.find? column.member = some (.ok value)) :
      column.read record = .ok (Cell.fill column.kind value) := by
    rw [Column.read, Record.read?, held]
    simp [generated, bind, Except.bind, pure, Except.pure]
  constructor
  · intro makes
    let only : Record := ⟨"", [(column.member, .ok value)]⟩
    have held : only.find? column.member = some (.ok value) := by simp [only, Record.find?]
    exact Except.ok.inj ((read only held).symm.trans (makes only held))
  · rintro rfl
    exact read

theorem stores_set (value : Value) (present : value.isUnset = false) : column.Stores value :=
  (column.makes_iff generated value _).mpr (Cell.fill_set column.kind value present)

theorem stores_not_replaced (value : Value) : column.Stores value → ¬ column.Replaces value := by
  rintro stores ⟨withOffset, replaces⟩
  have same := (column.makes_iff generated value _).mp stores
  rw [(column.makes_iff generated value _).mp replaces] at same
  cases same

theorem replaces_time_iff (value : Value) (time : value.isTime = true) :
    column.Replaces value ↔ value.isUnset = true := by
  constructor
  · rintro replaces
    refine Bool.not_eq_false _ ▸ fun present => ?_
    exact column.stores_not_replaced generated value (column.stores_set generated value present) replaces
  · intro unset
    obtain ⟨withOffset, current⟩ := Cell.fill_time column.kind value time unset
    exact ⟨withOffset, (column.makes_iff generated value _).mpr current⟩

theorem stores_time_iff (value : Value) (time : value.isTime = true) :
    column.Stores value ↔ ¬ column.Replaces value := by
  refine ⟨column.stores_not_replaced generated value, fun kept => column.stores_set generated value ?_⟩
  rw [column.replaces_time_iff generated value time] at kept
  exact Bool.not_eq_true _ ▸ kept

/-- In a generated column a time without an offset is replaced just at the two moments that count as
unset, and one with an offset in the rest of the first second of Unix time besides. So the times of
one moment are all replaced or all stored just when it does not lie there; and whatever is no time,
null or the nil identifier is stored. -/
theorem unset_moments_alike_iff (zoneless : Timestamp) (zoned : OffsetTimestamp)
    (same : zoned.moment = zoneless.moment) :
    (∀ time ∈ Value.times zoneless zoned, column.Stores time ↔ ¬ column.Replaces time) ∧
      (column.Replaces (.timestamp zoneless) ↔ zoneless.moment.Unset) ∧
      (column.Replaces (.utcTimestamp zoneless) ↔ zoneless.moment.Unset) ∧
      (column.Replaces (.offsetTimestamp zoned) ↔
        zoneless.moment.Unset ∨ zoneless.moment.WithinFirstSecond) ∧
      ((∀ time ∈ Value.times zoneless zoned, column.Replaces time) ∨
          (∀ time ∈ Value.times zoneless zoned, column.Stores time) ↔
        ¬ zoneless.moment.WithinFirstSecond) ∧
      ∀ other : Value, other.isTime = false → other ≠ .null → other ≠ .guid .nil →
        column.Stores other := by
  have stores (time : Value) (isTime : time.isTime = true) :=
    column.stores_time_iff generated time isTime
  have first : column.Replaces (.timestamp zoneless) ↔ zoneless.moment.Unset :=
    (column.replaces_time_iff generated _ rfl).trans (Cell.is_unset_iff zoneless)
  have second : column.Replaces (.utcTimestamp zoneless) ↔ zoneless.moment.Unset :=
    (column.replaces_time_iff generated _ rfl).trans (Cell.is_unset_iff zoneless)
  have third : column.Replaces (.offsetTimestamp zoned) ↔
      zoneless.moment.Unset ∨ zoneless.moment.WithinFirstSecond :=
    same ▸ (column.replaces_time_iff generated _ rfl).trans (Cell.is_unset_moment_iff zoned)
  have apart := zoneless.moment.first_second_not_unset
  have each (holds : Value → Prop) : (∀ time ∈ Value.times zoneless zoned, holds time) ↔
      holds (.timestamp zoneless) ∧ holds (.utcTimestamp zoneless) ∧
        holds (.offsetTimestamp zoned) := by
    simp [Value.times]
  refine ⟨?_, first, second, third, ?_, ?_⟩
  · rw [each]
    exact ⟨stores _ rfl, stores _ rfl, stores _ rfl⟩
  · rw [each, each, stores _ rfl, stores _ rfl, stores _ rfl, first, second, third]
    constructor
    · rintro (⟨unset, -, -⟩ | ⟨-, -, kept⟩) within
      · exact apart within unset
      · exact kept (.inr within)
    · intro outside
      by_cases unset : zoneless.moment.Unset
      · exact .inl ⟨unset, unset, .inl unset⟩
      · exact .inr ⟨unset, unset, not_or.mpr ⟨unset, outside⟩⟩
  · intro other noTime noNull noNil
    exact column.stores_set generated other (other.set_of_no_time noTime noNull noNil)

end Generated

def arrival : Column :=
  .ofMapping (Sample.unmapped "at_off" .offsetTimestamp) { name := "AtOff", autoGenerate := true }

def westernEpoch : OffsetTimestamp :=
  ⟨Timestamp.epoch.minusSeconds 3600, -3600⟩

theorem western_epoch_replaced :
    westernEpoch.moment = Timestamp.epoch.moment ∧
      ∀ time ∈ Value.times .epoch westernEpoch, arrival.Replaces time := by
  have same : westernEpoch.moment = Timestamp.epoch.moment := by decide
  have unset : Timestamp.epoch.moment.Unset := by decide
  obtain ⟨_, first, second, third, _, _⟩ :=
    arrival.unset_moments_alike_iff rfl .epoch westernEpoch same
  refine ⟨same, ?_⟩
  simp only [Value.times, List.forall_mem_cons]
  exact ⟨first.mpr unset, second.mpr unset, third.mpr (.inl unset), by simp⟩

def halfSecond : Timestamp :=
  ⟨.epoch, { TimeOfDay.midnight with nanosecond := 500000000 }⟩

def easternHalfSecond : OffsetTimestamp :=
  ⟨halfSecond.minusSeconds (-3600), 3600⟩

def eventAt (time zoned : Value) : Record :=
  ⟨"Event", [("seq", .ok (.integer .int32 1)), ("token", .ok (.guid ⟨1⟩)), ("at", .ok time),
    ("at_off", .ok zoned), ("raw", .ok .null), ("tags", .ok .null)]⟩

/-- The moment does not count as unset; the times without an offset are written and the one with an
offset is not. -/
theorem half_second_overwritten :
    easternHalfSecond.moment = halfSecond.moment ∧ ¬ halfSecond.moment.Unset ∧
      ∀ time ∈ [Value.timestamp halfSecond, .utcTimestamp halfSecond],
        Script.insert ⟨"Event", Sample.event⟩ (eventAt time (.offsetTimestamp easternHalfSecond))
          .none = .ok ("INSERT INTO [log].[Events] ( [Seq],[Token],[At],[AtOff],[Raw],[Tags] ) " ++
            "VALUES ( 1,'00000000-0000-0000-0000-000000000001','1970-01-01T00:00:00Z','<now>'," ++
            "NULL,NULL );") := by
  refine ⟨by decide, by decide, ?_⟩
  simp only [List.forall_mem_cons]
  exact ⟨by decide +kernel, by decide +kernel, by simp⟩

end Column

end MappedSql
